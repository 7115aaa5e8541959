import Freshen.Shell.Awk.Excerpt
import Freshen.Shell.Awk.Traffic
import Freshen.Shell.Utility.Moment
/-! What expressions are worth and what statements do. Everything is bounded by how deep it may
go. -/

namespace Freshen.Shell.Awk

inductive Place
  | variable_ (x : Name)
  | fieldCount
  | field (i : Nat)
  | element (table : Nat) (key : Key)

namespace Act

def Place.read : Place → Act Value
  | .variable_ x => variable_ x
  | .fieldCount => do return .ofNat (← fieldCount)
  | .field i => field i
  | .element id k => changeTable id fun t =>
    let t := t.created k
    ((t.get? k).getD .unset, t)

def Place.write (p : Place) (v : Value) : Act Unit := do
  match p with
  | .variable_ x => assign x v
  | .fieldCount =>
    let n := Value.word true v.toNumber
    if n < 0 then fail s!"negative value assigned to NF: {n}"
    setFieldCount n.toNat
  | .field i => setField i v
  | .element id k => changeTable id fun t => ((), t.set k v)

def keyOf (v : Value) : Act Key := do
  match v with
  | .number x =>
    if x == x.floor && x.abs < 2147483648 then
      match (Floating.ofFloat x).truncated with
      | some n => return .whole n
      | none => return .text (← toText v)
    else return .text (← toText v)
  | v => return .text (← toText v)

def joinedBy (separator : Bytes) (vs : List Value) : Act Bytes := do
  return List.intercalate separator (← vs.mapM toText)

def printedText (v : Value) : Act Bytes := do
  match v with
  | .number x =>
    match Value.wholeText? x with
    | some s => return bytesOf s
    | none => return Value.numberText (← sharedText Variable.outputFormat) x
  | v => toText v

def formattedAs (name : String) (vs : List Value) (whenPartial : Bytes → Act Unit) : Act Bytes := do
  match vs with
  | [] => return []
  | f :: vs =>
    let format ← toText f
    let conversion ← sharedText Variable.conversionFormat
    let o := formatted (Value.toText conversion) format vs
    let shown := s!"{name}(\"{stringOf format}\")"
    match o.fault with
    | none => return o.out
    | some .tooFew =>
      whenPartial o.out
      fail s!"not enough arguments passed to {shown}"
    | some (.improper n) =>
      whenPartial o.out
      fail s!"improper conversion(number {n}) in {shown}"

def separatorOf (e : Option Expr) (value : Expr → Act Value) : Act Separator := do
  match e with
  | none => return (← get).separator
  | some (.regular r) => return .matching r
  | some e => separator (← toText (← value e))

def regularOf (e : Expr) (value : Expr → Act Value) : Act Regular := do
  match e with
  | .regular r => return r
  | e => compile (← toText (← value e))

def truth (b : Bool) : Value := .ofBool b

def locate (value : Expr → Act Value) : Target → Act Place
  | .variable_ x => return .variable_ x
  | .fieldCount => return .fieldCount
  | .field e => do return .field (← fieldIndex (← value e).toNumber)
  | .element a e => do
    let k ← keyOf (← value e)
    let id ← tableNumber a
    changeTable id fun t => ((), t.created k)
    return .element id k

def received (value : Expr → Act Value) (t : Option Target) (bs : Bytes) : Act Unit := do
  match t with
  | none => setRecord bs
  | some t => Place.write (← locate value t) (.ofInput bs)

def answer (value : Expr → Act Value) (t : Option Target) :
    Except OsError (Option Bytes) → Act Value
  | .ok (some bs) => do
    received value t bs
    return .number 1
  | .ok none => return .number 0
  | .error _ => return .number (-1)

def random : Act Float := do
  let m ← get
  let n := (m.random * 6364136223846793005 + 1442695040888963407) % 18446744073709551616
  set { m with random := n }
  return Float.ofNat (n / 2048) / 9007199254740992.0

def seconds : Act Int := return (← ask .time).number

def builtin (value : Expr → Act Value) (f : Builtin) (args : List Expr) : Act Value := do
  let text (e : Expr) : Act Bytes := do toText (← value e)
  let number (e : Expr) : Act Float := do return (← value e).toNumber
  let mathematical (g : Float → Float) (e : Expr) : Act Value := do return .number (g (← number e))
  match f, args with
  | .length, [] => return .ofNat (← wholeRecord).length
  | .length, [.value (.variable_ x)] =>
    match ← cell x with
    | .table id => return .ofNat (← tableAt id).size
    | .value v => return .ofNat (← toText v).length
  | .length, e :: _ => return .ofNat (← text e).length
  | .index, [a, b] =>
    let a ← text a
    return .ofNat (Excerpt.index a (← text b))
  | .substring, s :: start :: length =>
    let bs ← text s
    let start := Value.word true (← number start)
    let length ← length.head?.mapM fun e => do return Value.word true (← number e)
    return .text (Excerpt.substring bs start length)
  | .split, s :: .value (.variable_ a) :: e =>
    let bs ← text s
    let parts := (← separatorOf e.head? value).split bs
    let id ← tableNumber a
    changeTable id fun _ => ((), Table.ofList (parts.map Value.ofInput))
    return .ofNat parts.length
  | .substitute, e :: r :: t | .substituteAll, e :: r :: t =>
    let regular ← regularOf e value
    let replacement ← text r
    let place ← match t with
      | .value t :: _ => locate value t
      | _ => pure (.field 0)
    let old ← toText (← Place.read place)
    let (count, new) := Excerpt.replaced regular (f = .substituteAll) replacement old
    if 0 < count then Place.write place (.text new)
    return .ofNat count
  | .match_, [s, e] =>
    let bs ← text s
    let found := (← regularOf e value).find? none bs
    let start : Int := (found.map fun f => (f.skipped.length : Int) + 1).getD 0
    let length : Int := (found.map fun f => (f.matched.length : Int)).getD (-1)
    setShared Variable.matchStart (.number (Float.ofInt start))
    setShared Variable.matchLength (.number (Float.ofInt length))
    return .number (Float.ofInt start)
  | .format, es => return .text (← formattedAs "sprintf" (← es.mapM value) fun _ => pure ())
  | .upper, [e] => return .text (Excerpt.upper (← text e))
  | .lower, [e] => return .text (Excerpt.lower (← text e))
  | .sine, [e] => mathematical Float.sin e
  | .cosine, [e] => mathematical Float.cos e
  | .arcTangent, [a, b] =>
    let y ← number a
    return .number (Float.atan2 y (← number b))
  | .exponential, [e] => mathematical Float.exp e
  | .logarithm, [e] => mathematical Float.log e
  | .root, [e] => mathematical Float.sqrt e
  | .whole, [e] => mathematical (fun x => if x < 0 then x.ceil else x.floor) e
  | .random, _ => return .number (← random)
  | .seed, es =>
    let old := (← get).seed
    let new ← match es with
      | e :: _ => value e
      | [] => do pure (.number (Float.ofInt (← seconds)))
    modify fun m => { m with
      seed := new
      random := (Floating.ofFloat new.toNumber).truncated.getD 0 |>.toNat }
    return old
  | .close, [e] => return .number (Float.ofInt (← close (← text e)))
  | .system, [e] => return .number (Float.ofInt (← system (← text e)))
  | .flush, _ =>
    flush
    return .number 0
  | .time, _ => return .number (Float.ofInt (← seconds))
  | .timeText, es =>
    let format ← match es with
      | e :: _ => text e
      | [] => pure (bytesOf "%c")
    let at_ ← match es with
      | _ :: e :: _ => do pure (Value.word true (← number e))
      | _ => seconds
    return .text (bytesOf (Moment.text (at_ * Moment.second) (stringOf format)))
  | .timeOf, [e] =>
    let parts := ((stringOf (← text e)).splitOn " ").filterMap String.toNat?
    match parts with
    | y :: mo :: d :: h :: mi :: s :: _ =>
      match Moment.ofParts? y mo d h mi s 0 with
      | some t => return .number (Float.ofInt (t / Moment.second))
      | none => return .number (-1)
    | _ => return .number (-1)
  | _, _ => return .unset

def attempt (body : Act Unit) : Act (Option Stop) :=
  tryCatch (do body; return none) fun s => match s with
    | .break => return some .break
    | .continue => return some .continue
    | s => throw s

def tooDeep : String := "program limit exceeded: eval stack size=1024"

mutual

def value (p : Program) : Nat → Expr → Act Value
  | 0, _ => throw (.failed tooDeep)
  | n + 1, e => do
    match e with
    | .number x => return .number x
    | .text bs => return .text bs
    | .regular r => return truth (r.occursIn (← wholeRecord))
    | .value t => Place.read (← locate (value p n) t)
    | .tuple es =>
      return .text (← joinedBy (← sharedText Variable.keySeparator) (← es.mapM (value p n)))
    | .assign t e =>
      let place ← locate (value p n) t
      let v ← value p n e
      Place.write place v
      return v
    | .update t o e =>
      let place ← locate (value p n) t
      let y := (← value p n e).toNumber
      let v := Value.number (o.apply (← Place.read place).toNumber y)
      Place.write place v
      return v
    | .bump t d =>
      let place ← locate (value p n) t
      let x := (← Place.read place).toNumber
      Place.write place (.number (x + d))
      return .number x
    | .arithmetic o a b =>
      let x := (← value p n a).toNumber
      return .number (o.apply x (← value p n b).toNumber)
    | .comparison o a b =>
      let x ← value p n a
      let y ← value p n b
      let format ← sharedText Variable.conversionFormat
      return truth (o.holds (Value.order format x y))
    | .joined a b =>
      let x ← toText (← value p n a)
      return .text (x ++ (← toText (← value p n b)))
    | .negative e => return .number (-(← value p n e).toNumber)
    | .numeric e => return .number (← value p n e).toNumber
    | .not e => return truth !(← value p n e).isTrue
    | .both a b =>
      if (← value p n a).isTrue then return truth (← value p n b).isTrue else return truth false
    | .either a b =>
      if (← value p n a).isTrue then return truth true else return truth (← value p n b).isTrue
    | .choice c a b => if (← value p n c).isTrue then value p n a else value p n b
    | .resembles a e =>
      let bs ← toText (← value p n a)
      return truth ((← regularOf e (value p n)).occursIn bs)
    | .contains e a =>
      let k ← keyOf (← value p n e)
      changeTable (← tableNumber a) fun t => (truth (t.contains k), t.used k)
    | .call f args => call p n f args
    | .builtin f args => builtin (value p n) f args
    | .record t =>
      match ← nextRecord p with
      | some bs =>
        received (value p n) t bs
        return .number 1
      | none => return .number 0
    | .recordOfFile e t =>
      let name ← toText (← value p n e)
      answer (value p n) t (← recordFrom name false)
    | .recordOfCommand e t =>
      let name ← toText (← value p n e)
      answer (value p n) t (← recordFrom name true)

def call (p : Program) : Nat → Nat → List Expr → Act Value
  | 0, _, _ => throw (.failed tooDeep)
  | n + 1, f, args => do
    match p.functions[f]? with
    | none => return .unset
    | some f =>
      let count := (← get).tables.size
      let cells ← f.parameters.zipIdx.mapM fun (isTable, i) => do
        match isTable, args[i]? with
        | false, some e => return Cell.value (← value p n e)
        | false, none => return .value .unset
        | true, some (.value (.variable_ x)) => cell x
        | true, _ =>
          let m ← get
          set { m with tables := m.tables.push {} }
          return .table m.tables.size
      let outer := (← get).own
      modify fun m => { m with own := cells.toArray }
      let result ← tryCatch (do execute p n f.body; return Value.unset) fun s => match s with
        | .return v => return v
        | s => throw s
      modify fun m => { m with own := outer, tables := m.tables.extract 0 count }
      return result

def execute (p : Program) : Nat → Statement → Act Unit
  | 0, _ => throw (.failed tooDeep)
  | n + 1, s => do
    let output (sink : Option (Sink × Expr)) (bs : Bytes) : Act Unit := do
      match sink with
      | none => print bs
      | some (s, e) => printTo s (← toText (← value p n e)) bs
    let loopBody (s : Statement) : Act Bool := do
      match ← attempt (execute p n s) with
      | some .break => return false
      | _ => return true
    match s with
    | .nothing => return
    | .evaluate e => discard (value p n e)
    | .print es sink =>
      let bs ← match es with
        | [] => wholeRecord
        | es => do
          let texts ← es.mapM fun e => do printedText (← value p n e)
          pure (List.intercalate (← sharedText Variable.outputFieldSeparator) texts)
      output sink (bs ++ (← sharedText Variable.outputRecordSeparator))
    | .printFormat es sink =>
      output sink (← formattedAs "printf" (← es.mapM (value p n)) (output sink))
    | .block ss => for s in ss do execute p n s
    | .ifElse c a b => if (← value p n c).isTrue then execute p n a else execute p n b
    | .while c after s =>
      iterate () fun _ => do
        let goesOn ← match c with
          | some c => do pure (← value p n c).isTrue
          | none => pure true
        if !goesOn then return .done ()
        else if ← loopBody s then
          execute p n after
          return .again ()
        else return .done ()
    | .doWhile s c =>
      iterate () fun _ => do
        if ← loopBody s then
          if (← value p n c).isTrue then return .again () else return .done ()
        else return .done ()
    | .forKeys x a s =>
      let ks ← changeTable (← tableNumber a) Table.keys
      let place ← locate (value p n) x
      iterate ks fun ks => do
        match ks with
        | [] => return .done ()
        | k :: ks =>
          Place.write place (.text k)
          if ← loopBody s then return .again ks else return .done ()
    | .next => throw .next
    | .nextFile => throw .nextFile
    | .break => throw .break
    | .continue => throw .continue
    | .exit e =>
      match e with
      | some e =>
        let status := Value.word true (← value p n e).toNumber
        modify fun m => { m with status }
      | none => pure ()
      throw .exit
    | .return e =>
      match e with
      | some e => throw (.return (← value p n e))
      | none => throw (.return .unset)
    | .delete a e =>
      let id ← tableNumber a
      match e with
      | some e =>
        let k ← keyOf (← value p n e)
        changeTable id fun t => ((), t.erase k)
      | none => changeTable id fun _ => ((), {})

end

end Act
end Freshen.Shell.Awk
