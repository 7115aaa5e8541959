import Freshen.Shell.Difference.Report
import Freshen.Shell.Regular.Written
import Freshen.Shell.Utility.Moment
import Freshen.Shell.Utility.Text
/-! Whether files are the same, and in what they differ. -/

namespace Freshen.Shell.Utility

def namedMisuse (c : Call) (complaint : String) : Result :=
  { disk := c.disk, status := 2
    complaints := [c.name ++ ": " ++ complaint, c.name ++ ": " ++ advice c] }

def octalText (b : UInt8) : String := padLeft 3 (String.ofList (Nat.toDigits 8 b.toNat))

def visible (b : UInt8) : String :=
  Text.Utf8.lenient ⟨(({ marksTabs := true, marksOthers := true } : Display).byte b).toArray⟩

structure Comparison where
  isSilent : Bool := false
  listsAll : Bool := false
  showsBytes : Bool := false

def endPlace (k : Comparison) (before : Bytes) : String :=
  let count := before.length
  if count = 0 then "which is empty"
  else if k.listsAll then s!"after byte {count}"
  else if before.getLast? = some 10 then s!"after byte {count}, line {before.count 10}"
  else s!"after byte {count}, in line {before.count 10 + 1}"

def cmpTexts (c : Call) (k : Comparison) (f g : String) (x y : Bytes) : Result :=
  let common := min x.length y.length
  let differing := ((x.zip y).zipIdx 1).filter fun e => e.1.1 ≠ e.1.2
  let before := (if x.length ≤ y.length then x else y).take common
  let eof (r : Result) : Result :=
    if x.length = y.length then r
    else
      let ended := if x.length < y.length then f else g
      complain c r 1 s!"EOF on {ended} {endPlace k before}"
  if x = y then unchanged c
  else if k.isSilent then { unchanged c with status := 1 }
  else if k.listsAll then
    let width := (toString (max x.length y.length)).length
    let row (e : (UInt8 × UInt8) × Nat) : String :=
      let ((p, q), i) := e
      let number := padLeft width (toString i)
      if k.showsBytes then
        let shown := visible p
        let gap := String.ofList (List.replicate (4 - shown.length) ' ')
        s!"{number} {octalText p} {shown}{gap} {octalText q} {visible q}\n"
      else s!"{number} {octalText p} {octalText q}\n"
    eof { printing c (bytesOf (String.join (differing.map row))) with status := 1 }
  else match differing with
  | ((p, q), i) :: _ =>
    let line := (x.take (i - 1)).count 10 + 1
    let text := if k.showsBytes then
        s!"{f} {g} differ: byte {i}, line {line} is {octalText p} {visible p} " ++
          s!"{octalText q} {visible q}\n"
      else s!"{f} {g} differ: char {i}, line {line}\n"
    { printing c (bytesOf text) with status := 1 }
  | [] => eof (unchanged c)

def cmp (c : Call) : Result :=
  let menu : Arguments.Menu :=
    { known := ['s', 'l', 'b'], valued := ['n', 'i'], long := longNames c.name }
  match Arguments.parse menu c.args with
  | .error f => namedMisuse c f.message
  | .ok a =>
    let number (option text : String) : Except String Nat :=
      match scaledNumber? text with
      | some n => .ok n
      | none => .error ("invalid " ++ option ++ " value " ++ quoted text)
    let skips (text : String) : Except String (Nat × Nat) :=
      match (text.splitOn ":").mapM (number "--ignore-initial") with
      | .ok [n] => .ok (n, n)
      | .ok (n :: m :: _) => .ok (n, m)
      | .ok [] => .ok (0, 0)
      | .error e => .error e
    let bound := match a.value? 'n' with
      | none => Except.ok none
      | some t => (number "--bytes" t).map some
    match a.operands with
    | [] => namedMisuse c ("missing operand after " ++ quoted c.name)
    | _ :: _ :: _ :: _ :: extra :: _ => namedMisuse c ("extra operand " ++ quoted extra)
    | f :: rest =>
      let g := rest.headD "-"
      let first := match a.value? 'i', rest.drop 1 with
        | some t, _ => skips t
        | none, [n] => (number "--ignore-initial" n).map (·, 0)
        | none, n :: m :: _ => do
          return (← number "--ignore-initial" n, ← number "--ignore-initial" m)
        | none, [] => .ok (0, 0)
      match first, bound with
      | .error e, _ | _, .error e => namedMisuse c e
      | .ok (p, q), .ok bound =>
        if a.has 's' && a.has 'l' then namedMisuse c "options -l and -s are incompatible"
        else
          let part (skip : Nat) (bs : Bytes) : Bytes :=
            let bs := bs.drop skip
            match bound with
            | some n => bs.take n
            | none => bs
          let k : Comparison :=
            { isSilent := a.has 's', listsAll := a.has 'l', showsBytes := a.has 'b' }
          let refusal (file : String) (e : OsError) : Result :=
            if a.has 's' then { unchanged c with status := 2 }
            else failing c 2 s!"{file}: {e.text}"
          let r := match contents c f, contents c g with
            | .ok x, .ok y => cmpTexts c k f g (part p x) (part q y)
            | .error e, _ => refusal f e
            | _, .error e => refusal g e
          { r with tookInput := readsInput [f, g] }

def diffStamp (c : Call) (file : String) : String :=
  let moment := if file = "-" then c.disk.clock
    else (Condition.timeOf? c.disk ⟨file⟩).getD 0
  Moment.text moment "%Y-%m-%d %H:%M:%S.%N +0000"

def inside (directory file : String) : String :=
  if directory.endsWith "/" then directory ++ file else directory ++ "/" ++ file

def diffFiles (c : Call) (o : Difference.Options) (f g : String) (r : Result) : Result :=
  let read (file : String) : Except OsError Bytes :=
    match contents c file with
    | .error .notFound => if o.assumesEmpty then .ok [] else .error .notFound
    | x => x
  let stamp (file : String) : String :=
    if (contents c file).toOption.isSome then diffStamp c file
    else "1970-01-01 00:00:00.000000000 +0000"
  match read f, read g with
  | .ok x, .ok y =>
    let (status, out) := Difference.texts o f g (stamp f, stamp g) x y
    let heading := if o.recursive && status = 1 && o.report ≠ .brief &&
        !(bytesOf "Binary").isPrefixOf out then
        bytesOf (" ".intercalate ("diff" :: (o.words ++ [f, g])) ++ "\n")
      else []
    let r := { r with status := max r.status status, out := r.out ++ heading ++ out }
    -- An editor has no words for a last line that is not ended.
    let isOpen (bs : Bytes) : Bool := bs.getLast?.any (· ≠ 10)
    let unended := if o.report = .script && x ≠ y then
        (if isOpen x then [f] else []) ++ (if isOpen y then [g] else [])
      else []
    unended.foldl (fun r file => complain c r 2 s!"{file}: No newline at end of file\n") r
  | x, y =>
    let tell (r : Result) (file : String) (e : Except OsError Bytes) : Result :=
      match e with
      | .error e => complain c r 2 s!"{file}: {e.text}"
      | .ok _ => r
    tell (tell r f x) g y

def diffDirectories (c : Call) (o : Difference.Options) (deep : Bool) :
    Nat → String → String → Result → Result
  | 0, _, _, r => r
  | n + 1, f, g, r =>
    let d := c.disk
    let own := d.namesIn ⟨f⟩
    let others := d.namesIn ⟨g⟩
    let names := (own ++ others.filter (!own.contains ·)).mergeSort fun x y => (compare x y).isLE
    let names := names.filter fun x => !o.excluded.any (·.accepts x.toList)
    names.foldl (fun (r : Result) x =>
      let a := inside f x
      let b := inside g x
      let only (directory : String) : Result :=
        { r with status := max r.status 1, out := r.out ++ bytesOf s!"Only in {directory}: {x}\n" }
      let isMissing := !own.contains x || !others.contains x
      if isMissing && !o.assumesEmpty then only (if own.contains x then f else g)
      else match d.isDirectory ⟨a⟩, d.isDirectory ⟨b⟩ with
      | true, true =>
        if deep then diffDirectories c o deep n a b r
        else { r with out := r.out ++ bytesOf s!"Common subdirectories: {a} and {b}\n" }
      | false, false => diffFiles c { o with recursive := true } a b r
      | true, false =>
        if !others.contains x then diffDirectories c o deep n a b r
        else { r with
          status := max r.status 1
          out := r.out ++ bytesOf s!"File {a} is a directory while file {b} is a regular file\n" }
      | false, true =>
        if !own.contains x then diffDirectories c o deep n a b r
        else { r with
          status := max r.status 1
          out := r.out ++ bytesOf s!"File {a} is a regular file while file {b} is a directory\n" })
      r

def diffMenu (name : String) : Arguments.Menu where
  known := "quceriwbBEZsNatTpdHR0123456789".toList
  valued := ['U', 'C', 'L', 'x', 'I', 'W']
  long := longNames name
  optional := ['!', '/', '?']

def diffOptions (a : Arguments) (args : List String) : Except String Difference.Options := do
  let number (letters : List Char) : Except String (Option Nat) :=
    match letters.findSome? a.value? with
    | none => .ok none
    | some "" => .ok none
    | some t =>
      match t.toNat? with
      | some n => .ok (some n)
      | none => .error ("invalid context length " ++ quoted t)
  -- Digits among the letters are a number of lines.
  let digits := (String.ofList (a.flags.filter Char.isDigit).reverse).toNat?
  let unified := (← number ['U', '!']) <|> digits
  let context := (← number ['C', '/']) <|> digits
  let report : Difference.Report :=
    if a.has 'q' then .brief
    else if a.has 'u' || (a.value? 'U').isSome || (a.value? '!').isSome then
      .unified (unified.getD 3)
    else if a.has 'c' || (a.value? 'C').isSome || (a.value? '/').isSome then
      .context (context.getD 3)
    else if a.has 'e' then .script
    else .plain
  return {
    report
    words := args.filter fun w => !a.operands.contains w
    foldsCase := a.has 'i', dropsBlanks := a.has 'w', joinsBlanks := a.has 'b'
    trimsEnds := a.has 'Z', dropsReturns := a.has 'R', skipsEmpty := a.has 'B'
    skipped := (a.allValues 'I').filterMap fun t => (Regular.parse .basic t).toOption
    tellsSame := a.has 's', recursive := false, assumesEmpty := a.has 'N', isText := a.has 'a'
    labels := a.allValues 'L'
    excluded := (a.allValues 'x').map Pattern.ofText }

def diff (c : Call) : Result :=
  match Arguments.parse (diffMenu c.name) c.args with
  | .error f => namedMisuse c f.message
  | .ok a =>
    match a.operands, diffOptions a c.args with
    | _, .error text => namedMisuse c text
    | [], _ => namedMisuse c ("missing operand after " ++ quoted c.name)
    | [f], _ => namedMisuse c ("missing operand after " ++ quoted f)
    | _ :: _ :: extra :: _, _ => namedMisuse c ("extra operand " ++ quoted extra)
    | [f, g], .ok o =>
      let isDirectory (x : String) : Bool := x ≠ "-" && c.disk.isDirectory ⟨x⟩
      let r : Result := { disk := c.disk, tookInput := readsInput [f, g] }
      match isDirectory f, isDirectory g with
      | true, true => diffDirectories c o (a.has 'r') (c.disk.nodes.length + 2) f g r
      | true, false => diffFiles c o (inside f (baseName g)) g r
      | false, true => diffFiles c o f (inside g (baseName f)) r
      | false, false => diffFiles c o f g r
where
  baseName (s : String) : String := ((s.splitOn "/").filter (· ≠ "")).getLastD s

end Freshen.Shell.Utility
