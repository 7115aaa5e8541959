import Freshen.Shell.Awk.Asking
import Freshen.Shell.Awk.Record
import Freshen.Shell.Awk.Table
import Freshen.Shell.Awk.Written
/-! What a program knows while it runs: its variables, the record, and the texts that are being read
and written. -/

namespace Freshen.Shell.Awk

inductive Cell
  | value (v : Value)
  | table (id : Nat)
  deriving Inhabited

structure Source where
  pending : Bytes := []
  isLive : Bool := false
  status : Int := 0

structure Outlet where
  name : Bytes
  sink : Option Sink := none
  pending : List Bytes := []
  size : Nat := 0

structure Machine where
  shared : Array Cell := #[]
  own : Array Cell := #[]
  tables : Array Table := #[]
  record : Record := {}
  separator : Separator := .blanks
  ending : Ending := .byte 10
  ranges : List Nat := []
  outlets : List Outlet := [{ name := bytesOf "/dev/stdout" }]
  sources : List ((Bytes × Bool) × Source) := []
  main : Option Source := none
  argument : Nat := 1
  hasInput : Bool := false
  random : Nat := 0
  seed : Value := .unset
  status : Int := 0

inductive Stop
  | next
  | nextFile
  | break
  | continue
  | exit
  | return (v : Value)
  | failed (remark : String)
  | unheard

abbrev Act := ExceptT Stop (StateT Machine Asking)

namespace Act

def ask (q : Question) : Act Reply := monadLift (Asking.ask q)

inductive Round (σ β : Type)
  | again (s : σ)
  | done (b : β)

def roundsAfter {σ β : Type} (go : σ → Machine → Asking (Except Stop β × Machine)) :
    Except Stop (Round σ β) × Machine → Asking (Except Stop β × Machine)
  | (.ok (.again s), m) => go s m
  | (.ok (.done b), m) => .done (.ok b, m)
  | (.error e, m) => .done (.error e, m)

def rounds {σ β : Type} (body : σ → Act (Round σ β)) :
    Nat → σ → Machine → Asking (Except Stop β × Machine)
  | 0, _, m => .done (.error .exit, m)
  | n + 1, s, m =>
    match (body s).run.run m with
    | .done (.ok (.again s), m) => rounds body n s m
    | .done (.ok (.done b), m) => .done (.ok b, m)
    | .done (.error e, m) => .done (.error e, m)
    | .asks q next => .asks q fun r => (next r).bind (roundsAfter (rounds body n))

def roundLimit : Nat := 100000000

def iterate {σ β : Type} (s : σ) (body : σ → Act (Round σ β)) : Act β := rounds body roundLimit s

def cell (x : Name) : Act Cell := do
  let m ← get
  return match x with
  | .shared i => m.shared.getD i (.value .unset)
  | .own i => m.own.getD i (.value .unset)

def variable_ (x : Name) : Act Value := do
  match ← cell x with
  | .value v => return v
  | .table _ => return .unset

def shared (i : Nat) : Act Value := variable_ (.shared i)

def setVariable (x : Name) (v : Value) : Act Unit :=
  modify fun m => match x with
  | .shared i => { m with shared := m.shared.set! i (.value v) }
  | .own i => { m with own := m.own.set! i (.value v) }

def setShared (i : Nat) (v : Value) : Act Unit := setVariable (.shared i) v

def tableNumber (x : Name) : Act Nat := do
  match ← cell x with
  | .table id => return id
  | .value _ => return 0

def tableAt (id : Nat) : Act Table := return (← get).tables.getD id {}

def changeTable (id : Nat) (f : Table → α × Table) : Act α := do
  let m ← get
  let t := m.tables.getD id {}
  set { m with tables := m.tables.set! id {} }
  let (a, t) := f t
  modify fun m => { m with tables := m.tables.set! id t }
  return a

def toText (v : Value) : Act Bytes := do
  match v with
  | .text bs | .numeral bs _ => return bs
  | .unset => return []
  | .number x =>
    match Value.wholeText? x with
    | some s => return bytesOf s
    | none =>
      match ← shared Variable.conversionFormat with
      | .text f => return Value.numberText f x
      | _ => return Value.numberText (bytesOf "%.6g") x

def sharedText (i : Nat) : Act Bytes := do toText (← shared i)

def fail (text : String) : Act α := do
  let file := stringOf (← sharedText Variable.fileName)
  let fnr := stringOf (← sharedText Variable.fileRecordNumber)
  let nr := stringOf (← sharedText Variable.recordNumber)
  throw (.failed s!"run time error: {text}\n\tFILENAME=\"{file}\" FNR={fnr} NR={nr}")

def compile (source : Bytes) : Act Regular := do
  match Regular.parse .escaping (stringOf source) with
  | .ok r => return r
  | .error f =>
    fail s!"regular expression compile failed ({Draft.reason f})\n{stringOf source}"

def separator (bs : Bytes) : Act Separator := do
  match bs with
  | [] => return .nothing
  | [32] => return .blanks
  | [b] => return .byte b
  | bs => return .matching (← compile bs)

def ending (bs : Bytes) : Act Ending := do
  match bs with
  | [] => return .gap
  | [b] => return .byte b
  | bs => return .matching (← compile bs)

def assign (x : Name) (v : Value) : Act Unit := do
  setVariable x v
  if x = .shared Variable.fieldSeparator then
    let s ← separator (← toText v)
    modify fun m => { m with separator := s }
  else if x = .shared Variable.recordSeparator then
    let e ← ending (← toText v)
    modify fun m => { m with ending := e }

def setRecord (text : Bytes) : Act Unit :=
  modify fun m => { m with record := { text, separator := m.separator } }

def wholeRecord : Act Bytes := do
  let m ← get
  if m.record.isStale then
    let s ← sharedText Variable.outputFieldSeparator
    let f ← sharedText Variable.conversionFormat
    let r := m.record.whole s (Value.toText f)
    set { m with record := r }
    return r.text
  else return m.record.text

def divide : Act Unit := modify fun m => { m with record := m.record.divided }

def fieldIndex (x : Float) : Act Nat := do
  let n := Value.word true x
  if n < 0 then fail s!"negative field index ${n}"
  else return n.toNat

def field (i : Nat) : Act Value := do
  if i = 0 then return .ofInput (← wholeRecord)
  else
    divide
    return (← get).record.field (i - 1)

def setField (i : Nat) (v : Value) : Act Unit := do
  if i = 0 then setRecord (← toText v)
  else
    divide
    modify fun m => { m with record := m.record.setField (i - 1) v }

def fieldCount : Act Nat := do
  divide
  return (← get).record.count

def setFieldCount (n : Nat) : Act Unit := do
  divide
  modify fun m => { m with record := m.record.resized n }

end Act
end Freshen.Shell.Awk
