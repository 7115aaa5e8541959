import Freshen.Shell.Pattern
import Freshen.Shell.Printf
/-! What a shell knows by itself: variables, functions, settings, and where its streams lead. A
subshell begins with a copy. -/

namespace Freshen.Shell

inductive Stream
  | source (pipe : Nat)
  | sink (pipe : Nat)
  | file (id : Nat)
  deriving DecidableEq, Repr

structure Variable where
  value : Option String := none
  elements : List (String × String) := []
  isArray : Bool := false
  isKeyed : Bool := false
  isExported : Bool := false
  isReadonly : Bool := false
  isInteger : Bool := false
  deriving DecidableEq, Repr

namespace Variable

def scalar? (v : Variable) : Option String :=
  if v.isArray then Keyed.get? v.elements "0" else v.value

def asArray (v : Variable) : Variable :=
  if v.isArray then v
  else { v with isArray := true, value := none, elements := (v.value.map ("0", ·)).toList }

def insertByNumber (k : Nat) (key value : String) : List (String × String) → List (String × String)
  | [] => [(key, value)]
  | e :: es =>
    if e.1 = key then (key, value) :: es
    else if k < (e.1.toNat?).getD 0 then (key, value) :: e :: es
    else e :: insertByNumber k key value es

def setElement (v : Variable) (key value : String) : Variable :=
  let v := v.asArray
  if v.isKeyed then { v with elements := Keyed.set key value v.elements }
  else { v with elements := insertByNumber ((key.toNat?).getD 0) key value v.elements }

def setScalar (v : Variable) (value : String) : Variable :=
  if v.isArray then v.setElement "0" value else { v with value := some value }

def nextKey (v : Variable) : Nat :=
  match v.elements.getLast? with
  | some e => (e.1.toNat?).getD 0 + 1
  | none => 0

end Variable

structure Settings where
  stopAtFailure : Bool := false
  refuseUnset : Bool := false
  plainNames : Bool := false
  traces : Bool := false
  keepsFiles : Bool := false
  exportsAll : Bool := false
  readsOnly : Bool := false
  echoes : Bool := false
  failsInPipes : Bool := false
  extras : List String := []
  deriving DecidableEq, Repr

inductive Flow
  | breaking (loops : Nat)
  | continuing (loops : Nat)
  | returning
  | leaving
  | killed (signal : Nat)
  deriving DecidableEq, Repr

structure Function where
  body : Command
  label : String

structure BackgroundJob where
  number : Nat
  process : Nat
  isOver : Bool := false
  deriving DecidableEq, Repr

structure Context where
  dialect : Dialect := .dash
  name : String
  label : String := name
  origin : String := "environment"
  within : String := ""
  scriptLabel : String := "-c: "
  args : List String := []
  bindings : List (String × Variable) := []
  functions : List (String × Function) := []
  aliases : List (String × String) := []
  settings : Settings := {}
  streams : List (Nat × Stream) := []
  directory : Location := []
  place : String := ""
  mask : Nat := 0o022
  traps : List (Nat × String) := []
  status : Nat := 0
  line : Nat := 1
  shell : Nat := 1
  process : Nat := 1
  background : Option Nat := none
  jobs : List BackgroundJob := []
  parent : Nat := 0
  loops : Nat := 0
  calls : Nat := 0
  hidden : List (List (String × Option Variable)) := []
  optionPlace : Nat := 0
  stack : List String := []
  readers : List (Nat × Command) := []
  channels : Nat := 0
  pipeStatuses : List Nat := []
  isSubshell : Bool := false
  isAlone : Bool := false
  depth : Nat := 0
  substituted : Option Nat := none

namespace Context

def remark (c : Context) (text : String) : String :=
  match c.dialect with
  | .dash => s!"{c.name}: {c.line}: {text}"
  | .bash => s!"{c.label}: line {c.line}: {text}"

def complaint (c : Context) (text : String) : String := c.remark (c.within ++ text)

def binding? (c : Context) (x : String) : Option Variable := Keyed.get? c.bindings x

def valueOf? (c : Context) (x : String) : Option String := (c.binding? x).bind (·.scalar?)

def isReadonly (c : Context) (x : String) : Bool := (c.binding? x).any (·.isReadonly)

def bind_ (c : Context) (x : String) (v : Variable) : Context :=
  { c with bindings := Keyed.set x v c.bindings }

def assign (c : Context) (x value : String) : Context :=
  let v := (c.binding? x).getD {}
  c.bind_ x { v.setScalar value with isExported := v.isExported || c.settings.exportsAll }

def export_ (c : Context) (x : String) : Context :=
  c.bind_ x { (c.binding? x).getD {} with isExported := true }

def unset (c : Context) (x : String) : Context :=
  { c with bindings := Keyed.erase x c.bindings }

def exported (c : Context) : List (String × String) :=
  c.bindings.filterMap fun e =>
    if e.2.isExported && !e.2.isArray then e.2.value.map (e.1, ·) else none

def separators (c : Context) : List Char :=
  match c.valueOf? "IFS" with
  | some text => text.toList
  | none => [' ', '\t', '\n']

def settingLetters (c : Context) : String :=
  let s := c.settings
  let letters := [(s.stopAtFailure, "e"), (s.plainNames, "f"), (s.readsOnly, "n"),
    (s.traces, "x"), (s.echoes, "v"), (s.keepsFiles, "C"), (s.exportsAll, "a"),
    (s.refuseUnset, "u")]
  let own := String.join (letters.filterMap fun e => if e.1 then some e.2 else none)
  match c.dialect with
  | .dash => own
  | .bash =>
    let early := [(s.exportsAll, "a"), (s.stopAtFailure, "e"), (s.plainNames, "f")]
    let late := [(s.readsOnly, "n"), (s.refuseUnset, "u"), (s.echoes, "v"), (s.traces, "x")]
    let text (l : List (Bool × String)) := String.join (l.filterMap fun e =>
      if e.1 then some e.2 else none)
    text early ++ "h" ++ text late ++ "B" ++ (if s.keepsFiles then "C" else "") ++
      if c.scriptLabel = "-c: " then "c" else ""

def element? (c : Context) (x key : String) : Option String :=
  (c.binding? x).bind fun v =>
    if v.isArray then Keyed.get? v.elements key
    else if key = "0" then v.value else none

def parameter? (c : Context) (x : String) : Option String :=
  match x with
  | "?" => some (toString c.status)
  | "#" => some (toString c.args.length)
  | "$" => some (toString c.shell)
  | "-" => some c.settingLetters
  | "!" => c.background.map toString
  | "0" => some c.name
  | "@" | "*" => if c.args.isEmpty then none else some (" ".intercalate c.args)
  | "LINENO" => some (toString c.line)
  | "PPID" => some (toString c.parent)
  | "BASHPID" => if c.dialect = .bash then some (toString c.process) else c.valueOf? x
  | "PIPESTATUS" =>
    if c.dialect = .bash then some (toString (c.pipeStatuses.headD c.status)) else c.valueOf? x
  | x =>
    match x.toNat? with
    | some n => if n = 0 then some c.name else c.args[n - 1]?
    | none =>
      match x.toList.dropWhile (· ≠ '[') with
      | [] => c.valueOf? x
      | _ :: key => c.element? (String.ofList (x.toList.takeWhile (· ≠ '[')))
          (String.ofList key.dropLast)

def assignPlace (c : Context) (x value : String) : Context :=
  match x.toList.dropWhile (· ≠ '[') with
  | [] => c.assign x value
  | _ :: key =>
    let name := String.ofList (x.toList.takeWhile (· ≠ '['))
    c.bind_ name (((c.binding? name).getD {}).setElement (String.ofList key.dropLast) value)

def stream? (c : Context) (descriptor : Nat) : Option Stream := Keyed.get? c.streams descriptor

def connect (c : Context) (descriptor : Nat) (target : Stream) : Context :=
  { c with streams := Keyed.set descriptor target c.streams }

def close (c : Context) (descriptor : Nat) : Context :=
  { c with streams := Keyed.erase descriptor c.streams }

def sources (c : Context) : List Nat :=
  (c.streams.filterMap fun e => match e.2 with
    | .source id => some id
    | _ => none).eraseDups

def sinks (c : Context) : List Nat :=
  (c.streams.filterMap fun e => match e.2 with
    | .sink id => some id
    | _ => none).eraseDups

end Context
end Freshen.Shell
