import Freshen.Shell.Awk.Token
/-! Programs that are being read: the tokens that are left, and what is known of the names. -/

namespace Freshen.Shell.Awk

namespace Draft

inductive Kind
  | plain
  | table
  deriving DecidableEq, Repr

structure Entry where
  name : String
  kind : Option Kind := none

structure Callable where
  name : String
  parameters : List Entry := []
  body : Option Statement := none

structure Link where
  caller : Option Nat
  variable_ : Name
  callee : Nat
  position : Nat
  line : Nat

structure Application where
  callee : Nat
  count : Nat
  line : Nat

end Draft

open Draft

structure Draft where
  tokens : List (Token × Nat)
  shared : Array Entry
  functions : Array Callable := #[]
  current : Option Nat := none
  own : List Entry := []
  links : List Link := []
  applications : List Application := []
  rules : List Rule := []
  loops : Nat := 0
  parentheses : Nat := 0
  braces : Nat := 0
  ranges : Nat := 0
  isMain : Bool := false

abbrev Reading := EStateM (Flaw × Nat) Draft

namespace Draft

def peek : Reading Token := do
  return ((← get).tokens.head?.map (·.1)).getD .textEnd

def second : Reading Token := do
  return (((← get).tokens.drop 1).head?.map (·.1)).getD .textEnd

def line : Reading Nat := do
  return ((← get).tokens.head?.map (·.2)).getD 1

def advance : Reading Unit := do
  let change (s : Draft) (t : Token) : Draft :=
    match t with
    | .mark "(" => { s with parentheses := s.parentheses + 1 }
    | .mark ")" => { s with parentheses := s.parentheses - 1 }
    | .mark "\x7b" => { s with braces := s.braces + 1 }
    | .mark "\x7d" => { s with braces := s.braces - 1 }
    | _ => s
  let t ← peek
  modify fun s => { change s t with tokens := s.tokens.drop 1 }

def fail (f : Flaw) : Reading α := do throw (f, ← line)

def unexpected : Reading α := do
  let s ← get
  let t ← peek
  let isClosing := match t with
    | .mark m => m = "\x7d" || m = ";"
    | .lineEnd => true
    | _ => false
  let isOuter := match t with
    | .textEnd => true
    | .word w => w = "BEGIN" || w = "END"
    | _ => false
  match t with
  | .broken f => fail f
  | t =>
    if isClosing && 0 < s.parentheses then fail (.missing ')' t.shown)
    else if isOuter && 0 < s.braces then fail (.missing '\x7d' t.shown)
    else fail (.unexpected t.shown)

def isMark (t : Token) (m : String) : Bool :=
  match t with
  | .mark s => s = m
  | _ => false

def isWord (t : Token) (w : String) : Bool :=
  match t with
  | .word s => s = w
  | _ => false

def expect (m : String) : Reading Unit := do
  if isMark (← peek) m then advance else unexpected

def skipLines : Reading Unit :=
  modify fun s => { s with tokens := s.tokens.dropWhile (·.1 matches .lineEnd) }

def nameOf (x : String) : Reading Name := do
  let s ← get
  match s.own.findIdx? (·.name = x) with
  | some i => return .own i
  | none =>
    match s.shared.findIdx? (·.name = x) with
    | some i => return .shared i
    | none =>
      set { s with shared := s.shared.push ⟨x, none⟩ }
      return .shared s.shared.size

def entry (s : Draft) (caller : Option Nat) : Name → Entry
  | .shared i => s.shared.getD i ⟨"", none⟩
  | .own i =>
    let es := if caller = s.current then s.own
      else ((caller.bind (s.functions[·]?)).map (·.parameters)).getD []
    es.getD i ⟨"", none⟩

def Entry.describe (e : Entry) (isOwn : Bool) : String :=
  let what := if e.kind = some .table then "array " else "variable "
  (if isOwn then "local " ++ what else what) ++ e.name

def setKind (x : Name) (k : Kind) : Reading Unit := do
  let s ← get
  let e := entry s s.current x
  let marked (e : Entry) : Entry := { e with kind := some k }
  if e.kind.any (· ≠ k) then fail (.misused (e.describe (x matches .own _)))
  else match x with
  | .shared i => set { s with shared := s.shared.modify i marked }
  | .own i => set { s with own := s.own.modify i marked }

def table (x : String) : Reading Name := do
  let name ← nameOf x
  setKind name .table
  return name

def functionNumber (f : String) : Reading Nat := do
  let s ← get
  match s.functions.findIdx? (·.name = f) with
  | some i => return i
  | none =>
    set { s with functions := s.functions.push { name := f } }
    return s.functions.size

end Draft
end Freshen.Shell.Awk
