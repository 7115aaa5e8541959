import Freshen.Disk
import Freshen.Shell.ByteSet
/-! Patterns with stars, question marks and brackets. A character that was quoted stands for itself
alone. -/

namespace Freshen.Shell

structure Mark where
  char : Char
  isQuoted : Bool
  deriving DecidableEq, Repr

abbrev Pattern := List Mark

namespace Pattern

def ofText (s : String) : Pattern := s.toList.map (⟨·, false⟩)

def withCarets : Pattern → Pattern
  | ⟨'[', false⟩ :: ⟨'^', false⟩ :: r => ⟨'[', false⟩ :: ⟨'!', false⟩ :: withCarets r
  | m :: r => m :: withCarets r
  | [] => []

def text (p : Pattern) : String := String.ofList (p.map (·.char))

def lower (p : Pattern) : Pattern := p.map fun m => { m with char := m.char.toLower }

inductive Member
  | one (c : Char)
  | range (a b : Char)
  | kind (name : String)

def Member.has (x : Char) : Member → Bool
  | one c => c == x
  | range a b => a ≤ x && x ≤ b
  | kind name => x.toNat < 128 && (ByteSet.ofClass name).contains x.toNat.toUInt8

def kind? (p : Pattern) : Option (String × Pattern) :=
  let name := p.takeWhile fun m => m.char.isAlpha
  match p.drop name.length with
  | ⟨':', _⟩ :: ⟨']', _⟩ :: after => some (String.ofList (name.map (·.char)), after)
  | _ => none

def members : Nat → Pattern → List Member → Option (List Member × Pattern)
  | 0, _, _ | _, [], _ => none
  | n + 1, m :: p, acc =>
    if m = ⟨']', false⟩ && !acc.isEmpty then some (acc, p)
    else
      let one : Option (List Member × Pattern) :=
        match p with
        | ⟨'-', false⟩ :: b :: r =>
          if b = ⟨']', false⟩ then members n p (.one m.char :: acc)
          else members n r (.range m.char b.char :: acc)
        | p => members n p (.one m.char :: acc)
      match m, p with
      | ⟨'[', false⟩, ⟨':', _⟩ :: r =>
        match kind? r with
        | some (name, after) => members n after (.kind name :: acc)
        | none => one
      | _, _ => one

def bracket? (p : Pattern) : Option (Bool × List Member × Pattern) :=
  let negated := p.head?.any fun m => !m.isQuoted && m.char == '!'
  let p := if negated then p.drop 1 else p
  (members (p.length + 1) p []).map fun (ms, after) => (negated, ms, after)

def matchesWithin : Nat → Pattern → List Char → Bool
  | 0, _, _ => false
  | _ + 1, [], cs => cs.isEmpty
  | n + 1, m :: p, cs =>
    let plain := match cs with
      | c :: cs => c == m.char && matchesWithin n p cs
      | [] => false
    if m.isQuoted then plain
    else match m.char, cs with
    | '*', [] => matchesWithin n p []
    | '*', c :: cs => matchesWithin n p (c :: cs) || matchesWithin n (m :: p) cs
    | '?', cs => !cs.isEmpty && matchesWithin n p (cs.drop 1)
    | '[', cs =>
      match bracket? p, cs with
      | some (negated, set, after), c :: cs =>
        (set.any (·.has c) != negated) && matchesWithin n after cs
      | some _, [] => false
      | none, _ => plain
    | _, _ => plain

def accepts (p : Pattern) (s : List Char) : Bool :=
  matchesWithin (2 * (p.length + s.length) + 2) p s

def resembles (folds : Bool) (p : Pattern) (s : List Char) : Bool :=
  if folds then p.lower.accepts (s.map (·.toLower)) else p.accepts s

def isWild (p : Pattern) : Bool := p.any fun m => !m.isQuoted && ['*', '?', '['].contains m.char

def trim (p : Pattern) (suffix longest : Bool) (cs : List Char) : List Char :=
  let lengths := List.range (cs.length + 1)
  let candidates := if longest then lengths.reverse else lengths
  let cut (n : Nat) := if suffix then cs.drop (cs.length - n) else cs.take n
  match candidates.find? fun n => p.accepts (cut n) with
  | some n => if suffix then cs.take (cs.length - n) else cs.drop n
  | none => cs

def pieces (p : Pattern) : List Pattern :=
  p.foldr (fun m ps =>
    if m.char = '/' then [] :: ps
    else match ps with
      | q :: ps => (m :: q) :: ps
      | [] => [[m]]) [[]]

def acceptsName (p : Pattern) (name : String) : Bool :=
  (!name.startsWith "." || p.head?.any (·.char == '.')) && p.accepts name.toList

def descend (d : Disk) (found : List String) (p : Pattern) (last : Bool) : List String :=
  found.flatMap fun base =>
    let ok (path : String) := if last then d.exists_ ⟨path⟩ else d.isDirectory ⟨path⟩
    if !p.isWild then
      let path := base ++ p.text
      if p.isEmpty || ok path then [if last then path else path ++ "/"] else []
    else
      let place : Path := ⟨if base = "" then "." else base⟩
      let paths := ((d.namesIn place).filter p.acceptsName).map (base ++ ·)
      (paths.filter ok).map fun path => if last then path else path ++ "/"

def descendAll (d : Disk) (found : List String) : List Pattern → List String
  | [] => found
  | [p] => descend d found p true
  | p :: ps => descendAll d (descend d found p false) ps

def paths (p : Pattern) (d : Disk) : List String :=
  if p.isWild then descendAll d [""] p.pieces else []

end Pattern
end Freshen.Shell
