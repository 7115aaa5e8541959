import Freshen.Description.Basic
/-! References to variables: a dollar sign and a name in braces. Each is replaced once, and what
has been put in is not looked at again; a name that is not known stays as it is written. -/

namespace Freshen.Description

def isNameStart (c : Char) : Bool := c.isAlpha || c == '_'
def isNamePart (c : Char) : Bool := c.isAlphanum || c == '_'

def reference? : List Char → Option (List Char × List Char)
  | '$' :: '{' :: c :: r =>
    if isNameStart c then
      let name := c :: r.takeWhile isNamePart
      match r.dropWhile isNamePart with
      | '}' :: rest => some (name, rest)
      | _ => none
    else none
  | _ => none

def written (name : List Char) : List Char := '$' :: '{' :: name ++ ['}']

theorem reference?_eq {cs name rest : List Char} (h : reference? cs = some (name, rest)) :
    cs = written name ++ rest := by
  unfold reference? at h
  split at h
  · next c r =>
    split at h
    · split at h
      · next rest' hr =>
        cases h
        have := List.takeWhile_append_dropWhile (p := isNamePart) (l := r)
        rw [hr] at this
        simp [written, this]
      · cases h
    · cases h
  · cases h

theorem reference?_length {cs name rest : List Char} (h : reference? cs = some (name, rest)) :
    rest.length < cs.length := by
  rw [reference?_eq h]
  simp [written]; omega

def expandChars (value : String → Option String) (cs : List Char) : List Char :=
  match h : reference? cs with
  | some (name, rest) =>
    have := reference?_length h
    ((value (String.ofList name)).map (·.toList)).getD (written name) ++ expandChars value rest
  | none =>
    match cs with
    | [] => []
    | c :: cs => c :: expandChars value cs
  termination_by cs.length

def expand (vars : Vars) (text : String) : String :=
  String.ofList (expandChars (Keyed.get? vars) text.toList)

def expandRule (vars : Vars) (e : RuleEntry) : RuleEntry :=
  { e with
    target := expand vars e.target
    deps := e.deps.map (expand vars)
    recipe := e.recipe.map (expand vars) }

end Freshen.Description
