import Freshen.Shell.Binding
import Freshen.Shell.Builtin
import Freshen.Shell.Regular.Written
/-! Conditions between double brackets: their words are not split, and texts are compared with
patterns. -/

namespace Freshen.Shell.Question

open Run

def expressionText (gs : List Glyph) : String :=
  String.join (gs.map fun g => match g with
    | .char c .quoted =>
      if "\\.[]()*+?\x7b\x7d|^$".toList.contains c then "\\" ++ c.toString else c.toString
    | .char c _ => c.toString
    | _ => "")

def remember (f : Regular.Found) : Run Unit := do
  let text (bs : Bytes) : String := Text.Utf8.lenient ⟨bs.toArray⟩
  let last := (f.after.groups.map (·.1)).foldl max 0
  let groups := (List.range last).map fun i => text ((Keyed.get? f.after.groups (i + 1)).getD [])
  Binding.forceList "BASH_REMATCH" false ((text f.matched :: groups).map (none, ·))

def resembles (m : Expansion.Means) (a : String) (w : Word) : Run Bool := do
  let gs ← Expansion.word m Expansion.depth w
  match Regular.parse .extended (expressionText gs) with
  | .error _ => throw .leaving
  | .ok r =>
    let r := if (← get).settings.extras.contains "nocasematch" then r.anyCase else r
    match r.find? none (bytesOf a) with
    | some f =>
      remember f
      return true
    | none =>
      Binding.forceList "BASH_REMATCH" false []
      return false

def isNumeric (o : String) : Bool := ["-eq", "-ne", "-lt", "-le", "-gt", "-ge"].contains o

def compareNumbers (o : String) (x y : Int) : Bool :=
  match o with
  | "-eq" => x = y
  | "-ne" => x ≠ y
  | "-lt" => x < y
  | "-le" => x ≤ y
  | "-gt" => y < x
  | _ => y ≤ x

def trace (text : String) (prompt : Run String) : Run Unit := do
  if (← get).settings.traces then printLine 2 ((← prompt) ++ "[[ " ++ text ++ " ]]")

def holds (m : Expansion.Means) (prompt : Run String) : Question → Run Bool
  | .word w => do
    let t ← Expansion.whole m w
    trace ("-n " ++ t) prompt
    return t ≠ ""
  | .negated q => return !(← holds m prompt q)
  | .both a b => do if ← holds m prompt a then holds m prompt b else return false
  | .either a b => do if ← holds m prompt a then return true else holds m prompt b
  | .unary o w => do
    let t ← Expansion.whole m w
    trace (o ++ " " ++ t) prompt
    return (Condition.unary? (← Builtin.setting) o t).getD false
  | .binary a o b => do
    let x ← Expansion.whole m a
    if o = "=~" then resembles m x b
    else if o = "=" || o = "==" || o = "!=" then
      let p ← Expansion.patternOf m b
      trace (s!"{x} {o} {p.text}") prompt
      let folds := (← get).settings.extras.contains "nocasematch"
      return p.resembles folds x.toList != (o = "!=")
    else
      let y ← Expansion.whole m b
      trace (s!"{x} {o} {y}") prompt
      if isNumeric o then return compareNumbers o (← Expansion.evaluate x) (← Expansion.evaluate y)
      else match Condition.binary (← Builtin.setting) x o y with
      | .ok b => return b
      | .error _ => return false

end Freshen.Shell.Question
