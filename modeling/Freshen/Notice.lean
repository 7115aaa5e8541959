/-! Warnings and errors that are reported while work goes on, with the fields they carry. -/

namespace Freshen

inductive Level
  | warn
  | error
  deriving DecidableEq, Repr

inductive Notice
  | undigestible (rule reason : String)
  | lookupFailed (rule reason : String)
  | unrecordable (rule : String)
  | updateFailed (rule reason : String)
  | sourceMissing (rule : String)
  | recipeFailed (rule : String) (code : Int)
  | unknownGoal (goal : String)
  | dependencyCycle (rule : String)
  | describedCycle (rule : String)
  | malformedLine (line : String)
  deriving DecidableEq, Repr

namespace Notice

def level : Notice → Level
  | sourceMissing _ | recipeFailed .. | unknownGoal _ | dependencyCycle _ => .error
  | _ => .warn

def message : Notice → String
  | undigestible .. => "cannot digest target; assuming stale"
  | lookupFailed .. => "cache lookup failed; assuming stale"
  | unrecordable _ => "no rule; cannot update cache"
  | updateFailed .. => "unable to update cache"
  | sourceMissing _ => "source file is missing and has no rule"
  | recipeFailed .. => "recipe failed"
  | unknownGoal _ => "no rule to make goal"
  | dependencyCycle _ => "cycle detected in dependency graph"
  | describedCycle _ => "build description contains a dependency cycle"
  | malformedLine _ => "skipping malformed digest line"

inductive Value
  | text (s : String)
  | number (n : Int)
  deriving DecidableEq, Repr

def fields : Notice → List (String × Value)
  | undigestible r e | lookupFailed r e | updateFailed r e =>
    [("rule", .text r), ("error", .text e)]
  | unrecordable r | sourceMissing r | dependencyCycle r | describedCycle r => [("rule", .text r)]
  | recipeFailed r code => [("rule", .text r), ("code", .number code)]
  | unknownGoal g => [("goal", .text g)]
  | malformedLine l => [("line", .text l)]

end Notice
end Freshen
