import Freshen.Files
/-! Recipes as they are handed to whatever runs them, and what comes back. -/

namespace Freshen

structure Job where
  target : String
  recipe : String
  inputs : List String
  outdated : List String
  workdir : Path
  deriving DecidableEq, Repr

namespace Job

def inputsText (j : Job) : String := " ".intercalate j.inputs

def outdatedText (j : Job) : String := " ".intercalate j.outdated

end Job

inductive Outcome
  | success
  | failed (code : Int)
  deriving DecidableEq, Repr

inductive StartError
  | spawning (target : String) (cause : OsError)
  | refused (reason : String)
  deriving DecidableEq, Repr

namespace StartError

def trail : StartError → Trail
  | spawning t cause => [s!"spawning recipe for target '{t}'", cause.message]
  | refused reason => [reason]

end StartError

inductive Channel
  | out
  | err
  deriving DecidableEq, Repr

structure OutputLine where
  channel : Channel
  text : String
  deriving DecidableEq, Repr

structure Response where
  outcome : Except StartError Outcome
  lines : List OutputLine := []

end Freshen
