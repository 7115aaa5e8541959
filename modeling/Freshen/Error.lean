import Freshen.BuildOrder
import Freshen.Recipe
import Freshen.StoreError
/-! Why a build fails. -/

namespace Freshen

inductive DescriptionError
  | unreadable (cause : FileError)
  | includeCycle (chain : List Path)
  | includeMissing (name includedFrom : Path)
  | noRules
  | emptyTarget (number : Nat)
  | emptyDependency (target : String)
  | noGoal
  | namelessParameter (word : String)
  | secondGoal (first second : String)
  deriving DecidableEq

namespace DescriptionError

def message : DescriptionError → String
  | unreadable cause => "cannot read build description: " ++ cause.trail.message
  | includeCycle chain => "include cycle: " ++ " -> ".intercalate (chain.map (·.text))
  | includeMissing name includedFrom =>
    "cannot find include file " ++ name.quoted ++ " (included from " ++ includedFrom.quoted ++ ")"
  | noRules => "build description must contain at least one [[rule]]"
  | emptyTarget n => s!"rule #{n} has an empty target"
  | emptyDependency t => s!"rule '{t}' has an empty dependency name"
  | noGoal => "no goal to build"
  | namelessParameter w => s!"parameter '{w}' has no name"
  | secondGoal first second => s!"only one goal may be given (got '{first}' and '{second}')"

end DescriptionError

inductive BuildError
  | description (cause : DescriptionError)
  | malformed
  | unresolved (cause : ResolveError)
  | missingSource (target : String)
  | cacheUnavailable (p : Path) (cause : StoreError)
  | recipeFailed (target : String) (code : Int)
  | notStarted (cause : StartError)
  | undigestible (cause : DigestError)
  deriving DecidableEq

namespace BuildError

def trail : BuildError → Trail
  | description cause => ["Configuration error: " ++ cause.message]
  | malformed => ["TOML parsing error"]
  | unresolved (.unknownGoal g) => [s!"No rule to make goal '{g}'"]
  | unresolved (.cycle t chain) =>
    [s!"Cycle detected in dependency graph at target '{t}' (" ++ " -> ".intercalate chain ++ ")"]
  | missingSource t => [s!"Unable to find rule for target '{t}' (no such file and no recipe)"]
  | cacheUnavailable p cause => ["Cache unavailable: " ++ p.text ++ ": " ++ cause.trail.message]
  | recipeFailed t code => [s!"Recipe for target '{t}' failed (exit code {code})"]
  | notStarted cause => cause.trail
  | undigestible cause => cause.trail

def message (e : BuildError) : String := e.trail.message

def target? : BuildError → Option String
  | unresolved (.unknownGoal t) | unresolved (.cycle t _) => some t
  | missingSource t | recipeFailed t _ => some t
  | _ => none

end BuildError
end Freshen
