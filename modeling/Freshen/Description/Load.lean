import Freshen.Description.CycleLint
import Freshen.Description.Include
import Freshen.Description.Reference
import Freshen.Text.Blank
/-! From a description file to a checked description. -/

namespace Freshen.Description

def checkEntry (number : Nat) (e : RuleEntry) : Except DescriptionError Unit :=
  if Text.allBlank e.target then .error (.emptyTarget number)
  else if e.deps.any Text.allBlank then .error (.emptyDependency e.target)
  else .ok ()

def checkNames (number : Nat) : List RuleEntry → Except DescriptionError Unit
  | [] => .ok ()
  | e :: es =>
    match checkEntry number e with
    | .error err => .error err
    | .ok () => checkNames (number + 1) es

structure Loading where
  result : Except BuildError Description
  notices : List Notice := []

def ofRaw (raw : RawDescription) : Loading :=
  if raw.rules.isEmpty then ⟨.error (.description .noRules), []⟩
  else
    let rules := raw.rules.map (expandRule raw.vars)
    match checkNames 1 rules with
    | .error e => ⟨.error (.description e), []⟩
    | .ok () => ⟨.ok ⟨raw.settings, raw.vars, rules⟩, lintCycles rules⟩

def loadChecked (f : Files) (searchPath : List String) (p : Path) (params : Vars) : Loading :=
  match load f searchPath [] p with
  | .error e => ⟨.error e, []⟩
  | .ok raw => ofRaw { raw with vars := Keyed.merge raw.vars params }

def loadOne (f : Files) (p : Path) : Except BuildError RawDescription :=
  match f.readText p with
  | .error e => .error (.description (.unreadable e))
  | .ok text => readOne text

end Freshen.Description
