import Freshen.Backend
import Freshen.Keyed
import Freshen.RuleStore
/-! Build descriptions: settings, variables and rules. -/

namespace Freshen

structure Settings where
  goal : Option String := none
  backend : Option Backend := none
  cachePath : Option String := none
  shell : Option String := none
  deriving DecidableEq, Repr, Inhabited

namespace Settings

def defaultShell : String := "sh"

def orElse (s base : Settings) : Settings :=
  ⟨s.goal <|> base.goal, s.backend <|> base.backend, s.cachePath <|> base.cachePath,
    s.shell <|> base.shell⟩

def effectiveBackend (s : Settings) : Backend := s.backend.getD .database

def effectiveShell (s : Settings) : String := s.shell.getD defaultShell

end Settings

structure RuleEntry where
  target : String
  deps : List String := []
  recipe : Option String := none
  always : Bool := false
  deriving DecidableEq, Repr

abbrev Vars := List (String × String)

structure RawDescription where
  includes : List String := []
  settings : Settings := {}
  vars : Vars := []
  rules : List RuleEntry := []
  deriving DecidableEq, Repr, Inhabited

structure Description where
  settings : Settings
  vars : Vars
  rules : List RuleEntry
  deriving DecidableEq, Repr

def RuleStore.declareEntry (s : RuleStore) (e : RuleEntry) : RuleStore :=
  let s := s.declare e.target e.deps e.recipe
  if e.always then (s.setAlwaysStale e.target true).2 else s

namespace Description

def declareInto (d : Description) (s : RuleStore) : RuleStore :=
  let s := d.rules.foldl RuleStore.declareEntry s
  match d.settings.goal with
  | some g => s.setGoal g
  | none => s

end Description
end Freshen
