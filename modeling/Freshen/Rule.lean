/-! Rules: a target, what it depends on, and how to make it. -/

namespace Freshen

inductive RuleKind
  | explicit
  | filename
  deriving DecidableEq, Repr

namespace RuleKind

def text : RuleKind → String
  | explicit => "explicit"
  | filename => "filename"

end RuleKind

structure Rule where
  target : String
  deps : List String
  recipe : Option String
  kind : RuleKind
  alwaysStale : Bool := false
  deriving DecidableEq, Repr

namespace Rule

def file (target : String) : Rule := ⟨target, [], none, .filename, false⟩

def isFile (r : Rule) : Bool := r.kind = .filename

def line (r : Rule) : String :=
  r.target ++ ":" ++ String.join (r.deps.map (" " ++ ·)) ++ " (" ++ r.kind.text ++ ")" ++
    (if r.recipe.isSome then "(recipe)" else "") ++ (if r.alwaysStale then "(always)" else "")

end Rule
end Freshen
