import Freshen.Notice
import Freshen.RuleStore
/-! The rules that a goal needs, each after everything it depends on, found by a depth-first walk
that stops at the first cycle. -/

namespace Freshen

def RuleStore.Step (s : RuleStore) (a b : String) : Prop := b ∈ (s.ruleFor a).deps

inductive RuleStore.Reaches (s : RuleStore) : String → String → Prop
  | refl (a) : Reaches s a a
  | step {a b c} : s.Step a b → Reaches s b c → Reaches s a c

inductive ResolveError
  | unknownGoal (goal : String)
  | cycle (target : String) (chain : List String)
  deriving DecidableEq, Repr

namespace ResolveError

def notice : ResolveError → Notice
  | unknownGoal g => .unknownGoal g
  | cycle t _ => .dependencyCycle t

end ResolveError

/-- How far a walk has come. A walk that has met a cycle goes no further. -/
structure Walk where
  order : List Rule := []
  met : List String := []
  cycle : Option (List String) := none
  deriving DecidableEq, Repr

namespace Walk

def isDone (w : Walk) (t : String) : Bool := w.order.any (·.target = t)

def chain (path : List String) (t : String) : List String :=
  t :: ((path.takeWhile (· ≠ t)).reverse ++ [t])

def meet (w : Walk) (t : String) : Walk := { w with met := w.met ++ [t] }

def finish (w : Walk) (r : Rule) : Walk :=
  if w.cycle.isSome then w else { w with order := w.order ++ [r] }

mutual

def visit (s : RuleStore) (path : List String) (w : Walk) (t : String) : Walk :=
  if w.cycle.isSome || w.isDone t then w
  else if _ : t ∈ path then { w with cycle := some (chain path t) }
  else match _ : s.find? t with
    | none => (w.meet t).finish (.file t)
    | some r => (visitAll s (t :: path) (w.meet t) r.deps).finish r
  termination_by (s.offPath path, 0)
  decreasing_by exact Prod.Lex.left _ _ (RuleStore.offPath_cons_lt ‹_› ‹_›)

def visitAll (s : RuleStore) (path : List String) (w : Walk) : List String → Walk
  | [] => w
  | t :: ts => visitAll s path (visit s path w t) ts
  termination_by ts => (s.offPath path, ts.length + 1)

end

end Walk

structure Resolution where
  outcome : Except ResolveError (List Rule)
  rules : RuleStore

/-- The build order for a goal. Every name met without a rule gets the rule of a source file, also
if the walk ends at a cycle. A goal without a rule has to exist as a file. -/
def RuleStore.resolve (s : RuleStore) (goal : String) (exists_ : String → Bool) : Resolution :=
  if (s.find? goal).isNone && !exists_ goal then ⟨.error (.unknownGoal goal), s⟩
  else
    let w := Walk.visit s [] {} goal
    let s' := w.met.foldl RuleStore.addFile s
    match w.cycle with
    | some chain => ⟨.error (.cycle (chain.headD goal) chain), s'⟩
    | none => ⟨.ok w.order, s'⟩

end Freshen
