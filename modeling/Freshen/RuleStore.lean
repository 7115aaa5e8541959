import Freshen.Rule
/-! All rules of one invocation, at most one a target. -/

namespace Freshen

structure RuleStore where
  rules : List Rule := []
  declared : List String := []
  goal : Option String := none
  deriving DecidableEq, Repr

namespace RuleStore

def find? (s : RuleStore) (t : String) : Option Rule := s.rules.find? (·.target = t)

def replaced (r : Rule) : List Rule → List Rule
  | [] => [r]
  | q :: qs => if q.target = r.target then r :: qs else q :: replaced r qs

def put (s : RuleStore) (r : Rule) : RuleStore := { s with rules := replaced r s.rules }

def declare (s : RuleStore) (t : String) (deps : List String) (recipe : Option String) :
    RuleStore :=
  let always := (s.find? t).any (·.alwaysStale)
  { s.put ⟨t, deps, recipe, .explicit, always⟩ with
    declared := if t ∈ s.declared then s.declared else s.declared ++ [t]
    goal := s.goal <|> some t }

def setAlwaysStale (s : RuleStore) (t : String) (always : Bool) : Bool × RuleStore :=
  match s.find? t with
  | some r => (true, s.put { r with alwaysStale := always })
  | none => (false, s)

def ruleFor (s : RuleStore) (t : String) : Rule := (s.find? t).getD (.file t)

def addFile (s : RuleStore) (t : String) : RuleStore :=
  if (s.find? t).isSome then s else s.put (.file t)

def isDeclared (s : RuleStore) (t : String) : Bool := (s.find? t).any (·.kind = .explicit)

def setGoal (s : RuleStore) (t : String) : RuleStore := { s with goal := some t }

def size (s : RuleStore) : Nat := s.rules.length

/-- How many rules have a target off the path: what bounds a walk along dependencies. -/
def offPath (s : RuleStore) (path : List String) : Nat :=
  (s.rules.filter (·.target ∉ path)).length

theorem target_of_find? {s : RuleStore} {t : String} {r : Rule} (h : s.find? t = some r) :
    r.target = t := by
  simpa using List.find?_some h

theorem mem_of_find? {s : RuleStore} {t : String} {r : Rule} (h : s.find? t = some r) :
    r ∈ s.rules := List.mem_of_find?_eq_some h

theorem length_filter_lt {α : Type _} {p q : α → Bool} {l : List α} (hpq : ∀ a, p a → q a)
    {a : α} (ha : a ∈ l) (hp : ¬ p a) (hq : q a) : (l.filter p).length < (l.filter q).length := by
  induction l with
  | nil => cases ha
  | cons b l ih =>
    have hle : (l.filter p).length ≤ (l.filter q).length := by
      rw [← List.countP_eq_length_filter, ← List.countP_eq_length_filter]
      exact List.countP_mono_left fun x _ => hpq x
    rcases List.mem_cons.1 ha with rfl | h
    · simp only [List.filter, hp, hq, List.length_cons]; omega
    · have := ih h
      by_cases hb : p b
      · simp [List.filter, hb, hpq b hb, this]
      · by_cases hb' : q b <;> simp [List.filter, hb, hb'] <;> omega

theorem offPath_cons_lt {s : RuleStore} {t : String} {r : Rule} {path : List String}
    (h : s.find? t = some r) (ht : t ∉ path) : s.offPath (t :: path) < s.offPath path := by
  have hr := target_of_find? h
  refine length_filter_lt (fun q hq => ?_) (mem_of_find? h) (by simp [hr]) (by simpa [hr] using ht)
  simp only [List.mem_cons, not_or, decide_eq_true_eq] at hq ⊢
  exact hq.2

end RuleStore
end Freshen
