import Freshen.Description.Basic
import Freshen.Proofs.Amendments

/-! What becomes of the rules of a description when they are declared. Of several entries for one
target the last says how it is made, any of them marks it, and the first gives it its place. -/

namespace Freshen

namespace RuleStore

variable {s : RuleStore} {e : RuleEntry} {es : List RuleEntry} {t : String}

def ruleOf? (es : List RuleEntry) (t : String) : Option Rule :=
  (es.reverse.find? (·.target = t)).map fun e =>
    ⟨t, e.deps, e.recipe, .explicit, es.any fun e => e.target = t && e.always⟩

lemma find?_declareEntry (s : RuleStore) (e : RuleEntry) (t : String) :
    (s.declareEntry e).find? t = if e.target = t then
      some ⟨t, e.deps, e.recipe, .explicit, e.always || (s.find? t).any (·.alwaysStale)⟩
      else s.find? t := by
  have hdeclared := s.find?_declare e.target t e.deps e.recipe
  rw [declareEntry]
  split
  · next ha =>
    rw [find?_setAlwaysStale, hdeclared]
    split
    · next ht =>
      subst ht
      simp [ha]
    · rfl
  · next ha =>
    rw [hdeclared]
    split
    · next ht =>
      subst ht
      simp [ha]
    · rfl

lemma any_alwaysStale_ruleOf? (es : List RuleEntry) (t : String) :
    (ruleOf? es t).any (·.alwaysStale) = es.any fun e => e.target = t && e.always := by
  unfold ruleOf?
  cases hf : es.reverse.find? (·.target = t) with
  | some e => rfl
  | none =>
    have hnone : ∀ e ∈ es, ¬ e.target = t := by simpa using hf
    have hany : (es.any fun e => e.target = t && e.always) = false := by
      rw [List.any_eq_false]
      intro e he
      simp [hnone e he]
    simpa using hany.symm

lemma find?_declareEntries (es : List RuleEntry) (t : String) :
    (es.foldl declareEntry {}).find? t = ruleOf? es t := by
  induction es using List.reverseRecOn with
  | nil => rfl
  | append_singleton es e ih =>
    rw [List.foldl_concat, find?_declareEntry, ih, any_alwaysStale_ruleOf?]
    by_cases he : e.target = t
    · simp [ruleOf?, he, Bool.or_comm]
    · simp [ruleOf?, he]

lemma InStep.declareEntry (h : s.InStep) (e : RuleEntry) : (s.declareEntry e).InStep := by
  have hdeclared := h.declare e.target e.deps e.recipe
  rw [RuleStore.declareEntry]
  split
  · exact hdeclared.setAlwaysStale e.target true
  · exact hdeclared

lemma inStep_declareEntries (es : List RuleEntry) : (es.foldl declareEntry {}).InStep := by
  induction es using List.reverseRecOn with
  | nil => exact .empty
  | append_singleton es e ih =>
    rw [List.foldl_concat]
    exact ih.declareEntry e

lemma targets_setAlwaysStale (s : RuleStore) (t : String) (always : Bool) :
    targets (s.setAlwaysStale t always).2.rules = targets s.rules := by
  cases ht : s.find? t with
  | none => rw [setAlwaysStale_of_none ht]
  | some r =>
    rw [setAlwaysStale_of_some ht]
    change targets (replaced { r with alwaysStale := always } s.rules) = _
    rw [targets_replaced, if_pos (List.mem_map_of_mem (mem_of_find? ht))]

lemma declareEntry_rest (s : RuleStore) (e : RuleEntry) :
    targets (s.declareEntry e).rules =
        (if e.target ∈ targets s.rules then targets s.rules else targets s.rules ++ [e.target]) ∧
      (s.declareEntry e).declared =
        (if e.target ∈ s.declared then s.declared else s.declared ++ [e.target]) ∧
      (s.declareEntry e).goal = (s.goal <|> some e.target) := by
  have hrules : targets (s.declare e.target e.deps e.recipe).rules =
      if e.target ∈ targets s.rules then targets s.rules else targets s.rules ++ [e.target] :=
    targets_replaced _ s.rules
  rw [declareEntry]
  split
  · obtain ⟨hdeclared, hgoal⟩ :=
      (s.declare e.target e.deps e.recipe).setAlwaysStale_rest e.target true
    exact ⟨(targets_setAlwaysStale _ _ _).trans hrules, hdeclared, hgoal⟩
  · exact ⟨hrules, rfl, rfl⟩

lemma declareEntries_rest (es : List RuleEntry) :
    targets (es.foldl declareEntry {}).rules = (es.map (·.target)).eraseDups ∧
      (es.foldl declareEntry {}).declared = (es.map (·.target)).eraseDups ∧
      (es.foldl declareEntry {}).goal = es.head?.map (·.target) := by
  induction es using List.reverseRecOn with
  | nil => exact ⟨rfl, rfl, rfl⟩
  | append_singleton es e ih =>
    obtain ⟨hrules, hdeclared, hgoal⟩ := ih
    obtain ⟨hrules', hdeclared', hgoal'⟩ := (es.foldl declareEntry {}).declareEntry_rest e
    rw [List.foldl_concat, hrules', hdeclared', hgoal', hrules, hdeclared, hgoal, List.map_append,
      List.map_singleton, eraseDups_concat]
    refine ⟨by simp, by simp, ?_⟩
    cases es <;> rfl

end RuleStore

namespace Description

lemma declareInto_eq (d : Description) (s : RuleStore) : d.declareInto s =
    { d.rules.foldl RuleStore.declareEntry s with
      goal := d.settings.goal <|> (d.rules.foldl RuleStore.declareEntry s).goal } := by
  rw [declareInto]
  cases d.settings.goal <;> rfl

lemma find?_declareInto (d : Description) (t : String) :
    (d.declareInto {}).find? t = RuleStore.ruleOf? d.rules t := by
  rw [declareInto_eq]
  exact RuleStore.find?_declareEntries d.rules t

/-- Every target that is described has one rule, an explicit one, and nothing else has any. It is
made as its last entry says, and always stale if any of its entries says so. Targets stand in the
order of their first entries. -/
theorem declareInto_folds (d : Description) :
    (∀ t, (d.declareInto {}).find? t = (d.rules.reverse.find? (·.target = t)).map fun e =>
      ⟨t, e.deps, e.recipe, .explicit, d.rules.any fun e => e.target = t && e.always⟩) ∧
    (d.declareInto {}).rules.map Rule.target = (d.rules.map (·.target)).eraseDups ∧
    ((d.declareInto {}).rules.map Rule.target).Nodup ∧
    (d.declareInto {}).declared = (d.rules.map (·.target)).eraseDups ∧
    (d.declareInto {}).goal = (d.settings.goal <|> d.rules.head?.map (·.target)) := by
  refine ⟨d.find?_declareInto, ?_⟩
  obtain ⟨hrules, hdeclared, hgoal⟩ := RuleStore.declareEntries_rest d.rules
  rw [declareInto_eq, ← hgoal]
  exact ⟨hrules, (RuleStore.inStep_declareEntries d.rules).nodup, hdeclared, rfl⟩

end Description
end Freshen
