import Freshen.Proofs.Amendments
import Freshen.Proofs.Cycle

/-! What the resolution of a goal leaves in the rule store. It adds nothing but rules of source
files, for names that it comes past, so any walk finds the same dependencies as before. All that can
change for a later goal is that it is known. -/

namespace Freshen

namespace Walk

lemma finish_met (w : Walk) (r : Rule) : (w.finish r).met = w.met := by
  unfold finish
  split <;> rfl

lemma visit_addFiles (s : RuleStore) (us path : List String) (w : Walk) (t : String) :
    visit (us.foldl RuleStore.addFile s) path w t = visit s path w t :=
  visit_congr (fun u _ => s.ruleFor_addFiles us u) path w

lemma visit_met (s : RuleStore) (path : List String) (w : Walk) (t : String) :
    ∀ u ∈ (visit s path w t).met, u ∈ w.met ∨ s.Reaches t u := by
  refine (visit.mutual_induct s
    (fun path w t => ∀ u ∈ (visit s path w t).met, u ∈ w.met ∨ s.Reaches t u)
    (fun path w ts => ∀ u ∈ (visitAll s path w ts).met, u ∈ w.met ∨ ∃ t ∈ ts, s.Reaches t u)
    ?done ?cycle ?noRule ?rule ?nil ?cons).1 path w t
  case done =>
    intro path w t h u hu
    rw [visit_of_done h] at hu
    exact .inl hu
  case cycle =>
    intro path w t h hp u hu
    rw [visit, if_neg h, dif_pos hp] at hu
    exact .inl hu
  case noRule =>
    intro path w t h hp hf u hu
    have hdeps : (s.ruleFor t).deps = [] := by simp [RuleStore.ruleFor, hf, Rule.file]
    rw [visit_of_new h hp, hdeps, visitAll, finish_met] at hu
    rcases List.mem_append.mp hu with hu | hu
    · exact .inl hu
    · exact .inr (List.mem_singleton.mp hu ▸ .refl u)
  case rule =>
    intro path w t h hp r hf ih u hu
    obtain rfl := RuleStore.ruleFor_of_find? hf
    rw [visit_of_new h hp, finish_met] at hu
    rcases ih u hu with hu | ⟨d, hd, hu⟩
    · rcases List.mem_append.mp hu with hu | hu
      · exact .inl hu
      · exact .inr (List.mem_singleton.mp hu ▸ .refl u)
    · exact .inr (.step hd hu)
  case nil =>
    intro path w u hu
    rw [visitAll] at hu
    exact .inl hu
  case cons =>
    intro path w t ts iht ihts u hu
    rw [visitAll] at hu
    rcases ihts u hu with hu | ⟨d, hd, hu⟩
    · rcases iht u hu with hu | hu
      · exact .inl hu
      · exact .inr ⟨t, by simp, hu⟩
    · exact .inr ⟨d, by simp [hd], hu⟩

def outcome (goal : String) (w : Walk) : Except ResolveError (List Rule) :=
  match w.cycle with
  | some chain => .error (.cycle (chain.headD goal) chain)
  | none => .ok w.order

mutual

/-- A walk that looks each rule up in the store as it has grown by then, and adds what it misses. -/
inductive Grows : List String → RuleStore → Walk → String → RuleStore → Walk → Prop
  | done {path : List String} {s : RuleStore} {w : Walk} {t : String} :
      (w.cycle.isSome || w.isDone t) = true → Grows path s w t s w
  | cycle {path : List String} {s : RuleStore} {w : Walk} {t : String} :
      ¬ (w.cycle.isSome || w.isDone t) = true → t ∈ path →
      Grows path s w t s { w with cycle := some (chain path t) }
  | new {path : List String} {s s' : RuleStore} {w w' : Walk} {t : String} {r : Rule} :
      ¬ (w.cycle.isSome || w.isDone t) = true → t ∉ path → (s.addFile t).find? t = some r →
      GrowsAll (t :: path) (s.addFile t) (w.meet t) r.deps s' w' →
      Grows path s w t s' (w'.finish r)

inductive GrowsAll : List String → RuleStore → Walk → List String → RuleStore → Walk → Prop
  | nil {path : List String} {s : RuleStore} {w : Walk} : GrowsAll path s w [] s w
  | cons {path ts : List String} {s s' s'' : RuleStore} {w w' w'' : Walk} {t : String} :
      Grows path s w t s' w' → GrowsAll path s' w' ts s'' w'' →
      GrowsAll path s w (t :: ts) s'' w''

end

lemma visit_grows (s : RuleStore) (path : List String) (w : Walk) (t : String)
    (us : List String) : ∃ vs, (visit s path w t).met = w.met ++ vs ∧
      Grows path (us.foldl RuleStore.addFile s) w t ((us ++ vs).foldl RuleStore.addFile s)
        (visit s path w t) := by
  -- The store has grown by the names that `met` lists, which does not change any rule.
  have hnew : ∀ (us : List String) (t : String), ((us ++ [t]).foldl RuleStore.addFile s).find? t =
      some (s.ruleFor t) := fun us t => by
    rw [RuleStore.find?_addFiles, if_pos (by simp)]
  refine (visit.mutual_induct s
    (fun path w t => ∀ us : List String, ∃ vs, (visit s path w t).met = w.met ++ vs ∧
      Grows path (us.foldl RuleStore.addFile s) w t ((us ++ vs).foldl RuleStore.addFile s)
        (visit s path w t))
    (fun path w ts => ∀ us : List String, ∃ vs, (visitAll s path w ts).met = w.met ++ vs ∧
      GrowsAll path (us.foldl RuleStore.addFile s) w ts ((us ++ vs).foldl RuleStore.addFile s)
        (visitAll s path w ts))
    ?done ?cycle ?noRule ?rule ?nil ?cons).1 path w t us
  case done =>
    intro path w t h us
    rw [visit_of_done h]
    exact ⟨[], by simp, by simpa using .done h⟩
  case cycle =>
    intro path w t h hp us
    rw [visit, if_neg h, dif_pos hp]
    exact ⟨[], by simp, by simpa using .cycle h hp⟩
  case noRule =>
    intro path w t h hp hf us
    have hdeps : (s.ruleFor t).deps = [] := by simp [RuleStore.ruleFor, hf, Rule.file]
    rw [visit_of_new h hp, hdeps, visitAll]
    refine ⟨[t], finish_met _ _, .new h hp ?_ ?_⟩
    · simpa using hnew us t
    · rw [hdeps, List.foldl_concat]
      exact .nil
  case rule =>
    intro path w t h hp r hf ih us
    obtain rfl := RuleStore.ruleFor_of_find? hf
    rw [visit_of_new h hp]
    obtain ⟨vs, hmet, hgrows⟩ := ih (us ++ [t])
    rw [List.append_assoc, List.foldl_concat] at hgrows
    refine ⟨t :: vs, ?_, .new h hp ?_ hgrows⟩
    · rw [finish_met, hmet]
      simp [meet]
    · simpa using hnew us t
  case nil =>
    intro path w us
    rw [visitAll]
    exact ⟨[], by simp, by simpa using .nil⟩
  case cons =>
    intro path w t ts iht ihts us
    rw [visitAll]
    obtain ⟨vs, hmet, hgrows⟩ := iht us
    obtain ⟨vs', hmet', hgrows'⟩ := ihts (us ++ vs)
    rw [List.append_assoc] at hgrows'
    exact ⟨vs ++ vs', by rw [hmet', hmet, List.append_assoc], .cons hgrows hgrows'⟩

end Walk

namespace RuleStore

variable {s : RuleStore} {goal t g₁ g₂ : String} {us : List String} {exists_ : String → Bool}

lemma resolve_of_unknown (h : s.find? goal = none ∧ exists_ goal = false) :
    s.resolve goal exists_ = ⟨.error (.unknownGoal goal), s⟩ := by
  rw [resolve, if_pos (by simp [h])]

lemma resolve_of_known (h : ¬ (s.find? goal = none ∧ exists_ goal = false)) :
    s.resolve goal exists_ = ⟨(Walk.visit s [] {} goal).outcome goal,
      (Walk.visit s [] {} goal).met.foldl addFile s⟩ := by
  rw [resolve, if_neg (by simpa using h)]
  dsimp only
  cases hc : (Walk.visit s [] {} goal).cycle with
  | some chain => simp [Walk.outcome, hc]
  | none => simp [Walk.outcome, hc]

/-- A resolution may as well look every rule up in the store as it grows. -/
theorem resolve_grows (h : ¬ (s.find? goal = none ∧ exists_ goal = false)) :
    ∃ w, Walk.Grows [] s {} goal (s.resolve goal exists_).rules w ∧
      (s.resolve goal exists_).outcome = w.outcome goal := by
  obtain ⟨vs, hmet, hgrows⟩ := Walk.visit_grows s [] {} goal []
  rw [resolve_of_known h, hmet]
  exact ⟨_, hgrows, rfl⟩

lemma addFiles_of_found (h : ∀ u ∈ us, s.find? u ≠ none) : us.foldl addFile s = s := by
  induction us with
  | nil => rfl
  | cons u us ih =>
    obtain ⟨r, hr⟩ := Option.ne_none_iff_exists'.mp (h u (by simp))
    rw [List.foldl_cons, addFile_of_some hr]
    exact ih fun v hv => h v (List.mem_cons_of_mem _ hv)

lemma addFiles_rest (s : RuleStore) (us : List String) :
    (us.foldl addFile s).declared = s.declared ∧ (us.foldl addFile s).goal = s.goal := by
  induction us generalizing s with
  | nil => exact ⟨rfl, rfl⟩
  | cons u us ih =>
    rw [List.foldl_cons, (ih _).1, (ih _).2]
    exact s.addFile_rest u

lemma find?_addFiles_of_some {r : Rule} (us : List String) (h : s.find? t = some r) :
    (us.foldl addFile s).find? t = some r := by
  rw [find?_addFiles, ruleFor_of_find? h, h, ite_self]

lemma resolve_rules (s : RuleStore) (goal : String) (exists_ : String → Bool) :
    ∃ us : List String, (s.resolve goal exists_).rules = us.foldl addFile s ∧
      ∀ u ∈ us, s.Reaches goal u := by
  by_cases h : s.find? goal = none ∧ exists_ goal = false
  · exact ⟨[], by rw [resolve_of_unknown h]; rfl, by simp⟩
  · refine ⟨_, by rw [resolve_of_known h], fun u hu => ?_⟩
    exact (Walk.visit_met s [] {} goal u hu).resolve_left (by simp)

lemma not_unknown_addFiles (us : List String)
    (h : ¬ (s.find? goal = none ∧ exists_ goal = false)) :
    ¬ ((us.foldl addFile s).find? goal = none ∧ exists_ goal = false) := by
  rintro ⟨hf, he⟩
  cases hs : s.find? goal with
  | none => exact h ⟨hs, he⟩
  | some r =>
    rw [find?_addFiles_of_some us hs] at hf
    cases hf

lemma resolve_addFiles (us : List String) (h : ¬ (s.find? goal = none ∧ exists_ goal = false)) :
    ((us.foldl addFile s).resolve goal exists_).outcome = (s.resolve goal exists_).outcome := by
  rw [resolve_of_known h, resolve_of_known (not_unknown_addFiles us h), Walk.visit_addFiles]

lemma resolve_kept {r : Rule} (goal : String) (exists_ : String → Bool) (h : s.find? t = some r) :
    (s.resolve goal exists_).rules.find? t = some r := by
  obtain ⟨us, hrules, -⟩ := s.resolve_rules goal exists_
  rw [hrules, find?_addFiles_of_some us h]

lemma resolve_added {r : Rule} (h : s.find? t = none)
    (hr : (s.resolve goal exists_).rules.find? t = some r) : r = .file t ∧ s.Reaches goal t := by
  obtain ⟨us, hrules, hreached⟩ := s.resolve_rules goal exists_
  rw [hrules, find?_addFiles, h] at hr
  split at hr
  · next hu =>
    rw [ruleFor, h] at hr
    exact ⟨(Option.some.inj hr).symm, hreached t hu⟩
  · cases hr

lemma resolve_found {order : List Rule} (ho : (s.resolve goal exists_).outcome = .ok order)
    (h : s.Reaches goal t) : (s.resolve goal exists_).rules.find? t ≠ none := by
  have hord := resolve_ordered ho
  obtain ⟨r, hr, rfl⟩ := List.mem_map.mp (hord.mem_iff.mpr ((resolve_reaches _ _ _ _ _).mpr h))
  simp [hord.found r hr]

lemma rules_of_unknownGoal {g : String}
    (hg : (s.resolve goal exists_).outcome = .error (.unknownGoal g)) :
    (s.resolve goal exists_).rules = s := by
  by_cases h : s.find? goal = none ∧ exists_ goal = false
  · rw [resolve_of_unknown h]
  · rw [resolve_of_known h, Walk.outcome] at hg
    dsimp only at hg
    split at hg
    · cases hg
    · cases hg

lemma resolve_again (s : RuleStore) (goal : String) (exists_ : String → Bool) :
    (s.resolve goal exists_).rules.resolve goal exists_ = s.resolve goal exists_ := by
  by_cases h : s.find? goal = none ∧ exists_ goal = false
  · rw [resolve_of_unknown h, resolve_of_unknown h]
  · have hrules := congrArg Resolution.rules (resolve_of_known h)
    have hknown := not_unknown_addFiles (Walk.visit s [] {} goal).met h
    rw [hrules, resolve_of_known hknown, Walk.visit_addFiles, addFiles_of_found fun u hu => ?_,
      resolve_of_known h]
    rw [find?_addFiles, if_pos hu]
    exact Option.some_ne_none _

/-- Whatever comes of it, resolving a goal leaves the rules, the goal and the declarations as they
are. It adds rules of source files for names that the goal reaches and that have none: all of these
if there is an order, none if the goal is unknown. Doing it again changes nothing any more. -/
theorem resolve_supplies (s : RuleStore) (goal : String) (exists_ : String → Bool) :
    (∀ t r, s.find? t = some r → (s.resolve goal exists_).rules.find? t = some r) ∧
    (s.resolve goal exists_).rules.goal = s.goal ∧
    (s.resolve goal exists_).rules.declared = s.declared ∧
    (∀ t r, s.find? t = none → (s.resolve goal exists_).rules.find? t = some r →
      r = .file t ∧ s.Reaches goal t) ∧
    (∀ g, (s.resolve goal exists_).outcome = .error (.unknownGoal g) →
      (s.resolve goal exists_).rules = s) ∧
    (∀ order, (s.resolve goal exists_).outcome = .ok order → ∀ t, s.Reaches goal t →
      (s.resolve goal exists_).rules.find? t ≠ none) ∧
    (s.resolve goal exists_).rules.resolve goal exists_ = s.resolve goal exists_ := by
  obtain ⟨us, hrules, -⟩ := s.resolve_rules goal exists_
  refine ⟨fun t r => resolve_kept goal exists_, ?_, ?_, fun t r => resolve_added,
    fun g => rules_of_unknownGoal, fun order ho t => resolve_found ho, s.resolve_again goal exists_⟩
  · rw [hrules, (s.addFiles_rest us).2]
  · rw [hrules, (s.addFiles_rest us).1]

theorem resolve_supplies_ring :
    ring.find? "d" = none ∧
    (ring.resolve "goal" fun _ => false).outcome = .error (.cycle "a" ["a", "b", "c", "a"]) ∧
    (ring.resolve "goal" fun _ => false).rules.find? "d" = some (.file "d") ∧
    ((ring.resolve "goal" fun _ => false).rules.resolve "goal" fun _ => false).outcome =
      .error (.cycle "a" ["a", "b", "c", "a"]) := by
  have ho : (ring.resolve "goal" fun _ => false).outcome =
      .error (.cycle "a" ["a", "b", "c", "a"]) := by
    rw [resolve, if_neg (by decide)]
    cbv
  have hd : (ring.resolve "goal" fun _ => false).rules.find? "d" ≠ none := by
    rw [resolve, if_neg (by decide)]
    exact Option.isSome_iff_ne_none.mp (by cbv)
  obtain ⟨r, hr⟩ := Option.ne_none_iff_exists'.mp hd
  obtain ⟨-, -, -, hadded, -, -, hagain⟩ := resolve_supplies ring "goal" fun _ => false
  have hnone : ring.find? "d" = none := by decide
  refine ⟨hnone, ho, ?_, ?_⟩
  · rw [hr, (hadded "d" r hnone hr).1]
  · rw [hagain, ho]

lemma resolve_of_file (h : s.find? t = some (.file t)) :
    (s.resolve t exists_).outcome = .ok [.file t] := by
  have hr : s.ruleFor t = .file t := ruleFor_of_find? h
  have hv : Walk.visit s [] {} t = (Walk.meet {} t).finish (.file t) := by
    rw [Walk.visit_of_new (by simp [Walk.isDone]) List.not_mem_nil, hr]
    simp only [Rule.file, Walk.visitAll]
  rw [resolve_of_known (by simp [h]), hv]
  rfl

lemma resolve_of_added (h : s.find? g₂ = none)
    (hf : (s.resolve g₁ exists_).rules.find? g₂ ≠ none) :
    s.Reaches g₁ g₂ ∧
      ((s.resolve g₁ exists_).rules.resolve g₂ exists_).outcome = .ok [.file g₂] := by
  obtain ⟨r, hr⟩ := Option.ne_none_iff_exists'.mp hf
  obtain ⟨rfl, hreach⟩ := resolve_added h hr
  exact ⟨hreach, resolve_of_file hr⟩

/-- What comes of a goal does not depend on a goal resolved before, but for one thing: a goal
without rule or file is unknown at first, and is taken for a source file once another goal has come
past it. -/
theorem resolve_after_iff (s : RuleStore) (g₁ g₂ : String) (exists_ : String → Bool) :
    (((s.resolve g₁ exists_).rules.resolve g₂ exists_).outcome = (s.resolve g₂ exists_).outcome ↔
      ¬ (s.find? g₂ = none ∧ exists_ g₂ = false ∧
        (s.resolve g₁ exists_).rules.find? g₂ ≠ none)) ∧
    (s.find? g₂ = none → exists_ g₂ = false →
      (s.resolve g₂ exists_).outcome = .error (.unknownGoal g₂) ∧
      ((s.resolve g₁ exists_).rules.find? g₂ ≠ none → s.Reaches g₁ g₂ ∧
        ((s.resolve g₁ exists_).rules.resolve g₂ exists_).outcome = .ok [.file g₂])) ∧
    ∀ order, (s.resolve g₁ exists_).outcome = .ok order → s.Reaches g₁ g₂ →
      (s.resolve g₁ exists_).rules.find? g₂ ≠ none := by
  obtain ⟨us, hrules, -⟩ := s.resolve_rules g₁ exists_
  refine ⟨⟨?differs, ?agrees⟩, fun hf he => ⟨by rw [resolve_of_unknown ⟨hf, he⟩],
    resolve_of_added hf⟩, fun order ho => resolve_found ho⟩
  case differs =>
    rintro heq ⟨hf, he, hadded⟩
    rw [(resolve_of_added hf hadded).2, resolve_of_unknown ⟨hf, he⟩] at heq
    cases heq
  case agrees =>
    intro hn
    by_cases h : s.find? g₂ = none ∧ exists_ g₂ = false
    · -- The other goal has not come past this one, so it is as unknown as before.
      have hnone : (s.resolve g₁ exists_).rules.find? g₂ = none :=
        not_not.mp fun hadded => hn ⟨h.1, h.2, hadded⟩
      rw [resolve_of_unknown h, resolve_of_unknown ⟨hnone, h.2⟩]
    · rw [hrules, resolve_addFiles us h]

theorem resolve_after_iff_diamond :
    (diamond.resolve "base" fun _ => false).outcome = .error (.unknownGoal "base") ∧
    ((diamond.resolve "top" fun _ => false).rules.resolve "base" fun _ => false).outcome =
      .ok [.file "base"] ∧
    ((diamond.resolve "top" fun _ => false).rules.resolve "left" fun _ => false).outcome =
      (diamond.resolve "left" fun _ => false).outcome := by
  have ho : ∃ order, (diamond.resolve "top" fun _ => false).outcome = .ok order := by
    rw [resolve, if_neg (by decide)]
    exact ⟨_, by cbv⟩
  obtain ⟨order, ho⟩ := ho
  have hleft : diamond.Step "top" "left" := by
    change "left" ∈ (diamond.ruleFor "top").deps
    decide
  have hbase : diamond.Step "left" "base" := by
    change "base" ∈ (diamond.ruleFor "left").deps
    decide
  obtain ⟨-, hunknown, hfound⟩ := resolve_after_iff diamond "top" "base" fun _ => false
  obtain ⟨hbefore, hafter⟩ := hunknown (by decide) rfl
  refine ⟨hbefore, (hafter (hfound order ho (.step hleft (.single hbase)))).2, ?_⟩
  refine (resolve_after_iff diamond "top" "left" fun _ => false).1.mpr fun hn => ?_
  have hnot : diamond.find? "left" ≠ none := by decide
  exact hnot hn.1

/-- A goal that is unknown is known after the resolution of a goal that needs it. -/
theorem unknown_goal_supplied : ¬ ∀ (as : List Amendment), (∀ a ∈ as, a.declared? ≠ none) →
    ∀ (exists_ : String → Bool) (g₁ g₂ : String),
      (((amended as).resolve g₁ exists_).rules.resolve g₂ exists_).outcome =
        ((amended as).resolve g₂ exists_).outcome := by
  intro h
  let as : List Amendment := [.declare "app" ["main.c"] (some "cc -o app main.c")]
  have hadded : ((amended as).resolve "app" fun _ => false).rules.find? "main.c" =
      some (.file "main.c") := by
    rw [resolve, if_neg (by decide)]
    cbv
  have heq := h as (by simp [as, Amendment.declared?]) (fun _ => false) "app" "main.c"
  rw [resolve_of_file hadded, resolve_of_unknown ⟨by decide, rfl⟩] at heq
  cases heq

end RuleStore
end Freshen
