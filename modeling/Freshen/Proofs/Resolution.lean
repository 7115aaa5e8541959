import Freshen.Proofs.Dependency

/-! A resolved order is a topological order of everything that the goal reaches. -/

namespace Freshen

namespace Walk

variable {s : RuleStore} {path : List String} {w : Walk} {t : String}

structure Sound (s : RuleStore) (w : Walk) : Prop where
  topological : Topological w.order
  ruled : ∀ r ∈ w.order, r = s.ruleFor r.target
  met : ∀ r ∈ w.order, r.target ∈ w.met

structure Extends (s : RuleStore) (path : List String) (w w' : Walk) (ts : List String) :
    Prop where
  clear : w.cycle = none
  sound : Sound s w'
  placed : ∀ t ∈ ts, t ∈ targets w'.order
  kept : ∀ r ∈ w.order, r ∈ w'.order
  met : ∀ t ∈ w.met, t ∈ w'.met
  added : ∀ r ∈ w'.order, r ∈ w.order ∨ r.target ∉ path ∧ ∃ t ∈ ts, s.Reaches t r.target

lemma isDone_iff : w.isDone t = true ↔ t ∈ targets w.order := by
  simp [isDone]

lemma notMem_of_new (h : ¬ (w.cycle.isSome || w.isDone t) = true) : t ∉ targets w.order :=
  fun hm => h (by simp [isDone_iff.mpr hm])

lemma finish_of_clear {r : Rule} (h : w.cycle = none) :
    w.finish r = { w with order := w.order ++ [r] } := by
  simp [finish, h]

lemma finish_cycle (w : Walk) (r : Rule) : (w.finish r).cycle = w.cycle := by
  unfold finish
  split <;> rfl

lemma Extends.finish {r : Rule} {w' : Walk} {ts : List String} (hr : r = s.ruleFor t)
    (ht : t ∉ targets w.order) (hp : t ∉ path) (hc : w'.cycle = none) (hts : r.deps = ts)
    (h : Extends s (t :: path) (w.meet t) w' ts) : Extends s path w (w'.finish r) [t] := by
  have htarget : r.target = t := by rw [hr, s.ruleFor_target]
  have hnew : r.target ∉ targets w'.order := by
    rw [htarget]
    intro hm
    obtain ⟨q, hq, hqt⟩ := List.mem_map.mp hm
    rcases h.added q hq with hq' | ⟨hq', _⟩
    · exact ht (List.mem_map.mpr ⟨q, hq', hqt⟩)
    · exact hq' (by simp [hqt])
  rw [finish_of_clear hc]
  refine ⟨h.clear, ⟨?_, ?_, ?_⟩, ?_, ?_, ?_, ?_⟩
  · exact h.sound.topological.snoc hnew (hts ▸ h.placed)
  · intro q hq
    rcases List.mem_append.mp hq with hq | hq
    · exact h.sound.ruled q hq
    · rw [List.mem_singleton.mp hq, htarget, hr]
  · intro q hq
    rcases List.mem_append.mp hq with hq | hq
    · exact h.sound.met q hq
    · rw [List.mem_singleton.mp hq, htarget]
      exact h.met t (by simp [meet])
  · simp [htarget]
  · exact fun q hq => List.mem_append_left _ (h.kept q hq)
  · exact fun u hu => h.met u (by simp [meet, hu])
  · intro q hq
    rcases List.mem_append.mp hq with hq | hq
    · rcases h.added q hq with hq | ⟨hq, u, hu, hr'⟩
      · exact .inl hq
      · refine .inr ⟨fun hm => hq (List.mem_cons_of_mem _ hm), t, by simp, .step ?_ hr'⟩
        rwa [RuleStore.Step, ← hr, hts]
    · rw [List.mem_singleton.mp hq, htarget]
      exact .inr ⟨hp, t, by simp, .refl t⟩

lemma Extends.refl (hc : w.cycle = none) (hw : Sound s w) {ts : List String}
    (ht : ∀ t ∈ ts, t ∈ targets w.order) : Extends s path w w ts :=
  ⟨hc, hw, ht, fun _ h => h, fun _ h => h, fun _ h => .inl h⟩

lemma Extends.trans {w' w'' : Walk} {ts : List String} (h : Extends s path w w' [t])
    (h' : Extends s path w' w'' ts) : Extends s path w w'' (t :: ts) := by
  refine ⟨h.clear, h'.sound, ?_, fun r hr => h'.kept r (h.kept r hr),
    fun u hu => h'.met u (h.met u hu), ?_⟩
  · intro u hu
    rcases List.mem_cons.mp hu with rfl | hu
    · obtain ⟨r, hr, he⟩ := List.mem_map.mp (h.placed u (by simp))
      exact List.mem_map.mpr ⟨r, h'.kept r hr, he⟩
    · exact h'.placed u hu
  · intro r hr
    rcases h'.added r hr with hr | ⟨hp, u, hu, hur⟩
    · rcases h.added r hr with hr | ⟨hp, u, hu, hur⟩
      · exact .inl hr
      · exact .inr ⟨hp, u, List.mem_cons.mpr (.inl (List.mem_singleton.mp hu)), hur⟩
    · exact .inr ⟨hp, u, List.mem_cons_of_mem _ hu, hur⟩

lemma Sound.meet (hw : Sound s w) (t : String) : Sound s (w.meet t) :=
  ⟨hw.topological, hw.ruled, fun r hr => List.mem_append_left _ (hw.met r hr)⟩

lemma visit_of_done (h : (w.cycle.isSome || w.isDone t) = true) : visit s path w t = w := by
  rw [visit, if_pos h]

lemma visit_of_new (h : ¬ (w.cycle.isSome || w.isDone t) = true) (hp : t ∉ path) :
    visit s path w t =
      (visitAll s (t :: path) (w.meet t) (s.ruleFor t).deps).finish (s.ruleFor t) := by
  rw [visit, if_neg h, dif_neg hp]
  split
  · next hf =>
    have hr : s.ruleFor t = .file t := by simp [RuleStore.ruleFor, hf]
    rw [hr]
    simp [Rule.file, visitAll]
  · next r hf => rw [RuleStore.ruleFor_of_find? hf]

lemma visit_congr {s' : RuleStore} (h : ∀ u, s.Reaches t u → s'.ruleFor u = s.ruleFor u)
    (path : List String) (w : Walk) : visit s' path w t = visit s path w t := by
  refine (visit.mutual_induct s
    (fun path w t => (∀ u, s.Reaches t u → s'.ruleFor u = s.ruleFor u) →
      visit s' path w t = visit s path w t)
    (fun path w ts => (∀ t ∈ ts, ∀ u, s.Reaches t u → s'.ruleFor u = s.ruleFor u) →
      visitAll s' path w ts = visitAll s path w ts)
    ?done ?cycle ?noRule ?rule ?nil ?cons).1 path w t h
  case done =>
    intro path w t h _
    rw [visit_of_done h, visit_of_done h]
  case cycle =>
    intro path w t h hp _
    rw [visit, if_neg h, dif_pos hp, visit, if_neg h, dif_pos hp]
  case noRule =>
    intro path w t h hp hf ha
    have hdeps : (s.ruleFor t).deps = [] := by simp [RuleStore.ruleFor, hf, Rule.file]
    rw [visit_of_new h hp, visit_of_new h hp, ha t (.refl t), hdeps, visitAll, visitAll]
  case rule =>
    intro path w t h hp r hf ih ha
    obtain rfl := RuleStore.ruleFor_of_find? hf
    rw [visit_of_new h hp, visit_of_new h hp, ha t (.refl t),
      ih fun u hu v hv => ha v (.step hu hv)]
  case nil =>
    intro path w _
    rw [visitAll, visitAll]
  case cons =>
    intro path w t ts iht ihts h
    rw [visitAll, visitAll, iht (h t (by simp)), ihts fun u hu => h u (List.mem_cons_of_mem _ hu)]

lemma visitAll_of_cycle (h : w.cycle.isSome) (ts : List String) : visitAll s path w ts = w := by
  induction ts with
  | nil => rw [visitAll]
  | cons t ts ih => rw [visitAll, visit_of_done (by simp [h]), ih]

lemma clear_of_visitAll {ts : List String} (h : (visitAll s path w ts).cycle = none) :
    w.cycle = none := by
  cases hc : w.cycle with
  | none => rfl
  | some c => rw [visitAll_of_cycle (by simp [hc]), hc] at h; exact h

lemma visit_extends (s : RuleStore) (path : List String) (w : Walk) (t : String)
    (hc : (visit s path w t).cycle = none) (hw : Sound s w) :
    Extends s path w (visit s path w t) [t] := by
  -- By the recursion of the walk. A rule is not placed while its own dependencies are visited, as
  -- a name of the path that is met again is a cycle.
  refine (visit.mutual_induct s
    (fun path w t => (visit s path w t).cycle = none → Sound s w →
      Extends s path w (visit s path w t) [t])
    (fun path w ts => (visitAll s path w ts).cycle = none → Sound s w →
      Extends s path w (visitAll s path w ts) ts) ?_ ?_ ?_ ?_ ?_ ?_).1 path w t hc hw
  · intro path w t h hc hw
    rw [visit_of_done h] at hc ⊢
    have hd : w.isDone t = true := by simpa [hc] using h
    exact .refl hc hw (by simpa using isDone_iff.mp hd)
  · intro path w t h hp hc
    rw [visit, if_neg h, dif_pos hp] at hc
    simp at hc
  · intro path w t h hp hf hc hw
    have hdeps : (s.ruleFor t).deps = [] := by simp [RuleStore.ruleFor, hf, Rule.file]
    rw [visit_of_new h hp, hdeps, visitAll] at hc ⊢
    rw [finish_cycle] at hc
    exact .finish rfl (notMem_of_new h) hp hc hdeps (.refl hc (hw.meet t) (by simp))
  · intro path w t h hp r hf ih hc hw
    obtain rfl := RuleStore.ruleFor_of_find? hf
    rw [visit_of_new h hp] at hc ⊢
    rw [finish_cycle] at hc
    exact .finish rfl (notMem_of_new h) hp hc rfl (ih hc (hw.meet t))
  · intro path w hc hw
    rw [visitAll] at hc ⊢
    exact .refl hc hw (by simp)
  · intro path w t ts iht ihts hc hw
    rw [visitAll] at hc ⊢
    have ht := iht (clear_of_visitAll hc) hw
    exact ht.trans (ihts hc ht.sound)

lemma visit_clear (s : RuleStore) (path : List String) (w : Walk) (t : String)
    (hc : w.cycle = none) (ha : s.Acyclic t) (hl : s.Leads path t) :
    (visit s path w t).cycle = none := by
  refine (visit.mutual_induct s
    (fun path w t => w.cycle = none → s.Acyclic t → s.Leads path t →
      (visit s path w t).cycle = none)
    (fun path w ts => w.cycle = none → (∀ t ∈ ts, s.Acyclic t ∧ s.Leads path t) →
      (visitAll s path w ts).cycle = none) ?_ ?_ ?_ ?_ ?_ ?_).1 path w t hc ha hl
  · intro path w t h hc _ _
    rw [visit_of_done h, hc]
  · intro path w t _ hp _ ha hl
    exact (hl.notMem ha hp).elim
  · intro path w t h hp hf hc _ _
    rw [visit_of_new h hp, finish_cycle]
    simp [RuleStore.ruleFor, hf, Rule.file, visitAll, meet, hc]
  · intro path w t h hp r hf ih hc ha hl
    obtain rfl := RuleStore.ruleFor_of_find? hf
    rw [visit_of_new h hp, finish_cycle]
    exact ih hc fun d hd => ⟨ha.step hd, hl.cons hd⟩
  · intro path w hc _
    rwa [visitAll]
  · intro path w t ts iht ihts hc h
    rw [visitAll]
    have ht := h t (by simp)
    exact ihts (iht hc ht.1 ht.2) fun u hu => h u (by simp [hu])

end Walk

lemma Topological.getElem?_lt {order : List Rule} (h : Topological order) {i : ℕ} {r : Rule}
    (hr : order[i]? = some r) {d : String} (hd : d ∈ r.deps) :
    ∃ j < i, (targets order)[j]? = some d := by
  obtain ⟨hi, rfl⟩ := List.getElem?_eq_some_iff.mp hr
  have hsplit : order = order.take i ++ order[i] :: order.drop (i + 1) := by simp
  have hmem := (h _ _ _ hsplit).2 d hd
  obtain ⟨j, hj⟩ := List.mem_iff_getElem?.mp hmem
  have hlt : j < i := by
    have hlen := (List.getElem?_eq_some_iff.mp hj).1
    simp only [List.length_map, List.length_take] at hlen
    omega
  refine ⟨j, hlt, ?_⟩
  rwa [targets, List.map_take, List.getElem?_take_of_lt hlt] at hj

namespace RuleStore

variable {s : RuleStore} {goal t u : String} {exists_ : String → Bool} {order : List Rule}

structure Ordered (s : RuleStore) (goal : String) (order : List Rule) : Prop where
  topological : Topological order
  found : ∀ r ∈ order, s.find? r.target = some r
  goal_mem : goal ∈ targets order
  reached : ∀ t ∈ targets order, s.Reaches goal t

namespace Ordered

lemma ruleFor_mem (h : s.Ordered goal order) (ht : t ∈ targets order) : s.ruleFor t ∈ order := by
  obtain ⟨r, hr, rfl⟩ := List.mem_map.mp ht
  rwa [ruleFor_of_find? (h.found r hr)]

lemma ruleFor_eq {r : Rule} (h : s.Ordered goal order) (hr : r ∈ order) :
    s.ruleFor r.target = r :=
  ruleFor_of_find? (h.found r hr)

lemma find?_eq (h : s.Ordered goal order) (ht : t ∈ targets order) :
    s.find? t = some (s.ruleFor t) := by
  simpa using h.found _ (h.ruleFor_mem ht)

lemma idxOf_lt (h : s.Ordered goal order) (ht : t ∈ targets order) (hs : s.Step t u) :
    (targets order).idxOf u < (targets order).idxOf t := by
  obtain ⟨l₁, l₂, he⟩ := List.append_of_mem (h.ruleFor_mem ht)
  obtain ⟨hnew, hdeps⟩ := h.topological l₁ _ l₂ he
  rw [ruleFor_target] at hnew
  have hl : targets order = targets l₁ ++ t :: targets l₂ := by rw [he]; simp
  rw [hl, List.idxOf_append_of_mem (hdeps u hs), List.idxOf_append_of_notMem hnew]
  exact (List.idxOf_lt_length_of_mem (hdeps u hs)).trans_le (Nat.le_add_right _ _)

lemma step_mem (h : s.Ordered goal order) (ht : t ∈ targets order) (hs : s.Step t u) :
    u ∈ targets order :=
  List.idxOf_lt_length_iff.mp ((h.idxOf_lt ht hs).trans_le List.idxOf_le_length)

lemma reaches_mem (h : s.Ordered goal order) (ht : t ∈ targets order) (hr : s.Reaches t u) :
    u ∈ targets order ∧ (targets order).idxOf u ≤ (targets order).idxOf t := by
  induction hr with
  | refl => exact ⟨ht, le_rfl⟩
  | step hs _ ih =>
    obtain ⟨hu, hle⟩ := ih (h.step_mem ht hs)
    exact ⟨hu, hle.trans (h.idxOf_lt ht hs).le⟩

lemma closed_left {l₁ l₂ : List Rule} (h : s.Ordered goal (l₁ ++ l₂)) (ht : t ∈ targets l₁)
    (hr : s.Reaches t u) : u ∈ targets l₁ := by
  induction hr with
  | refl => exact ht
  | @step t v _ hs _ ih =>
    refine ih ?_
    have hmem : s.ruleFor t ∈ l₁ := by
      obtain ⟨r, hr, rfl⟩ := List.mem_map.mp ht
      rwa [h.ruleFor_eq (List.mem_append_left _ hr)]
    obtain ⟨a, c, rfl⟩ := List.append_of_mem hmem
    have hv := (h.topological a (s.ruleFor t) (c ++ l₂) (by simp)).2 v hs
    simp only [targets, List.map_append, List.mem_append]
    exact .inl hv

lemma getLast?_eq (h : s.Ordered goal order) : (targets order).getLast? = some goal := by
  cases order using List.reverseRecOn with
  | nil =>
    have hg := h.goal_mem
    cases hg
  | append_singleton l r =>
    -- The last target is reached from the goal, so it comes no later than the goal.
    have hlast : targets (l ++ [r]) = targets l ++ [r.target] := by simp
    have hr : r.target ∈ targets (l ++ [r]) := by simp
    have hnew := (h.topological l r [] rfl).1
    have hle := (h.reaches_mem h.goal_mem (h.reached _ hr)).2
    rw [hlast, List.idxOf_append_of_notMem hnew] at hle
    have hgoal : goal ∉ targets l := by
      intro hg
      rw [List.idxOf_append_of_mem hg] at hle
      have hlt := List.idxOf_lt_length_of_mem hg
      omega
    have hg := h.goal_mem
    rw [hlast, List.mem_append, List.mem_singleton] at hg
    rw [hlast, List.getLast?_concat, hg.resolve_left hgoal]

lemma mem_iff (h : s.Ordered goal order) : t ∈ targets order ↔ s.Reaches goal t :=
  ⟨h.reached t, fun hr => (h.reaches_mem h.goal_mem hr).1⟩

lemma acyclic (h : s.Ordered goal order) (ht : t ∈ targets order) : s.Acyclic t := by
  intro a b ha hs hb
  have ha' := (h.reaches_mem ht ha).1
  have hlt := h.idxOf_lt ha' hs
  have hle := (h.reaches_mem (h.step_mem ha' hs) hb).2
  omega

end Ordered

lemma resolve_ruleFor (s : RuleStore) (goal : String) (exists_ : String → Bool) (t : String) :
    (s.resolve goal exists_).rules.ruleFor t = s.ruleFor t := by
  unfold resolve
  split
  · rfl
  · dsimp only
    split <;> exact ruleFor_addFiles s _ t

lemma resolve_reaches (s : RuleStore) (goal : String) (exists_ : String → Bool) (t u : String) :
    (s.resolve goal exists_).rules.Reaches t u ↔ s.Reaches t u :=
  reaches_congr fun t => by rw [resolve_ruleFor]

lemma resolve_ok (h : (s.resolve goal exists_).outcome = .ok order) :
    (Walk.visit s [] {} goal).cycle = none ∧ (Walk.visit s [] {} goal).order = order ∧
      (s.resolve goal exists_).rules = (Walk.visit s [] {} goal).met.foldl addFile s := by
  unfold resolve at h ⊢
  split at h
  · cases h
  · next hg =>
    rw [if_neg hg]
    dsimp only at h ⊢
    split at h
    · cases h
    · next hc => exact ⟨hc, Except.ok.inj h, by simp⟩

lemma resolve_ordered (h : (s.resolve goal exists_).outcome = .ok order) :
    (s.resolve goal exists_).rules.Ordered goal order := by
  obtain ⟨hc, rfl, hrules⟩ := resolve_ok h
  have hx := Walk.visit_extends s [] {} goal hc ⟨.nil, by simp, by simp⟩
  refine ⟨hx.sound.topological, ?_, hx.placed goal (by simp), ?_⟩
  · intro r hr
    rw [hrules, find?_addFiles, if_pos (hx.sound.met r hr), ← hx.sound.ruled r hr]
  · intro t ht
    obtain ⟨r, hr, rfl⟩ := List.mem_map.mp ht
    rcases hx.added r hr with hr | ⟨_, u, hu, hreach⟩
    · cases hr
    · rw [List.mem_singleton.mp hu] at hreach
      rwa [resolve_reaches]

lemma acyclic_of_resolved (h : (s.resolve goal exists_).outcome = .ok order) : s.Acyclic goal := by
  have ha := (resolve_ordered h).acyclic (resolve_ordered h).goal_mem
  intro t u ht hs hu
  rw [← resolve_reaches s goal exists_] at ht hu
  refine ha ht ?_ hu
  rwa [Step, resolve_ruleFor]

lemma resolve_of_acyclic (ha : s.Acyclic goal)
    (hk : (s.find? goal).isSome ∨ exists_ goal = true) :
    ∃ order, (s.resolve goal exists_).outcome = .ok order := by
  have hg : ¬ ((s.find? goal).isNone && !exists_ goal) = true := by
    rcases hk with hk | hk
    · simp [Option.ne_none_iff_isSome.mpr hk]
    · simp [hk]
  have hc := Walk.visit_clear s [] {} goal rfl ha .nil
  refine ⟨(Walk.visit s [] {} goal).order, ?_⟩
  unfold resolve
  rw [if_neg hg]
  simp [hc]

/-- A resolved order holds just what the goal reaches, every rule as the store has it and after all
its dependencies, and it ends with the goal. -/
theorem resolve_topological (h : (s.resolve goal exists_).outcome = .ok order) :
    (targets order).Nodup ∧ (∀ t, t ∈ targets order ↔ s.Reaches goal t) ∧
    (targets order).getLast? = some goal ∧
    (∀ (i : ℕ) (r : Rule), order[i]? = some r → ∀ d ∈ r.deps,
      ∃ j < i, (targets order)[j]? = some d) ∧
    ∀ r ∈ order, (s.resolve goal exists_).rules.find? r.target = some r := by
  have ho := resolve_ordered h
  refine ⟨ho.topological.nodup, fun t => ?_, ho.getLast?_eq, ?_, ho.found⟩
  · rw [ho.mem_iff, resolve_reaches]
  · intro i r hr d hd
    exact ho.topological.getElem?_lt hr hd

def diamond : RuleStore :=
  ((({} : RuleStore).declare "top" ["left", "right", "left"] none).declare "left" ["base"]
    none).declare "right" ["base"] none

theorem diamond_topological :
    (diamond.resolve "top" fun _ => false).outcome = .ok [.file "base",
      ⟨"left", ["base"], none, .explicit, false⟩, ⟨"right", ["base"], none, .explicit, false⟩,
      ⟨"top", ["left", "right", "left"], none, .explicit, false⟩] ∧
    ∀ t, t ∈ ["base", "left", "right", "top"] ↔ diamond.Reaches "top" t := by
  have ho : (diamond.resolve "top" fun _ => false).outcome = .ok [.file "base",
      ⟨"left", ["base"], none, .explicit, false⟩, ⟨"right", ["base"], none, .explicit, false⟩,
      ⟨"top", ["left", "right", "left"], none, .explicit, false⟩] := by
    rw [resolve, if_neg (by decide)]
    cbv
  exact ⟨ho, (resolve_topological ho).2.1⟩

end RuleStore
end Freshen
