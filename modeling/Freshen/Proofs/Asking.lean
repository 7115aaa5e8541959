import Freshen.Proofs.Standing

/-! What a run asks before it makes something. Asking changes nothing but what is remembered. -/

namespace Freshen

variable {W : Type}

namespace Run

def jobs (r : Run W) : List Job := r.trace.filterMap Event.job?

lemma jobs_tell (r : Run W) (es : List Event) :
    (r.tell es).jobs = r.jobs ++ es.filterMap Event.job? := by
  simp [jobs, tell]

lemma jobs_notice (r : Run W) (ns : List Notice) : (r.notice ns).jobs = r.jobs := by
  have hn : (ns.map Event.noticed).filterMap Event.job? = [] := by
    simp [List.filterMap_map, Event.job?, Function.comp_def]
  rw [notice, jobs_tell, hn, List.append_nil]

lemma result_eq_ok {r : Run W} {rep : Report} :
    r.result = .ok rep ↔ r.failure = none ∧ r.report = rep := by
  rw [result]
  cases r.failure <;> simp

lemma result_eq_error {r : Run W} {e : BuildError} :
    r.result = .error e ↔ r.failure = some e := by
  rw [result]
  cases r.failure <;> simp

end Run

namespace Plan

variable (p : Plan W)

def view (r : Run W) : Outlook := p.surroundings.outlook p.root p.rules r.cache r.world

structure Asked (r r' : Run W) : Prop where
  cache : r.cache.Asked (p.view r) r'.cache
  world : r'.world = r.world
  settled : r'.settled = r.settled
  report : r'.report = r.report
  failure : r'.failure = r.failure
  jobs : r'.jobs = r.jobs

variable {p} {r r' r'' : Run W} {t : String} {ts : List String} {path : List String}

lemma Asked.view_eq (h : p.Asked r r') : p.view r' = p.view r := by
  simp only [view, Surroundings.outlook, h.world, h.cache.buildId, h.cache.made]

lemma Asked.refl (h : r.cache.Right (p.view r)) : p.Asked r r :=
  ⟨⟨rfl, rfl, h⟩, rfl, rfl, rfl, rfl, rfl⟩

lemma Asked.trans (h : p.Asked r r') (h' : p.Asked r' r'') : p.Asked r r'' :=
  ⟨⟨h'.cache.buildId.trans h.cache.buildId, h'.cache.made.trans h.cache.made,
    h.view_eq ▸ h'.cache.right⟩, h'.world.trans h.world, h'.settled.trans h.settled,
    h'.report.trans h.report, h'.failure.trans h.failure, h'.jobs.trans h.jobs⟩

lemma ask_answers (hr : r.cache.Right (p.view r)) (ha : p.rules.Acyclic t) :
    ((p.ask r t).1 = true ↔ (p.view r).Stale t) ∧ p.Asked r (p.ask r t).2 := by
  obtain ⟨hs, hc⟩ := Surroundings.isStale_answers hr ha
  exact ⟨hs, hc, rfl, rfl, rfl, rfl, Run.jobs_notice _ _⟩

lemma isDue_answers (hr : r.cache.Right (p.view r)) (ha : p.rules.Acyclic t) :
    ((p.isDue r t).1 = true ↔ p.options.force = true ∨ (p.view r).Stale t) ∧
      p.Asked r (p.isDue r t).2 := by
  unfold isDue
  split
  · next hf => exact ⟨by simp [hf], .refl hr⟩
  · next hf =>
    obtain ⟨hs, hr'⟩ := ask_answers hr ha
    exact ⟨by simp [hf, hs], hr'⟩

lemma outdatedFrom_eq (p : Plan W) (seen ts : List String) (r : Run W)
    (hr : r.cache.Right (p.view r))
    (hts : ∀ u ∈ ts, p.rules.Acyclic u ∧
      (u ∈ r.cache.made ∨ p.options.force = false ∧ ¬ (p.view r).Stale u)) :
    (p.outdatedFrom (seen.eraseDups.filter r.cache.wasMade) r ts).1 =
        (seen ++ ts).eraseDups.filter r.cache.wasMade ∧
      p.Asked r (p.outdatedFrom (seen.eraseDups.filter r.cache.wasMade) r ts).2 := by
  induction ts generalizing seen r with
  | nil => exact ⟨by rw [outdatedFrom, List.append_nil], .refl hr⟩
  | cons t ts ih =>
    have hrest : ∀ u ∈ ts, _ := fun u hu => hts u (List.mem_cons_of_mem _ hu)
    obtain ⟨ha, ht⟩ := hts t (by simp)
    have hmem : t ∈ seen.eraseDups.filter r.cache.wasMade ↔ t ∈ seen ∧ r.cache.wasMade t := by
      rw [List.mem_filter, List.mem_eraseDups]
    rw [List.append_cons, outdatedFrom]
    split
    · next hfound =>
      have hsnoc : (seen ++ [t]).eraseDups = seen.eraseDups := by
        rw [eraseDups_concat, if_pos (hmem.mp hfound).1]
      have h := ih (seen ++ [t]) r hr hrest
      rwa [hsnoc] at h
    split
    · next hnew hm =>
      have hmade : r.cache.wasMade t = true := by
        rcases ht with ht | ⟨hf, _⟩
        · simpa [Cache.wasMade] using ht
        · simpa [hf] using hm
      have hsnoc : (seen ++ [t]).eraseDups = seen.eraseDups ++ [t] := by
        rw [eraseDups_concat, if_neg fun hseen => hnew (hmem.mpr ⟨hseen, hmade⟩)]
      have h := ih (seen ++ [t]) r hr hrest
      rwa [hsnoc, List.filter_append, List.filter_singleton, hmade] at h
    · next hm =>
      -- This one was skipped, so it is still up to date.
      rw [Bool.or_eq_true, not_or] at hm
      have hnot : t ∉ r.cache.made := by simpa [Cache.wasMade] using hm.2
      obtain ⟨hs, hr'⟩ := ask_answers hr ha
      have hns : ¬ (p.ask r t).1 = true := fun h => (ht.resolve_left hnot).2 (hs.mp h)
      have hsnoc : (seen ++ [t]).eraseDups.filter r.cache.wasMade =
          seen.eraseDups.filter r.cache.wasMade := by
        rw [eraseDups_concat]
        split
        · rfl
        · rw [List.filter_append, List.filter_singleton, Bool.eq_false_iff.mpr hm.2, cond_false,
            List.append_nil]
      have hwas : (p.ask r t).2.cache.wasMade = r.cache.wasMade := by
        funext u
        rw [Cache.wasMade, hr'.cache.made, Cache.wasMade]
      dsimp only
      rw [if_neg hns]
      obtain ⟨hout, hasked⟩ := ih (seen ++ [t]) (p.ask r t).2 (hr'.view_eq ▸ hr'.cache.right)
        (by rwa [hr'.cache.made, hr'.view_eq])
      rw [hwas, hsnoc] at hout hasked
      exact ⟨hout, hr'.trans hasked⟩

lemma bringAll_of_settled (p : Plan W) (path : List String) (r : Run W) (ts : List String)
    (h : ∀ u ∈ ts, u ∈ r.cache.made ∨ u ∈ r.settled) : p.bringAll path r ts = r := by
  induction ts with
  | nil => rw [bringAll]
  | cons t ts ih =>
    have hrest := ih fun u hu => h u (List.mem_cons_of_mem _ hu)
    rw [bringAll]
    split
    · exact hrest
    · next hm =>
      have hset : t ∈ r.settled := by
        refine (h t (by simp)).resolve_left fun hmade => hm ?_
        simpa [Cache.wasMade] using hmade
      rw [bring, if_pos (by simp [hset])]
      exact hrest

end Plan
end Freshen
