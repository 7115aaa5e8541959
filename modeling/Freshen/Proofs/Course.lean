import Freshen.Proofs.Progress

/-! The course of a run over a resolved order. Rule by rule it follows how the rules stood when it
started, and it stops at the first rule that is missing, cannot be digested or has a recipe that
does not succeed. -/

namespace Freshen

def BuildError.ofRecipe : BuildError → Bool
  | recipeFailed _ _ | notStarted _ => true
  | _ => false

variable {W : Type}

namespace Plan

variable (p : Plan W) (id : String) (w : W) (goal : String)

inductive Cause (e : Rule × Standing) : BuildError → Prop
  | missing : e.2 = .missing → Cause e (.missingSource e.1.target)
  | undigestible {err} : e.2.due = true →
      Outlook.digestOf (p.surroundings.sources p.root w) e.1 = .error err →
      Cause e (.undigestible err)
  | failed {code} (j : Job) (w' : W) : e.2.due = true → e.1.kind = .explicit →
      p.rules.JobOf goal j → j.target = e.1.target →
      (p.surroundings.execute w' j).1.outcome = .ok (.failed code) →
      Cause e (.recipeFailed e.1.target code)
  | notStarted {err} (j : Job) (w' : W) : p.rules.JobOf goal j →
      (p.surroundings.execute w' j).1.outcome = .error err → Cause e (.notStarted err)

structure Halts (e : Rule × Standing) (r r' : Run W) (err : BuildError) : Prop where
  failure : r'.failure = some err
  cause : p.Cause w goal e err
  report : r'.report = r.report
  settled : r'.settled = r.settled
  loads : p.surroundings.load r'.world = p.surroundings.load r.world
  sight : ∀ t, p.rules.SourceOf goal t → (p.surroundings.sources p.root r'.world).sight t =
    (p.surroundings.sources p.root r.world).sight t
  jobs : err.ofRecipe = false → r'.jobs = r.jobs

def Proceeds (done : List (Rule × Standing)) (e : Rule × Standing) (r r' : Run W) : Prop :=
  e.2 ≠ .missing ∧ p.Progress id w goal (done ++ [e]) r' ∨ ∃ err, p.Halts w goal e r r' err

variable {p id w goal} {done : List (Rule × Standing)} {order : List Rule}
  {e : Rule × Standing} {r r' r'' : Run W} {t : String} {rule : Rule} {path : List String}

lemma bring_of_failure (h : r.failure.isSome) : p.bring path r t = r := by
  rw [bring, if_pos (by simp [h])]

lemma bring_of_filename (hgo : r.failure = none) (hset : t ∉ r.settled) (hp : t ∉ path)
    (hm : t ∉ r.cache.made) (hf : p.rules.find? t = some rule) (hk : rule.kind = .filename) :
    p.bring path r t = p.refresh r t := by
  rw [bring, if_neg (by simp [hgo, hset]), dif_neg hp, if_neg (by simpa [Cache.wasMade] using hm)]
  split
  · next hn => rw [hf] at hn; cases hn
  · next q hq =>
    obtain rfl := Option.some.inj (hf.symm.trans hq)
    rw [hk]

lemma bring_of_explicit (hgo : r.failure = none) (hset : t ∉ r.settled) (hp : t ∉ path)
    (hm : t ∉ r.cache.made) (hf : p.rules.find? t = some rule) (hk : rule.kind = .explicit) :
    p.bring path r t =
      if (p.isDue r t).1 = true then
        let out := p.outdatedFrom [] (p.isDue r t).2 rule.deps
        let r' := p.bringAll (t :: path) out.2 out.1
        if r'.failure.isSome then r' else p.make r' rule out.1
      else (p.isDue r t).2.skip t := by
  rw [bring, if_neg (by simp [hgo, hset]), dif_neg hp, if_neg (by simpa [Cache.wasMade] using hm)]
  split
  · next hn => rw [hf] at hn; cases hn
  · next q hq =>
    obtain rfl := Option.some.inj (hf.symm.trans hq)
    rw [hk]
    dsimp only
    by_cases hd : (p.isDue r t).1 = true
    · rw [if_neg (by simp [hd]), if_pos hd]
    · rw [if_pos (by simpa using hd), if_neg hd]

structure Next (p : Plan W) (goal : String) (done : List (Rule × Standing)) (rule : Rule) :
    Prop where
  found : p.rules.find? rule.target = some rule
  reached : p.rules.Reaches goal rule.target
  acyclic : p.rules.Acyclic rule.target
  new : rule.target ∉ handled done
  deps : ∀ d ∈ rule.deps, d ∈ handled done

lemma next_of_ordered {rest : List Rule} (hord : p.rules.Ordered goal order)
    (he : order = done.map (·.1) ++ rule :: rest) : p.Next goal done rule := by
  have hmem : rule ∈ order := by simp [he]
  have ht : rule.target ∈ targets order := List.mem_map_of_mem hmem
  obtain ⟨hnew, hdeps⟩ := hord.topological _ _ _ he
  exact ⟨hord.found rule hmem, hord.reached _ ht, hord.acyclic ht, hnew, hdeps⟩

namespace Progress

lemma notMem_made (h : p.Progress id w goal done r) (ht : t ∉ handled done) :
    t ∉ r.cache.made := fun hm => ht ((h.made t).mp hm).1

lemma due_answers (h : p.Progress id w goal done r) (hx : p.Next goal done e.1)
    (hs : p.Stands id w e.1 e.2) (hp : e.2 ≠ .missing) :
    ((p.isDue r e.1.target).1 = true ↔ e.2.due = true) ∧
      p.Asked r (p.isDue r e.1.target).2 := by
  obtain ⟨hd, hr⟩ := isDue_answers h.right hx.acyclic
  rw [h.due_iff hx.reached (h.notMem_made hx.new)] at hd
  exact ⟨hd.trans (hs.due_iff hp).symm, hr⟩

lemma outdated_eq (h : p.Progress id w goal done r)
    (hx : p.Next goal done rule) (hr : p.Asked r r') :
    (p.outdatedFrom [] r' rule.deps).1 = rule.deps.eraseDups.filter r'.cache.wasMade ∧
      p.Asked r' (p.outdatedFrom [] r' rule.deps).2 := by
  refine outdatedFrom_eq p [] rule.deps r' (hr.view_eq ▸ hr.cache.right) ?_
  intro u hu
  have hs : p.rules.Step rule.target u := by
    rwa [RuleStore.Step, RuleStore.ruleFor_of_find? hx.found]
  refine ⟨hx.acyclic.step hs, ?_⟩
  rw [hr.cache.made, hr.view_eq, or_iff_not_imp_left]
  exact h.not_stale_of_handled (hx.reached.snoc hs) (hx.deps u hu)

lemma record_proceeds (h : p.Progress id w goal done r) (hx : p.Next goal done e.1)
    (hsep : p.surroundings.Separate) (hs : p.Stands id w e.1 e.2) (hdue : e.2.due = true)
    (hr : p.Near goal r r') (hgo : r'.failure = none) (listed : String → Report → Report)
    (hrep : listed e.1.target r.report = Report.foretold (done ++ [e]))
    (hjobs : r'.jobs.map (·.target) = (listed e.1.target r.report).executed)
    (hperf : ∀ j ∈ r'.jobs, p.Performs goal j)
    (hfile : e.1.kind = .filename → r'.jobs = r.jobs) :
    p.Proceeds id w goal done e r (p.record listed r' e.1.target) := by
  have hdig : Outlook.digestOf (p.surroundings.sources p.root r'.world) e.1 =
      Outlook.digestOf (p.surroundings.sources p.root w) e.1 := by
    refine Outlook.digestOf_congr rfl fun hk => ?_
    have hsrc : p.rules.SourceOf goal e.1.target :=
      ⟨hx.reached, by rwa [RuleStore.ruleFor_of_find? hx.found]⟩
    rw [hr.sight _ hsrc, h.sight _ hsrc]
  cases hd : Outlook.digestOf (p.surroundings.sources p.root w) e.1 with
  | error err =>
    have hrec := Surroundings.record_of_error (c := r'.cache) hx.found (hdig.trans hd)
    have hk := Outlook.filename_of_error hd
    refine .inr ⟨.undigestible err, ?_⟩
    unfold Plan.record
    simp only [hrec]
    exact ⟨rfl, .undigestible hdue hd, hr.report, hr.settled, hr.loads, hr.sight,
      fun _ => (Run.jobs_notice _ _).trans (hfile hk)⟩
  | ok d =>
    obtain ⟨hrec, hrep'⟩ := record_of_digest listed hx.found (hdig.trans hd)
    rw [hr.report] at hrep'
    refine .inl ⟨fun hm => by simp [hm, Standing.due] at hdue, ?_⟩
    exact h.record hsep hs hdue hx.found hr hd hrec hgo (hrep'.trans hrep)
      (by rw [hrec.jobs, hjobs, hrep']) hperf

lemma refresh_proceeds (h : p.Progress id w goal done r) (hx : p.Next goal done e.1)
    (hsep : p.surroundings.Separate) (hs : p.Stands id w e.1 e.2) (hk : e.1.kind = .filename) :
    p.Proceeds id w goal done e r (p.refresh r e.1.target) := by
  have hexists : p.fileExists r.world e.1.target = p.fileExists w e.1.target := by
    refine Sources.fileExists_congr (h.sight _ ⟨hx.reached, ?_⟩)
    rwa [RuleStore.ruleFor_of_find? hx.found]
  by_cases hm : e.2 = .missing
  · have hgone : p.fileExists w e.1.target = false := by
      rw [hm] at hs
      cases hs with
      | missing _ hf => exact hf
    rw [refresh, if_pos (by simp [hexists, hgone])]
    exact .inr ⟨_, rfl, .missing hm, rfl, rfl, rfl, fun _ _ => rfl, fun _ => Run.jobs_notice _ _⟩
  · have hthere := hs.present hm hk
    obtain ⟨hd, hr⟩ := h.due_answers hx hs hm
    rw [refresh, if_neg (by simp [hexists, hthere])]
    dsimp only
    split
    · next hdue =>
      have hdue' := hd.mp hdue
      refine h.record_proceeds hx hsep hs hdue' hr.near (hr.failure.trans h.going) _ ?_ ?_
        (hr.jobs ▸ h.performed) fun _ => hr.jobs
      · rw [h.report, Report.foretold_refreshed hdue' hk]
      · rw [hr.jobs, h.jobs]
    · next hdue =>
      have hfresh := Standing.eq_upToDate hm (hd.not.mp hdue)
      exact .inl ⟨hm, h.skip (hfresh ▸ hs) hfresh hr⟩

lemma runRecipe_proceeds (h : p.Progress id w goal done r) (hx : p.Next goal done e.1)
    (hsep : p.surroundings.Separate) (hspare : p.Spares goal)
    (hs : p.Stands id w e.1 e.2) (hdue : e.2.due = true) (hk : e.1.kind = .explicit)
    {recipe : String} (hrec : e.1.recipe = some recipe) (hr : p.Asked r r')
    (outdated : List String) :
    p.Proceeds id w goal done e r (p.runRecipe r' e.1 recipe outdated) := by
  let job : Job := ⟨e.1.target, recipe, e.1.deps, outdated, p.root⟩
  let before := r'.tell ((if p.options.silent then [] else [.printed (banner e.1.target)]) ++
    [.handedOut job])
  let response := (p.surroundings.execute before.world job).1
  let after := { before with world := (p.surroundings.execute before.world job).2 }.tell
    (response.lines.map .printed)
  have hjob : p.rules.JobOf goal job := by
    refine ⟨hx.reached, ?_⟩
    change (p.rules.ruleFor e.1.target).recipe = some recipe
    rw [RuleStore.ruleFor_of_find? hx.found, hrec]
  have hnear : p.Near goal r after := by
    refine ⟨hr.cache.buildId, hr.cache.made, hr.settled, hr.report, ?_, fun t ht => ?_⟩
    · change p.surroundings.load (p.surroundings.execute r'.world job).2 = _
      rw [hspare.load _ _ hjob, hr.world]
    · change (p.surroundings.sources p.root (p.surroundings.execute r'.world job).2).sight t = _
      rw [hspare.sight _ _ hjob _ ht, hr.world]
  have hgo : after.failure = none := hr.failure.trans h.going
  have hjobs : after.jobs = r.jobs ++ [job] := by
    have hprinted : (response.lines.map Event.printed).filterMap Event.job? = [] := by
      simp [List.filterMap_map, Event.job?, Function.comp_def]
    have hbefore : before.jobs = r'.jobs ++ [job] := by
      rw [Run.jobs_tell]
      split
      · rfl
      · rfl
    rw [Run.jobs_tell, hprinted, List.append_nil, ← hr.jobs]
    exact hbefore
  unfold runRecipe
  dsimp only
  split
  · next err herr =>
    exact .inr ⟨_, rfl, .notStarted job _ hjob herr, hnear.report, hnear.settled,
      hnear.loads, hnear.sight, fun h => by cases h⟩
  · next code hcode =>
    exact .inr ⟨_, rfl, .failed job _ hdue hk hjob rfl hcode, hnear.report, hnear.settled,
      hnear.loads, hnear.sight, fun h => by cases h⟩
  · next hout =>
    have hsome : e.1.recipe.isSome = true := by rw [hrec]; rfl
    have hperf : ∀ j ∈ after.jobs, p.Performs goal j := by
      intro j hj
      rw [hjobs] at hj
      rcases List.mem_append.mp hj with hj | hj
      · exact h.performed j hj
      · rw [List.mem_singleton.mp hj]
        exact ⟨hjob, _, hout⟩
    refine h.record_proceeds hx hsep hs hdue hnear hgo _ ?_ ?_ hperf
      fun hk' => by rw [hk] at hk'; cases hk'
    · rw [h.report, Report.foretold_executed hdue hk hsome]
    · rw [hjobs, List.map_append, h.jobs]
      rfl

lemma make_proceeds (h : p.Progress id w goal done r) (hx : p.Next goal done e.1)
    (hsep : p.surroundings.Separate) (hspare : p.Spares goal)
    (hs : p.Stands id w e.1 e.2) (hdue : e.2.due = true) (hk : e.1.kind = .explicit)
    (hr : p.Asked r r') (outdated : List String) :
    p.Proceeds id w goal done e r (p.make r' e.1 outdated) := by
  unfold make
  split
  · next recipe hrec => exact h.runRecipe_proceeds hx hsep hspare hs hdue hk hrec hr outdated
  · next hrec =>
    refine h.record_proceeds hx hsep hs hdue hr.near (hr.failure.trans h.going) _ ?_ ?_
      (hr.jobs ▸ h.performed) fun _ => hr.jobs
    · rw [h.report, Report.foretold_grouped hdue hk hrec]
    · rw [hr.jobs, h.jobs]

lemma bring_proceeds (h : p.Progress id w goal done r) (hx : p.Next goal done e.1)
    (hsep : p.surroundings.Separate) (hspare : p.Spares goal) (hs : p.Stands id w e.1 e.2) :
    p.Proceeds id w goal done e r (p.bring [] r e.1.target) := by
  have hset : e.1.target ∉ r.settled := (h.settled _).not.mpr hx.new
  have hmade := h.notMem_made hx.new
  cases hk : e.1.kind with
  | filename =>
    rw [bring_of_filename h.going hset (by simp) hmade hx.found hk]
    exact h.refresh_proceeds hx hsep hs hk
  | explicit =>
    have hm : e.2 ≠ .missing := by
      intro hm
      rw [hm] at hs
      cases hs with
      | missing hk' _ => rw [hk] at hk'; cases hk'
    obtain ⟨hd, hr⟩ := h.due_answers hx hs hm
    rw [bring_of_explicit h.going hset (by simp) hmade hx.found hk]
    split
    · next hdue =>
      -- The outdated dependencies have been made by now: bringing them again does nothing.
      obtain ⟨hout, hr'⟩ := h.outdated_eq hx hr
      have hall := hr.trans hr'
      have hmade : ∀ u ∈ (p.outdatedFrom [] (p.isDue r e.1.target).2 e.1.deps).1,
          u ∈ (p.outdatedFrom [] (p.isDue r e.1.target).2 e.1.deps).2.cache.made := by
        intro u hu
        rw [hout, List.mem_filter, Cache.wasMade, decide_eq_true_eq] at hu
        rw [hr'.cache.made]
        exact hu.2
      dsimp only
      rw [bringAll_of_settled p _ _ _ fun u hu => .inl (hmade u hu)]
      rw [if_neg (by simp [hall.failure, h.going])]
      exact h.make_proceeds hx hsep hspare hs (hd.mp hdue) hk hall _
    · next hdue =>
      have hfresh := Standing.eq_upToDate hm (hd.not.mp hdue)
      exact .inl ⟨hm, h.skip (hfresh ▸ hs) hfresh hr⟩

end Progress

lemma foldl_bring_of_failure (rules : List Rule) (h : r.failure.isSome) :
    rules.foldl (fun r rule => p.bring [] r rule.target) r = r := by
  induction rules with
  | nil => rfl
  | cons rule rules ih => rw [List.foldl_cons, bring_of_failure h, ih]

lemma progress_start (p : Plan W) (id : String) (w : W) (goal : String) :
    p.Progress id w goal [] { world := w, cache := { buildId := id } } where
  stands := by simp
  present := by simp
  going := rfl
  buildId := rfl
  settled := by simp
  made := by simp
  right := by simp [Cache.Right]
  sight _ _ := rfl
  loads _ _ _ := rfl
  saved := by simp
  report := rfl
  jobs := rfl
  performed _ hj := by cases hj
  idle _ := rfl

lemma run_course {L : List (Rule × Standing)} (hord : p.rules.Ordered goal order)
    (hL : L.map (·.1) = order) (hstands : ∀ e ∈ L, p.Stands id w e.1 e.2)
    (hsep : p.surroundings.Separate) (hspare : p.Spares goal) :
    p.Progress id w goal L (p.run { buildId := id } w order) ∨
      ∃ done e rest r err, L = done ++ e :: rest ∧ p.Progress id w goal done r ∧
        p.Halts w goal e r (p.run { buildId := id } w order) err := by
  suffices hh : ∀ rest done r, L = done ++ rest → p.Progress id w goal done r →
      let r' := (rest.map (·.1)).foldl (fun r rule => p.bring [] r rule.target) r
      p.Progress id w goal L r' ∨ ∃ done e rest r err, L = done ++ e :: rest ∧
        p.Progress id w goal done r ∧ p.Halts w goal e r r' err by
    have := hh L [] _ rfl (progress_start p id w goal)
    rwa [hL] at this
  intro rest
  induction rest with
  | nil =>
    intro done r he h
    rw [he, List.append_nil]
    exact .inl h
  | cons e rest ih =>
    intro done r he h
    have he' : order = done.map (·.1) ++ e.1 :: rest.map (·.1) := by
      rw [← hL, he, List.map_append, List.map_cons]
    have hx := next_of_ordered hord he'
    rcases h.bring_proceeds hx hsep hspare (hstands e (by simp [he])) with ⟨_, h'⟩ | ⟨err, hhalt⟩
    · exact ih (done ++ [e]) _ (by simp [he]) h'
    · refine .inr ⟨done, e, rest, r, err, he, h, ?_⟩
      rwa [List.map_cons, List.foldl_cons,
        foldl_bring_of_failure _ (by simp [hhalt.failure])]

end Plan
end Freshen
