import Freshen.Proofs.Asking

/-! What holds of a run that has come to some rule of a resolved order: what was due is made, the
rest is skipped and still up to date, and the digest store differs just where something was made. -/

namespace Freshen

variable {W : Type}

namespace Report

def entered (l : List (Rule × Standing)) (q : Rule × Standing → Bool) : List String :=
  (l.filter q).map (·.1.target)

def foretold (l : List (Rule × Standing)) : Report where
  executed := entered l fun e => e.2.due && e.1.kind = .explicit && e.1.recipe.isSome
  refreshed := entered l fun e => e.2.due && e.1.kind = .filename
  grouped := entered l fun e => e.2.due && e.1.kind = .explicit && e.1.recipe.isNone
  skipped := entered l fun e => e.2 = .upToDate

lemma mem_entered {l : List (Rule × Standing)} {q : Rule × Standing → Bool} {t : String} :
    t ∈ entered l q ↔ ∃ e ∈ l, q e = true ∧ e.1.target = t := by
  simp [entered, and_assoc]

lemma entered_append (l : List (Rule × Standing)) (e : Rule × Standing)
    (q : Rule × Standing → Bool) :
    entered (l ++ [e]) q = entered l q ++ if q e then [e.1.target] else [] := by
  simp only [entered, List.filter_append, List.map_append, List.filter_singleton]
  split <;> simp_all

section

variable {l : List (Rule × Standing)} {e : Rule × Standing}

lemma foretold_skipped (h : e.2 = .upToDate) : foretold (l ++ [e]) =
    { foretold l with skipped := (foretold l).skipped ++ [e.1.target] } := by
  simp [foretold, entered_append, h, Standing.due]

lemma not_upToDate (h : e.2.due = true) : e.2 ≠ .upToDate := by
  intro he
  simp [he, Standing.due] at h

lemma foretold_refreshed (h : e.2.due = true) (hk : e.1.kind = .filename) : foretold (l ++ [e]) =
    { foretold l with refreshed := (foretold l).refreshed ++ [e.1.target] } := by
  simp [foretold, entered_append, h, hk, not_upToDate h]

lemma foretold_executed (h : e.2.due = true) (hk : e.1.kind = .explicit)
    (hr : e.1.recipe.isSome = true) : foretold (l ++ [e]) =
    { foretold l with executed := (foretold l).executed ++ [e.1.target] } := by
  simp [foretold, entered_append, h, hk, hr, not_upToDate h, Option.ne_none_iff_isSome.mpr hr]

lemma foretold_grouped (h : e.2.due = true) (hk : e.1.kind = .explicit) (hr : e.1.recipe = none) :
    foretold (l ++ [e]) =
    { foretold l with grouped := (foretold l).grouped ++ [e.1.target] } := by
  simp [foretold, entered_append, h, hk, hr, not_upToDate h]

end

end Report

namespace Plan

variable (p : Plan W) (id : String) (w : W) (goal : String)

def Due (t : String) : Prop := p.options.force = true ∨ (p.start id w).Stale t

structure Spares : Prop where
  load : ∀ w j, p.rules.JobOf goal j →
    p.surroundings.load (p.surroundings.execute w j).2 = p.surroundings.load w
  sight : ∀ w j, p.rules.JobOf goal j → ∀ t, p.rules.SourceOf goal t →
    (p.surroundings.sources p.root (p.surroundings.execute w j).2).sight t =
      (p.surroundings.sources p.root w).sight t

def Performs (j : Job) : Prop :=
  p.rules.JobOf goal j ∧ ∃ w, (p.surroundings.execute w j).1.outcome = .ok .success

variable {p id w} in
lemma due_iff_of_unforced (hf : p.options.force = false) {t : String} :
    p.Due id w t ↔ ∃ x, p.rules.Reaches t x ∧ ¬ (p.start id w).Trusted x := by
  simp [Due, hf, Outlook.Stale, start, Surroundings.outlook]

abbrev handled (done : List (Rule × Standing)) : List String := targets (done.map (·.1))

structure Progress (done : List (Rule × Standing)) (r : Run W) : Prop where
  stands : ∀ e ∈ done, p.Stands id w e.1 e.2
  present : ∀ e ∈ done, e.2 ≠ .missing
  going : r.failure = none
  buildId : r.cache.buildId = id
  settled : ∀ t, t ∈ r.settled ↔ t ∈ handled done
  made : ∀ t, t ∈ r.cache.made ↔ t ∈ handled done ∧ p.Due id w t
  right : r.cache.Right (p.view r)
  sight : ∀ t, p.rules.SourceOf goal t →
    (p.surroundings.sources p.root r.world).sight t = (p.surroundings.sources p.root w).sight t
  loads : ∀ id' t, (id' = id → t ∉ r.cache.made) →
    p.surroundings.load r.world id' t = p.surroundings.load w id' t
  saved : p.surroundings.Lawful → ∀ t ∈ r.cache.made,
    ∃ d, Outlook.digestOf (p.surroundings.sources p.root w) (p.rules.ruleFor t) = .ok d ∧
      p.surroundings.load r.world id t = .ok (some d.hex)
  report : r.report = Report.foretold done
  jobs : r.jobs.map (·.target) = r.report.executed
  performed : ∀ j ∈ r.jobs, p.Performs goal j
  idle : r.cache.made = [] → r.world = w

structure Near (r r' : Run W) : Prop where
  buildId : r'.cache.buildId = r.cache.buildId
  made : r'.cache.made = r.cache.made
  settled : r'.settled = r.settled
  report : r'.report = r.report
  loads : p.surroundings.load r'.world = p.surroundings.load r.world
  sight : ∀ t, p.rules.SourceOf goal t → (p.surroundings.sources p.root r'.world).sight t =
    (p.surroundings.sources p.root r.world).sight t

structure Recorded (t : String) (d : Digest) (r r' : Run W) : Prop where
  cache : r'.cache = r.cache.noteMade t
  world : r'.world = (p.surroundings.save r.world r.cache.buildId t d.hex).2
  settled : r'.settled = t :: r.settled
  failure : r'.failure = r.failure
  jobs : r'.jobs = r.jobs

variable {p id w goal} {done : List (Rule × Standing)} {order : List Rule}
  {e : Rule × Standing} {r r' : Run W} {t : String} {d : Digest} {rule : Rule}

lemma mem_handled_snoc : t ∈ handled (done ++ [e]) ↔ t = e.1.target ∨ t ∈ handled done := by
  simp [handled, or_comm]

lemma forall_mem_snoc {q : Rule × Standing → Prop} (h : ∀ c ∈ done, q c) (he : q e) :
    ∀ c ∈ done ++ [e], q c :=
  List.forall_mem_append.mpr ⟨h, List.forall_mem_singleton.mpr he⟩

lemma Asked.near (h : p.Asked r r') : p.Near goal r r' :=
  ⟨h.cache.buildId, h.cache.made, h.settled, h.report, by rw [h.world], fun _ _ => by rw [h.world]⟩

lemma record_of_digest (listed : String → Report → Report) (hr : p.rules.find? t = some rule)
    (hd : Outlook.digestOf (p.surroundings.sources p.root r.world) rule = .ok d) :
    p.Recorded t d r (p.record listed r t) ∧ (p.record listed r t).report = listed t r.report := by
  obtain ⟨hres, hc, hw⟩ := Surroundings.record_of_digest (c := r.cache) hr hd
  unfold record
  dsimp only
  rw [hres]
  refine ⟨⟨hc, hw, rfl, rfl, ?_⟩, rfl⟩
  exact (Run.jobs_tell _ _).trans ((List.append_nil _).trans (Run.jobs_notice _ _))

namespace Progress

lemma trusted_iff (h : p.Progress id w goal done r) (ht : p.rules.Reaches goal t)
    (hm : t ∉ r.cache.made) : (p.view r).Trusted t ↔ (p.start id w).Trusted t := by
  refine Outlook.trusted_congr rfl rfl ?_ fun hk => h.sight t ⟨ht, hk⟩
  change p.surroundings.load r.world r.cache.buildId t = p.surroundings.load w id t
  rw [h.buildId]
  exact h.loads id t fun _ => hm

lemma stale_iff (h : p.Progress id w goal done r) (hf : p.options.force = false)
    (ht : p.rules.Reaches goal t) (hm : t ∉ r.cache.made) :
    (p.view r).Stale t ↔ (p.start id w).Stale t := by
  -- What has been made meanwhile was stale anyway.
  have hmade : ∀ u ∈ r.cache.made, (p.start id w).Stale u := fun u hu =>
    ((h.made u).mp hu).2.resolve_left (by simp [hf])
  have hlift : ∀ u, p.rules.Reaches t u → (p.start id w).Stale u → (p.start id w).Stale t := by
    rintro u hu ⟨_, x, hx, hd⟩
    exact ⟨by simp [start, Surroundings.outlook], x, hu.trans hx, hd⟩
  constructor
  · rintro ⟨_, u, hu, hd⟩
    by_cases hum : u ∈ r.cache.made
    · exact hlift u hu (hmade u hum)
    · have hd' := hd.resolve_left hum
      rw [h.trusted_iff (ht.trans hu) hum] at hd'
      exact hlift u hu (Outlook.stale_of_not_trusted (by simp [start, Surroundings.outlook]) hd')
  · rintro ⟨hm₀, u, hu, hd⟩
    have hd' := hd.resolve_left (by simp [start, Surroundings.outlook])
    refine ⟨hm, u, hu, ?_⟩
    by_cases hum : u ∈ r.cache.made
    · exact .inl hum
    · exact .inr ((h.trusted_iff (ht.trans hu) hum).not.mpr hd')

lemma not_stale_of_handled (h : p.Progress id w goal done r) (ht : p.rules.Reaches goal t)
    (hd : t ∈ handled done) (hm : t ∉ r.cache.made) :
    p.options.force = false ∧ ¬ (p.view r).Stale t := by
  have hn : ¬ p.Due id w t := fun hdue => hm ((h.made t).mpr ⟨hd, hdue⟩)
  rw [Due, not_or, Bool.not_eq_true] at hn
  exact ⟨hn.1, (h.stale_iff hn.1 ht hm).not.mpr hn.2⟩

lemma due_iff (h : p.Progress id w goal done r) (ht : p.rules.Reaches goal t)
    (hm : t ∉ r.cache.made) :
    (p.options.force = true ∨ (p.view r).Stale t) ↔ p.Due id w t := by
  rw [Due]
  cases hf : p.options.force with
  | true => simp
  | false => simp [h.stale_iff hf ht hm]

lemma skip (h : p.Progress id w goal done r) (hs : p.Stands id w e.1 .upToDate)
    (he : e.2 = .upToDate) (hr : p.Asked r r') :
    p.Progress id w goal (done ++ [e]) (r'.skip e.1.target) := by
  have hnot : ¬ p.Due id w e.1.target := by
    rw [Due, ← hs.due_iff (by simp)]
    simp [Standing.due]
  have hview : p.view (r'.skip e.1.target) = p.view r := hr.view_eq
  have hjobs : (r'.skip e.1.target).jobs = r.jobs := by
    rw [← hr.jobs]
    exact (Run.jobs_tell _ _).trans (List.append_nil _)
  refine ⟨forall_mem_snoc h.stands (he ▸ hs), forall_mem_snoc h.present (by simp [he]),
    hr.failure.trans h.going, hr.cache.buildId.trans h.buildId, ?_, ?_, hview ▸ hr.cache.right,
    ?_, ?_, ?_, ?_, ?_, ?_, ?_⟩
  · intro t
    change t ∈ e.1.target :: r'.settled ↔ _
    rw [hr.settled, List.mem_cons, h.settled, mem_handled_snoc]
  · intro t
    change t ∈ r'.cache.made ↔ _
    rw [hr.cache.made, h.made, mem_handled_snoc]
    constructor
    · exact And.imp_left .inr
    · rintro ⟨rfl | ht, hd⟩
      · exact (hnot hd).elim
      · exact ⟨ht, hd⟩
  · intro t ht
    change (p.surroundings.sources p.root r'.world).sight t = _
    rw [hr.world, h.sight t ht]
  · intro id' t ht
    change p.surroundings.load r'.world id' t = _
    rw [hr.world]
    exact h.loads id' t (hr.cache.made ▸ ht)
  · intro hl t ht
    change ∃ d, _ ∧ p.surroundings.load r'.world id t = _
    rw [hr.world]
    exact h.saved hl t (hr.cache.made ▸ ht)
  · change { r'.report with skipped := r'.report.skipped ++ [e.1.target] } = _
    rw [hr.report, h.report, Report.foretold_skipped he]
  · rw [hjobs, h.jobs, ← hr.report]
    rfl
  · rw [hjobs]
    exact h.performed
  · exact fun hm => hr.world.trans (h.idle (hr.cache.made ▸ hm))

lemma record (h : p.Progress id w goal done r) (hsep : p.surroundings.Separate)
    (hs : p.Stands id w e.1 e.2) (he : e.2.due = true)
    (hf : p.rules.find? e.1.target = some e.1) (hr : p.Near goal r r')
    (hd : Outlook.digestOf (p.surroundings.sources p.root w) e.1 = .ok d) {r'' : Run W}
    (hrec : p.Recorded e.1.target d r' r'') (hgo : r'.failure = none)
    (hrep : r''.report = Report.foretold (done ++ [e]))
    (hjobs : r''.jobs.map (·.target) = r''.report.executed)
    (hperf : ∀ j ∈ r'.jobs, p.Performs goal j) :
    p.Progress id w goal (done ++ [e]) r'' := by
  have hpresent : e.2 ≠ .missing := by
    intro hm
    simp [hm, Standing.due] at he
  have hmade : ∀ t, t ∈ r''.cache.made ↔ t = e.1.target ∨ t ∈ r.cache.made := fun t => by
    rw [hrec.cache, Cache.mem_noteMade, hr.made]
  have hload : ∀ id' t, (id', t) ≠ (id, e.1.target) →
      p.surroundings.load r''.world id' t = p.surroundings.load r.world id' t := by
    intro id' t hne
    rw [hrec.world, hr.buildId, h.buildId, hsep.load_save _ _ _ _ _ _ hne, hr.loads]
  refine ⟨forall_mem_snoc h.stands hs, forall_mem_snoc h.present hpresent,
    hrec.failure.trans hgo, ?_, ?_, ?_, ?_, ?_, ?_, ?_, hrep, hjobs, hrec.jobs ▸ hperf, ?_⟩
  · rw [hrec.cache]
    exact hr.buildId.trans h.buildId
  · intro t
    rw [hrec.settled, hr.settled, List.mem_cons, h.settled, mem_handled_snoc]
  · intro t
    rw [hmade, h.made, mem_handled_snoc]
    constructor
    · rintro (rfl | ⟨ht, hd⟩)
      · exact ⟨.inl rfl, (hs.due_iff hpresent).mp he⟩
      · exact ⟨.inr ht, hd⟩
    · rintro ⟨rfl | ht, hd⟩
      · exact .inl rfl
      · exact .inr ⟨ht, hd⟩
  · intro t ht
    rw [hrec.cache] at ht
    cases ht
  · intro t ht
    rw [hrec.world, hsep.sources_save, hr.sight t ht, h.sight t ht]
  · intro id' t ht
    have hne : (id', t) ≠ (id, e.1.target) := by
      intro heq
      rw [Prod.mk.injEq] at heq
      exact ht heq.1 ((hmade t).mpr (.inl heq.2))
    rw [hload id' t hne]
    exact h.loads id' t fun hid hm => ht hid ((hmade t).mpr (.inr hm))
  · intro hl t ht
    by_cases hte : t = e.1.target
    · subst hte
      refine ⟨d, ?_, ?_⟩
      · rwa [RuleStore.ruleFor_of_find? hf]
      · rw [hrec.world, hr.buildId, h.buildId]
        exact hl.load_saved _ _ _ _
    · obtain ⟨d', hd', hl'⟩ := h.saved hl t (((hmade t).mp ht).resolve_left hte)
      refine ⟨d', hd', ?_⟩
      rw [hload id t fun heq => hte (congrArg Prod.snd heq), hl']
  · intro hm
    have := (hmade e.1.target).mpr (.inl rfl)
    rw [hm] at this
    cases this

lemma due_of_handled (h : p.Progress id w goal done r) :
    (∃ e ∈ done, e.2.due = true ∧ e.1.target = t) ↔ t ∈ handled done ∧ p.Due id w t := by
  constructor
  · rintro ⟨e, he, hd, rfl⟩
    exact ⟨List.mem_map_of_mem (List.mem_map_of_mem he),
      ((h.stands e he).due_iff (h.present e he)).mp hd⟩
  · rintro ⟨ht, hd⟩
    obtain ⟨_, hr, rfl⟩ := List.mem_map.mp ht
    obtain ⟨e, he, rfl⟩ := List.mem_map.mp hr
    exact ⟨e, he, ((h.stands e he).due_iff (h.present e he)).mpr hd, rfl⟩

lemma report_made (h : p.Progress id w goal done r) :
    t ∈ r.report.executed ∨ t ∈ r.report.refreshed ∨ t ∈ r.report.grouped ↔
      t ∈ handled done ∧ p.Due id w t := by
  rw [← h.due_of_handled, h.report]
  simp only [Report.foretold, Report.mem_entered, ← exists_or, ← and_or_left, ← or_and_right]
  refine exists_congr fun e => and_congr_right fun _ => and_congr_left fun _ => ?_
  cases e.1.kind <;> cases e.1.recipe <;> simp

lemma jobs_eq_nil (h : p.Progress id w goal done r) (hm : r.cache.made = []) : r.jobs = [] := by
  refine List.map_eq_nil_iff.mp (h.jobs.trans (List.eq_nil_iff_forall_not_mem.mpr ?_))
  intro t ht
  have hmade := (h.made t).mpr (h.report_made.mp (.inl ht))
  rw [hm] at hmade
  cases hmade

lemma report_executed (h : p.Progress id w goal done r)
    (hf : ∀ e ∈ done, p.rules.ruleFor e.1.target = e.1) :
    t ∈ r.report.executed ↔ (t ∈ handled done ∧ p.Due id w t) ∧
      (p.rules.ruleFor t).kind = .explicit ∧ (p.rules.ruleFor t).recipe.isSome = true := by
  rw [← h.due_of_handled, h.report]
  simp only [Report.foretold, Report.mem_entered, Bool.and_eq_true, decide_eq_true_eq]
  constructor
  · rintro ⟨e, he, ⟨⟨hd, hk⟩, hr⟩, rfl⟩
    rw [hf e he]
    exact ⟨⟨e, he, hd, rfl⟩, hk, hr⟩
  · rintro ⟨⟨e, he, hd, rfl⟩, hk, hr⟩
    rw [hf e he] at hk hr
    exact ⟨e, he, ⟨⟨hd, hk⟩, hr⟩, rfl⟩

lemma report_skipped (h : p.Progress id w goal done r) :
    t ∈ r.report.skipped ↔ t ∈ handled done ∧ ¬ p.Due id w t := by
  rw [h.report]
  simp only [Report.foretold, Report.mem_entered, decide_eq_true_eq]
  constructor
  · rintro ⟨e, he, hu, rfl⟩
    refine ⟨List.mem_map_of_mem (List.mem_map_of_mem he), ?_⟩
    rw [Due, ← (h.stands e he).due_iff (h.present e he), hu]
    simp [Standing.due]
  · rintro ⟨ht, hd⟩
    obtain ⟨_, hr, rfl⟩ := List.mem_map.mp ht
    obtain ⟨e, he, rfl⟩ := List.mem_map.mp hr
    rw [Due, ← (h.stands e he).due_iff (h.present e he)] at hd
    exact ⟨e, he, Standing.eq_upToDate (h.present e he) hd, rfl⟩

lemma stored (h : p.Progress id w goal done r) (hl : p.surroundings.Lawful)
    (ht : t ∈ handled done) :
    ∃ d, Outlook.digestOf (p.surroundings.sources p.root w) (p.rules.ruleFor t) = .ok d ∧
      p.surroundings.load r.world id t = .ok (some d.hex) := by
  by_cases hm : t ∈ r.cache.made
  · exact h.saved hl t hm
  · have hn : ¬ (p.start id w).Stale t := fun hs => hm ((h.made t).mpr ⟨ht, .inr hs⟩)
    obtain ⟨rule, hf, _, d, hd, hs⟩ :=
      not_not.mp fun hn' => hn (Outlook.stale_of_not_trusted (List.not_mem_nil) hn')
    refine ⟨d, RuleStore.ruleFor_of_find? hf ▸ hd, ?_⟩
    rw [h.loads id t fun _ => hm]
    exact hs

end Progress

end Plan
end Freshen
