import Freshen.Proofs.Deeds
import Freshen.Proofs.Foresight

/-! Two invocations of one goal in succession. The second makes what has changed since the first and
what depends on it, and nothing else. -/

namespace Freshen

open Bench

variable {W : Type} {b : Workplace W} {i i' : Invocation W} {t x : String}

def RuleStore.Reworded (s s' : RuleStore) : Prop :=
  ∀ t, (s'.ruleFor t).kind = (s.ruleFor t).kind ∧ (s'.ruleFor t).deps = (s.ruleFor t).deps

namespace RuleStore.Reworded

variable {s s' : RuleStore} {a c goal : String}

lemma refl (s : RuleStore) : s.Reworded s := fun _ => ⟨rfl, rfl⟩

lemma reaches_iff (h : s.Reworded s') : s'.Reaches a c ↔ s.Reaches a c :=
  reaches_congr fun t => (h t).2

lemma sourceOf_iff (h : s.Reworded s') : s'.SourceOf goal a ↔ s.SourceOf goal a := by
  rw [SourceOf, SourceOf, h.reaches_iff, (h a).1]

lemma acyclic (h : s.Reworded s') (ha : s.Acyclic goal) : s'.Acyclic goal := by
  intro a c hg hs hc
  refine ha (h.reaches_iff.mp hg) ?_ (h.reaches_iff.mp hc)
  rwa [Step, ← (h a).2]

end RuleStore.Reworded

lemma RuleStore.reworded_setAlwaysStale (s : RuleStore) (t : String) (always : Bool) :
    s.Reworded (s.setAlwaysStale t always).2 := by
  intro u
  unfold setAlwaysStale
  cases hf : s.find? t with
  | none => exact ⟨rfl, rfl⟩
  | some r =>
    dsimp only
    by_cases hu : r.target = u
    · rw [ruleFor, find?_put, if_pos hu, ← hu, target_of_find? hf, ruleFor_of_find? hf]
      exact ⟨rfl, rfl⟩
    · rw [ruleFor, find?_put, if_neg hu]
      exact ⟨rfl, rfl⟩

namespace Workplace

/-- The same goal is invoked again, by rules of the same shape and on the digests as they were
left. -/
structure Again (b : Workplace W) (i i' : Invocation W) : Prop where
  goal : i'.goal = i.goal
  rules : i.rules.Reworded i'.rules
  stored : ∀ t, b.stored i'.world t = b.stored (b.run i).world t

def Changed (b : Workplace W) (i i' : Invocation W) (x : String) : Prop :=
  (i'.rules.ruleFor x).alwaysStale = true ∨
    b.digest i'.rules i'.world x ≠ b.digest i.rules (b.run i).world x

namespace Again

lemma reaches_iff (ha : b.Again i i') : i'.rules.Reaches t x ↔ i.rules.Reaches t x :=
  ha.rules.reaches_iff

lemma sourceOf_iff (ha : b.Again i i') :
    i'.rules.SourceOf i'.goal t ↔ i.rules.SourceOf i.goal t := by
  rw [ha.goal, ha.rules.sourceOf_iff]

lemma accepts (ha : b.Again i i') (h : b.Accepts i)
    (hsrc : i.rules.SourceOf i.goal i.goal → (b.sources i'.world).fileExists i.goal = true) :
    b.Accepts i' := by
  refine accepts_of_acyclic (ha.goal ▸ ha.rules.acyclic (acyclic h)) ?_
  rw [ha.goal]
  cases hf : i'.rules.find? i.goal with
  | some r => exact .inl rfl
  | none =>
    refine .inr (hsrc ⟨.refl _, ?_⟩)
    rw [← (ha.rules i.goal).1, RuleStore.ruleFor, hf]
    rfl

lemma trusted_iff (ha : b.Again i i') (h : b.Accepts i) (h' : b.Accepts i')
    (hl : b.surroundings.Lawful) (hspare : b.Spares i) (hok : (b.run i).failure = none)
    (hx : i.rules.Reaches i.goal x) :
    ((b.plan i').start b.buildId i'.world).Trusted x ↔ ¬ b.Changed i i' x := by
  have hp := completed h hl.toSeparate hspare hok
  obtain ⟨d, hd, hs⟩ := stored_of_handled hp hl ((handled_forecast h).mpr hx)
  rw [Workplace.trusted_iff h' (ha.goal ▸ ha.reaches_iff.mpr hx), Changed, not_or,
    Bool.not_eq_true, not_not, ha.stored, hs, digest_of_progress hp hx, hd]
  refine and_congr_right fun _ => ⟨?_, fun hd' => ⟨d, hd', rfl⟩⟩
  rintro ⟨d', hd', he⟩
  rw [hd', Digest.hex_injective (Option.some.inj (Except.ok.inj he))]

end Again

/-- After a successful run the next one makes what has changed and what reaches it. Neither is
anything left out nor is anything made in vain. -/
theorem second_run_exact (h : b.Accepts i) (hl : b.surroundings.Lawful) (hspare : b.Spares i)
    (hok : (b.run i).failure = none) (ha : b.Again i i')
    (hsrc : ∀ t, i.rules.SourceOf i.goal t → (b.sources i'.world).fileExists t = true ∧
      (b.sources i'.world).Readable t)
    (hforce : i'.options.force = false) (hspare' : b.Spares i')
    (hrec : (b.run i').RecipesSucceed) :
    b.Accepts i' ∧ ∃ rep, (b.run i').result = .ok rep ∧
      (∀ t, t ∈ rep.executed ∨ t ∈ rep.refreshed ∨ t ∈ rep.grouped ↔
        i.rules.Reaches i.goal t ∧ ∃ x, i.rules.Reaches t x ∧ b.Changed i i' x) ∧
      (∀ t, t ∈ rep.skipped ↔
        i.rules.Reaches i.goal t ∧ ¬ ∃ x, i.rules.Reaches t x ∧ b.Changed i i' x) ∧
      (∀ t, t ∈ rep.executed ↔
        (i.rules.Reaches i.goal t ∧ ∃ x, i.rules.Reaches t x ∧ b.Changed i i' x) ∧
          (i'.rules.ruleFor t).kind = .explicit ∧ (i'.rules.ruleFor t).recipe.isSome = true) ∧
      (b.run i').jobs.map (·.target) = rep.executed ∧
      (∀ j ∈ (b.run i').jobs, (i'.rules.ruleFor j.target).recipe = some j.recipe) ∧
      (∀ t, t ∈ rep.executed ↔
        (b.plan i').Succeeds b.buildId i'.world (b.run i').trace t) ∧
      (b.run i').world = b.replay i' (b.run i').trace ∧
      ((∀ x, i.rules.Reaches i.goal x → ¬ b.Changed i i' x) →
        (b.run i').jobs = [] ∧ (b.run i').cache.made = [] ∧ (b.run i').world = i'.world) := by
  have h' := ha.accepts h fun hs => (hsrc _ hs).1
  have hp := completed_of_sources h' hl.toSeparate hspare'
    (fun t ht => hsrc t (ha.sourceOf_iff.mp ht)) hrec
  have htold := told h'
  have hreach : ∀ t, t ∈ Plan.handled (b.forecast i').standings ↔ i.rules.Reaches i.goal t :=
    fun t => by rw [handled_forecast h', ha.goal, ha.reaches_iff]
  have hdue : ∀ t, i.rules.Reaches i.goal t → ((b.plan i').Due b.buildId i'.world t ↔
      ∃ x, i.rules.Reaches t x ∧ b.Changed i i' x) := by
    intro t ht
    rw [due_iff hforce]
    refine exists_congr fun x => ?_
    rw [ha.reaches_iff]
    refine and_congr_right fun hx => ?_
    rw [ha.trusted_iff h h' hl hspare hok (ht.trans hx), not_not]
  refine ⟨h', (b.run i').report, by rw [Run.result, hp.going], fun t => ?_, fun t => ?_,
    fun t => ?_, hp.jobs, fun j hj => ?_, fun t => ?_, htold.world, ?_⟩
  · rw [hp.report_made, hreach]
    exact and_congr_right (hdue t)
  · rw [hp.report_skipped, hreach]
    exact and_congr_right fun ht => (hdue t ht).not
  · rw [mem_executed h' hp, ha.goal, ha.reaches_iff]
    exact and_congr_left fun _ => and_congr_right (hdue t)
  · rw [← plan_ruleFor b]
    exact (hp.performed j hj).1.2
  · rw [htold.executed, or_iff_left List.not_mem_nil]
  · intro hsame
    have hnone : (b.run i').cache.made = [] := by
      refine List.eq_nil_iff_forall_not_mem.mpr fun t hm => ?_
      obtain ⟨ht, hd⟩ := (hp.made t).mp hm
      obtain ⟨x, hx, hc⟩ := (hdue t ((hreach t).mp ht)).mp hd
      exact hsame x (((hreach t).mp ht).trans hx) hc
    exact ⟨hp.jobs_eq_nil hnone, hnone, hp.idle hnone⟩

end Workplace

def Bench.marked : Invocation Bench :=
  ⟨(programs.setAlwaysStale "app" true).2, "app", {}, play succeed,
    source "int" (workplace.run (invoke "app" {} succeed (source "int" []))).world.entries⟩

namespace Workplace

theorem second_run_exact_marked : ∃ rep, (workplace.run marked).result = .ok rep ∧
    "main.c" ∈ rep.skipped ∧ "app" ∈ rep.executed ∧
    (workplace.run marked).jobs.map (·.target) = rep.executed ∧
    (workplace.plan marked).Succeeds workplace.buildId marked.world
      (workplace.run marked).trace "app" := by
  let i := invoke "app" {} succeed (source "int" [])
  have hi : workplace.Accepts i := accepts (.inl rfl)
  have hp : (workplace.plan i).Progress workplace.buildId i.world i.goal
      (workplace.forecast i).standings (workplace.run i) := Bench.completed (.inl rfl)
  have ha : workplace.Again i marked :=
    ⟨rfl, RuleStore.reworded_setAlwaysStale _ _ _, fun _ => rfl⟩
  have hsrc : ∀ t, i.rules.SourceOf i.goal t →
      (workplace.sources marked.world).fileExists t = true ∧
        (workplace.sources marked.world).Readable t := fun _ => sources_there (.inl rfl)
  have hrec : (workplace.run marked).RecipesSucceed :=
    recipesSucceed_of_success (ha.accepts hi fun hs => (hsrc _ hs).1) Bench.lawful.toSeparate
      (spares rfl) fun _ _ => rfl
  obtain ⟨_, rep, hrep, _, hskip, hexec, hjobs, _, hsucceeds, _⟩ := second_run_exact hi Bench.lawful
    (spares rfl) hp.going ha hsrc rfl (spares rfl) hrec
  have hmain : programs.Reaches "app" "main.c" := (reaches_iff (.inl rfl)).mpr (.inl rfl)
  have happ : "app" ∈ rep.executed :=
    (hexec _).mpr ⟨⟨.refl _, "app", .refl _, .inl rfl⟩, rfl, rfl⟩
  refine ⟨rep, hrep, (hskip _).mpr ⟨hmain, ?_⟩, happ, hjobs, (hsucceeds _).mp happ⟩
  rintro ⟨x, hx, hc⟩
  obtain rfl := eq_of_reaches_main hx
  rcases hc with hc | hc
  · cases hc
  · refine hc (digest_congr rfl (fun _ => rfl) fun hk => ?_)
    exact (hp.sight _ (plan_sourceOf.mpr ⟨hmain, hk⟩)).symm

end Workplace
end Freshen
