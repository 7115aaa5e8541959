import Freshen.Proofs.Successive

/-! What becomes of a target whose recipe has failed. Its dependencies have been recorded by then,
so only what its own entry says and marks of being always stale bring it up again. -/

namespace Freshen

open Bench

variable {W : Type} {b : Workplace W} {i i' : Invocation W} {t x : String}
  {done rest : List (Rule × Standing)} {e : Rule × Standing} {r : Run W} {code : Int}

namespace Workplace

/-- What the next run still has to go by for a target that has failed. -/
def Remembered (b : Workplace W) (i : Invocation W) (t : String) : Prop :=
  (∃ x, i.rules.Reaches t x ∧ (i.rules.ruleFor x).alwaysStale = true) ∨
    b.stored i.world t ≠ .ok (some (fingerprintText ((i.rules.ruleFor t).recipe.getD "")).hex)

structure FailsAt (b : Workplace W) (i : Invocation W) (t : String)
    (done : List (Rule × Standing)) (e : Rule × Standing) (rest : List (Rule × Standing))
    (r : Run W) : Prop where
  standings : (b.forecast i).standings = done ++ e :: rest
  progress : (b.plan i).Progress b.buildId i.world i.goal done r
  target : e.1.target = t
  kind : e.1.kind = .explicit
  recipe : e.1.recipe.isSome = true
  stored : ∀ u, b.stored (b.run i).world u = b.stored r.world u
  sight : ∀ u, i.rules.SourceOf i.goal u →
    (b.sources (b.run i).world).sight u = (b.sources i.world).sight u

lemma failsAt_of_failure (h : b.Accepts i) (hsep : b.surroundings.Separate) (hspare : b.Spares i)
    (hfail : (b.run i).failure = some (.recipeFailed t code)) :
    ∃ done e rest r, b.FailsAt i t done e rest r := by
  rcases course h hsep hspare with hp | ⟨done, e, rest, r, err, hL, hp, hh⟩
  · rw [hp.going] at hfail
    cases hfail
  · obtain rfl := Option.some.inj (hfail.symm.trans hh.failure)
    have he : e.1 ∈ b.order i := standing_mem h (by simp [hL])
    refine ⟨done, e, rest, r, ?_⟩
    cases hh.cause with
    | failed j w' hdue hk hj hjt ho =>
      refine ⟨hL, hp, rfl, hk, ?_, fun u => ?_, fun u hu => ?_⟩
      · rw [← (ordered h).ruleFor_eq he, ← hjt, hj.2]
        rfl
      · exact congrFun (congrFun hh.loads b.buildId) u
      · exact (hh.sight u (plan_sourceOf.mpr hu)).trans (hp.sight u (plan_sourceOf.mpr hu))

namespace FailsAt

variable (hf : b.FailsAt i t done e rest r) (h : b.Accepts i)
include hf h

lemma order_eq : b.order i = done.map (·.1) ++ e.1 :: rest.map (·.1) := by
  rw [← (foreseen h).rules_eq, hf.standings, List.map_append, List.map_cons]

lemma rule_eq : i.rules.ruleFor t = e.1 := by
  have he : e.1 ∈ b.order i := by simp [hf.order_eq h]
  rw [← plan_ruleFor b, ← hf.target, (ordered h).ruleFor_eq he]

lemma reached : i.rules.Reaches i.goal t := by
  rw [← mem_order h, ← hf.target]
  exact List.mem_map_of_mem (by simp [hf.order_eq h])

lemma new : t ∉ Plan.handled done :=
  hf.target ▸ (Plan.next_of_ordered (ordered h) (hf.order_eq h)).new

lemma below (hx : i.rules.Reaches t x) : x = t ∨ x ∈ Plan.handled done := by
  cases hx with
  | refl => exact .inl rfl
  | @step _ u _ hs hr =>
    have hd := (Plan.next_of_ordered (ordered h) (hf.order_eq h)).deps u
      (by rwa [← hf.rule_eq h])
    exact .inr ((hf.order_eq h ▸ ordered h).closed_left hd (plan_reaches.mpr hr))

lemma goal_known : (i.rules.find? i.goal).isSome :=
  goal_known_of_explicit (hf.reached h) (hf.rule_eq h ▸ hf.kind)

variable (ha : b.Again i i') (hrules : i'.rules = i.rules)
include ha hrules

lemma accepts : b.Accepts i' := by
  refine accepts_of_acyclic (ha.goal ▸ ha.rules.acyclic (acyclic h)) (.inl ?_)
  rw [hrules, ha.goal]
  exact hf.goal_known h

variable (hl : b.surroundings.Lawful)
  (hsame : ∀ u, i.rules.SourceOf i.goal u →
    (b.sources i'.world).sight u = (b.sources (b.run i).world).sight u)
include hl hsame

lemma digest_stored (hx : x ∈ Plan.handled done) : ∃ d,
    b.digest i'.rules i'.world x = .ok d ∧ b.stored i'.world x = .ok (some d.hex) := by
  obtain ⟨d, hd, hs⟩ := stored_of_handled hf.progress hl hx
  have hreach : i.rules.Reaches i.goal x := by
    rw [← mem_order h, hf.order_eq h, targets, List.map_append]
    exact List.mem_append_left _ hx
  refine ⟨d, ?_, by rw [ha.stored, hf.stored, hs]⟩
  rw [hrules, ← hd]
  exact digest_congr rfl (fun _ => rfl) fun hk =>
    (hsame x ⟨hreach, hk⟩).trans (hf.sight x ⟨hreach, hk⟩)

lemma due_iff_remembered (hforce : i'.options.force = false) :
    (b.plan i').Due b.buildId i'.world t ↔ b.Remembered i t := by
  have h' := hf.accepts h ha hrules
  have ht := hf.reached h
  have htrust : ∀ x, i.rules.Reaches t x → x ∈ Plan.handled done →
      (¬ ((b.plan i').start b.buildId i'.world).Trusted x ↔
        (i.rules.ruleFor x).alwaysStale = true) := by
    intro x hx hd
    obtain ⟨d, hd', hs⟩ := hf.digest_stored h ha hrules hl hsame hd
    rw [Workplace.trusted_iff h' (ha.goal ▸ ha.reaches_iff.mpr (ht.trans hx)), hrules,
      not_and_or, Bool.not_eq_false, or_iff_left]
    exact not_not.mpr ⟨d, hrules ▸ hd', hs⟩
  have hown : ¬ ((b.plan i').start b.buildId i'.world).Trusted t ↔
      (i.rules.ruleFor t).alwaysStale = true ∨ b.stored i.world t ≠
        .ok (some (fingerprintText ((i.rules.ruleFor t).recipe.getD "")).hex) := by
    rw [Workplace.trusted_iff h' (ha.goal ▸ ha.reaches_iff.mpr ht), hrules, not_and_or,
      Bool.not_eq_false]
    refine or_congr_right (not_congr ?_)
    rw [ha.stored, hf.stored, stored_of_not_handled hf.progress (hf.new h), digest,
      Outlook.digestOf_explicit _ (hf.rule_eq h ▸ hf.kind)]
    simp
  rw [Workplace.due_iff hforce, hrules, Remembered]
  constructor
  · rintro ⟨x, hx, hn⟩
    rcases hf.below h hx with rfl | hd
    · exact (hown.mp hn).imp (fun hal => ⟨x, hx, hal⟩) id
    · exact .inl ⟨x, hx, (htrust x hx hd).mp hn⟩
  · rintro (⟨x, hx, hal⟩ | hs)
    · rcases hf.below h hx with rfl | hd
      · exact ⟨x, hx, hown.mpr (.inl hal)⟩
      · exact ⟨x, hx, (htrust x hx hd).mpr hal⟩
    · exact ⟨t, .refl t, hown.mpr (.inr hs)⟩

lemma source_sound (hx : x ∈ Plan.handled done ∨ x = t) (hs : i'.rules.SourceOf i'.goal x) :
    (b.sources i'.world).fileExists x = true ∧ (b.sources i'.world).Readable x := by
  have hs' : i.rules.SourceOf i.goal x := by rwa [hrules, ha.goal] at hs
  rcases hx with hx | rfl
  · refine ⟨?_, ?_⟩
    · obtain ⟨_, hr, rfl⟩ := List.mem_map.mp hx
      obtain ⟨q, hq, rfl⟩ := List.mem_map.mp hr
      have hmem : q.1 ∈ b.order i := standing_mem h (by simp [hf.standings, hq])
      have hk : q.1.kind = .filename := by
        rw [← (ordered h).ruleFor_eq hmem, plan_ruleFor]
        exact hs'.2
      rw [Sources.fileExists_congr ((hsame _ hs').trans (hf.sight _ hs'))]
      exact (hf.progress.stands q hq).present (hf.progress.present q hq) hk
    · obtain ⟨d, hd, _⟩ := hf.digest_stored h ha hrules hl hsame hx
      rw [digest, Outlook.digestOf, hs.2, RuleStore.ruleFor_target] at hd
      exact ⟨d, hd⟩
  · have hk := hf.kind
    rw [← hf.rule_eq h, hs'.2] at hk
    cases hk

lemma comes_up (hspare' : b.Spares i') (hrec : (b.run i').RecipesSucceed) :
    ∃ done' r', (b.plan i').Progress b.buildId i'.world i'.goal done' r' ∧
      (∀ q ∈ done', (b.plan i').rules.ruleFor q.1.target = q.1) ∧ t ∈ Plan.handled done' ∧
      (b.run i').report = r'.report ∧ (b.run i').jobs = r'.jobs := by
  have h' := hf.accepts h ha hrules
  have hrule : ∀ q ∈ (b.forecast i').standings, (b.plan i').rules.ruleFor q.1.target = q.1 :=
    fun q hq => standing_ruleFor h' hq
  have horder := order_congr hrules ha.goal h h'
  rcases course h' hl.toSeparate hspare' with hp | ⟨done', e', rest', r', err, hL, hp, hh⟩
  · refine ⟨_, _, hp, hrule, ?_, rfl, rfl⟩
    rw [handled_forecast h', ha.goal, ha.reaches_iff]
    exact hf.reached h
  have he' : e' ∈ (b.forecast i').standings := by simp [hL]
  refine ⟨done', r', hp, fun q hq => hrule q (by simp [hL, hq]), ?_, hh.report,
    hh.jobs (hrec _ hh.failure)⟩
  have hlate : e'.1 ∉ done.map (·.1) ++ [e.1] := by
    intro hm
    have hx : e'.1.target ∈ Plan.handled done ∨ e'.1.target = t := by
      rcases List.mem_append.mp hm with hm | hm
      · exact .inl (List.mem_map_of_mem hm)
      · exact .inr (List.mem_singleton.mp hm ▸ hf.target)
    have hsound := hf.source_sound h ha hrules hl hsame hx
    have herr := hrec _ hh.failure
    cases hh.cause with
    | missing hm => exact standing_not_missing h' he' (fun hs => (hsound hs).1) hm
    | undigestible hdue hd =>
      obtain ⟨hs, _, hn⟩ := source_of_undigestible h' he' hdue hd
      exact hn (hsound hs).2
    | failed _ _ _ _ _ _ _ | notStarted _ _ _ _ => cases herr
  have he : (done.map (·.1) ++ [e.1]) ++ rest.map (·.1) =
      done'.map (·.1) ++ e'.1 :: rest'.map (·.1) := by
    rw [List.append_assoc, List.singleton_append, ← hf.order_eq h, ← horder,
      ← (foreseen h').rules_eq, hL, List.map_append, List.map_cons]
  have hmem : e.1 ∈ done'.map (·.1) := by
    rcases List.append_eq_append_iff.mp he with ⟨l, hl, _⟩ | ⟨l, hl, hr⟩
    · simp [hl]
    · cases l with
      | nil =>
        rw [List.append_nil] at hl
        simp [← hl]
      | cons a l =>
        obtain ⟨rfl, _⟩ := List.cons.inj hr
        exact (hlate (by simp [hl])).elim
  exact hf.target ▸ List.mem_map_of_mem hmem

lemma made_again_iff (hforce : i'.options.force = false) (hspare' : b.Spares i')
    (hrec : (b.run i').RecipesSucceed) :
    ((∃ j ∈ (b.run i').jobs, j.target = t) ↔ b.Remembered i t) ∧
      (t ∈ (b.run i').report.skipped ↔ ¬ b.Remembered i t) := by
  obtain ⟨done', r', hp, hrule, ht, hrep, hjobs⟩ :=
    hf.comes_up h ha hrules hl hsame hspare' hrec
  have hdue := hf.due_iff_remembered h ha hrules hl hsame hforce
  have hk : ((b.plan i').rules.ruleFor t).kind = .explicit := by
    rw [plan_ruleFor, hrules, hf.rule_eq h, hf.kind]
  have hr : ((b.plan i').rules.ruleFor t).recipe.isSome = true := by
    rw [plan_ruleFor, hrules, hf.rule_eq h, hf.recipe]
  constructor
  · rw [hjobs, ← List.mem_map (f := Job.target), hp.jobs, hp.report_executed hrule, ← hdue]
    exact ⟨fun hx => hx.1.2, fun hx => ⟨⟨ht, hx⟩, hk, hr⟩⟩
  · rw [hrep, hp.report_skipped, hdue]
    exact and_iff_right ht

end FailsAt

/-- A target that has failed is made again just if the next run still has something to go by. Its
dependencies were recorded before it failed, so that they have changed is forgotten. -/
theorem retried_iff (h : b.Accepts i) (hl : b.surroundings.Lawful) (hspare : b.Spares i)
    (hfail : (b.run i).failure = some (.recipeFailed t code)) (ha : b.Again i i')
    (hrules : i'.rules = i.rules)
    (hsame : ∀ u, i.rules.SourceOf i.goal u →
      (b.sources i'.world).sight u = (b.sources (b.run i).world).sight u)
    (hforce : i'.options.force = false) (hspare' : b.Spares i')
    (hrec : (b.run i').RecipesSucceed) :
    b.Accepts i' ∧ ((∃ j ∈ (b.run i').jobs, j.target = t) ↔ b.Remembered i t) ∧
      (t ∈ (b.run i').report.skipped ↔ ¬ b.Remembered i t) := by
  obtain ⟨done, e, rest, r, hf⟩ := failsAt_of_failure h hl.toSeparate hspare hfail
  exact ⟨hf.accepts h ha hrules, hf.made_again_iff h ha hrules hl hsame hforce hspare' hrec⟩

end Workplace

namespace Workplace

theorem retried_of_unknown :
    ∃ j ∈ (workplace.run (invoke "app" {} succeed
      (workplace.run (invoke "app" {} fail (source "int" []))).world)).jobs, j.target = "app" := by
  let i := invoke "app" {} fail (source "int" [])
  let i' := invoke "app" {} succeed (workplace.run i).world
  have ha : workplace.Again i i' := ⟨rfl, .refl _, fun _ => rfl⟩
  have h' := retried_iff (accepts (.inl rfl)) Bench.lawful (spares rfl) (compile_fails rfl) ha rfl
    (fun _ _ => rfl) rfl (spares rfl)
    (recipesSucceed_of_success (accepts (.inl rfl)) Bench.lawful.toSeparate (spares rfl)
      fun _ _ => rfl)
  refine h'.2.1.mpr (.inr fun hs => ?_)
  cases hs

/-- The target is known as it is, the source file is not. The file is stored, then the target
fails. -/
theorem failed_not_retried : ∃ i i' : Invocation Bench,
    workplace.Accepts i ∧ workplace.surroundings.Lawful ∧ workplace.Spares i ∧
    (workplace.run i).failure = some (.recipeFailed "app" 1) ∧
    workplace.Again i i' ∧ i'.rules = i.rules ∧
    (workplace.sources i'.world = workplace.sources (workplace.run i).world) ∧
    i'.options.force = false ∧ workplace.Spares i' ∧
    (∀ w j, (i'.execute w j).1.outcome = .ok .success) ∧
    "app" ∈ (workplace.run i').report.skipped ∧
    ¬ ∃ j ∈ (workplace.run i').jobs, j.target = "app" := by
  let i := invoke "app" {} fail (source "int"
    [((workplace.buildId, "app"), (fingerprintText (compile "app")).hex)])
  let i' := invoke "app" {} succeed (workplace.run i).world
  have h : workplace.Accepts i := accepts (.inl rfl)
  have hfail : (workplace.run i).failure = some (.recipeFailed "app" 1) := compile_fails rfl
  have ha : workplace.Again i i' := ⟨rfl, .refl _, fun _ => rfl⟩
  obtain ⟨done, e, rest, r, hf⟩ := failsAt_of_failure h Bench.lawful.toSeparate (spares rfl) hfail
  obtain ⟨hj, hs⟩ := hf.made_again_iff h ha rfl Bench.lawful (fun _ _ => rfl) rfl (spares rfl)
    (recipesSucceed_of_success (accepts (.inl rfl)) Bench.lawful.toSeparate (spares rfl)
      fun _ _ => rfl)
  have hn : ¬ workplace.Remembered i "app" := by
    rintro (⟨x, hx, hal⟩ | hne)
    · rcases (reaches_iff (.inl rfl)).mp hx with rfl | rfl
      · cases hal
      · cases hal
    · exact hne rfl
  exact ⟨i, i', h, Bench.lawful, spares rfl, hfail, ha, rfl, rfl, rfl, spares rfl, fun _ _ => rfl,
    hs.mpr hn, hj.not.mpr hn⟩

end Workplace
end Freshen
