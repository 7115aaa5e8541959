import Freshen.Proofs.Deeds
import Freshen.Proofs.Successive

/-! What becomes of finished work when a run is broken off. The next run finds it recorded, together
with all that it was made from, and hands out no job for it. -/

namespace Freshen

open Bench

variable {W : Type}

namespace Plan

/-- Of the recipes that a goal can call for none touches the digest store or a source file of a
certain target. -/
structure SparesBelow (p : Plan W) (goal t : String) : Prop where
  load : ∀ w j, p.rules.JobOf goal j →
    p.surroundings.load (p.surroundings.execute w j).2 = p.surroundings.load w
  sight : ∀ w j, p.rules.JobOf goal j → ∀ x, p.rules.SourceOf t x →
    (p.surroundings.sources p.root (p.surroundings.execute w j).2).sight x =
      (p.surroundings.sources p.root w).sight x

structure Rests (p : Plan W) (id : String) (w : W) (t : String) (r : Run W) : Prop where
  buildId : r.cache.buildId = id
  unmade : ∀ x, p.rules.Reaches t x → x ∉ r.cache.made
  loads : ∀ x, p.rules.Reaches t x →
    p.surroundings.load r.world id x = p.surroundings.load w id x
  sight : ∀ x, p.rules.SourceOf t x → (p.surroundings.sources p.root r.world).sight x =
    (p.surroundings.sources p.root w).sight x
  jobs : ∀ j ∈ r.jobs, ¬ p.rules.Reaches t j.target

variable {p : Plan W} {id : String} {w : W} {goal t x : String} {rule : Rule}
  {r r' : Run W} {j : Job} {listed : String → Report → Report}

lemma right_of_fresh_eq_nil {o : Outlook} {c : Cache} (h : c.fresh = []) : c.Right o := by
  intro u hu
  rw [h] at hu
  cases hu

lemma Records.right (h : p.Records listed rule r r') : r'.cache.Right (p.view r') := by
  cases h with
  | digested _ | undigestible _ => exact right_of_fresh_eq_nil rfl

lemma Deals.right (h : p.Deals rule r r') (hr : r.cache.Right (p.view r))
    (ha : p.rules.Acyclic rule.target) (hgo : r'.failure = none) :
    r'.cache.Right (p.view r') := by
  cases h with
  | missing _ _ => cases hgo
  | skipped _ =>
    have hasked := (isDue_answers hr ha).2
    have hview : p.view ((p.isDue r rule.target).2.skip rule.target) = p.view r :=
      hasked.view_eq
    rw [hview]
    exact hasked.cache.right
  | made _ _ hm =>
    cases hm with
    | refreshed _ hrec | grouped _ _ hrec | executed _ _ _ hrec => exact hrec.right
    | failed _ _ _ | notStarted _ _ _ => cases hgo

lemma Spares.below (h : p.Spares goal) (ht : p.rules.Reaches goal t) : p.SparesBelow goal t :=
  ⟨h.load, fun w j hj x hx => h.sight w j hj x ⟨ht.trans hx.1, hx.2⟩⟩

namespace Rests

lemma start (p : Plan W) (id : String) (w : W) (t : String) :
    p.Rests id w t { world := w, cache := { buildId := id } } where
  buildId := rfl
  unmade _ _ hm := by cases hm
  loads _ _ := rfl
  sight _ _ := rfl
  jobs _ hj := by cases hj

lemma still (h : p.Rests id w t r) (hc : r'.cache.buildId = r.cache.buildId)
    (hm : r'.cache.made = r.cache.made) (hw : r'.world = r.world) (hj : r'.jobs = r.jobs) :
    p.Rests id w t r' where
  buildId := hc.trans h.buildId
  unmade := hm ▸ h.unmade
  loads := hw ▸ h.loads
  sight := hw ▸ h.sight
  jobs := hj ▸ h.jobs

lemma fail (h : p.Rests id w t r) (ns : List Notice) (e : BuildError) :
    p.Rests id w t ((r.notice ns).fail e) := h.still rfl rfl rfl (Run.jobs_notice r ns)

lemma trusted_iff (h : p.Rests id w t r) (hx : p.rules.Reaches t x) :
    (p.view r).Trusted x ↔ (p.start id w).Trusted x := by
  refine Outlook.trusted_congr rfl rfl ?_ fun hk => h.sight x ⟨hx, hk⟩
  change p.surroundings.load r.world r.cache.buildId x = p.surroundings.load w id x
  rw [h.buildId]
  exact h.loads x hx

lemma not_due (h : p.Rests id w t r) (hr : r.cache.Right (p.view r))
    (hforce : p.options.force = false)
    (htrust : ∀ x, p.rules.Reaches t x → (p.start id w).Trusted x)
    (hx : p.rules.Reaches t x) (ha : p.rules.Acyclic x) : (p.isDue r x).1 = false := by
  rw [← Bool.not_eq_true, (isDue_answers hr ha).1, hforce]
  rintro (hf | ⟨_, u, hu, hm | hn⟩)
  · cases hf
  · exact h.unmade u (hx.trans hu) hm
  · exact hn ((h.trusted_iff (hx.trans hu)).mpr (htrust u (hx.trans hu)))

lemma record (h : p.Rests id w t r) (hsep : p.surroundings.Separate)
    (ht : ¬ p.rules.Reaches t rule.target) (hr : p.Records listed rule r r') :
    p.Rests id w t r' := by
  have hjobs := hr.jobs ▸ h.jobs
  have hunmade : ∀ x, p.rules.Reaches t x → x ∉ (r.cache.noteMade rule.target).made := by
    intro x hx hm
    rcases (Cache.mem_noteMade ..).mp hm with rfl | hm
    · exact ht hx
    · exact h.unmade x hx hm
  cases hr with
  | undigestible _ => exact ⟨h.buildId, hunmade, h.loads, h.sight, hjobs⟩
  | @digested d _ _ =>
    refine ⟨h.buildId, hunmade, fun x hx => ?_, fun x hx => ?_, hjobs⟩
    · change p.surroundings.load (p.surroundings.save _ _ rule.target _).2 id x = _
      rw [hsep.load_save, h.loads x hx]
      rintro heq
      obtain rfl := congrArg Prod.snd heq
      exact ht hx
    · change (p.surroundings.sources p.root (p.surroundings.save _ _ _ _).2).sight x = _
      rw [hsep.sources_save, h.sight x hx]

lemma handOut (h : p.Rests id w t r) (hspare : p.SparesBelow goal t)
    (hj : p.rules.JobOf goal j) (ht : ¬ p.rules.Reaches t j.target) :
    p.Rests id w t (p.handOut r j) := by
  refine ⟨h.buildId, h.unmade, fun x hx => ?_, fun x hx => ?_, ?_⟩
  · change p.surroundings.load (p.surroundings.execute r.world j).2 id x = _
    rw [hspare.load _ _ hj, h.loads x hx]
  · change (p.surroundings.sources p.root (p.surroundings.execute r.world j).2).sight x = _
    rw [hspare.sight _ _ hj x hx, h.sight x hx]
  · rw [jobs_handOut]
    exact List.forall_mem_append.mpr ⟨h.jobs, List.forall_mem_singleton.mpr ht⟩

lemma make (h : p.Rests id w t r) (hsep : p.surroundings.Separate)
    (hspare : p.SparesBelow goal t) (hf : p.rules.find? rule.target = some rule)
    (hg : p.rules.Reaches goal rule.target) (ht : ¬ p.rules.Reaches t rule.target)
    (hm : p.Makes rule r r') : p.Rests id w t r' := by
  have hgiven : ∀ j, p.Fits rule j → p.Rests id w t (p.handOut r j) := by
    intro j hj
    refine h.handOut hspare ⟨hj.target ▸ hg, ?_⟩ (hj.target ▸ ht)
    rw [hj.target, RuleStore.ruleFor_of_find? hf]
    exact hj.recipe
  cases hm with
  | refreshed _ hr | grouped _ _ hr => exact h.record hsep ht hr
  | executed _ hj _ hr => exact (hgiven _ hj).record hsep ht hr
  | failed _ hj _ => exact (hgiven _ hj).fail _ _
  | notStarted _ hj _ => exact (hgiven _ hj).still rfl rfl rfl rfl

lemma deal (h : p.Rests id w t r) (hr : r.cache.Right (p.view r))
    (hsep : p.surroundings.Separate) (hspare : p.SparesBelow goal t)
    (hforce : p.options.force = false)
    (htrust : ∀ x, p.rules.Reaches t x → (p.start id w).Trusted x)
    (hf : p.rules.find? rule.target = some rule) (hg : p.rules.Reaches goal rule.target)
    (ha : p.rules.Acyclic rule.target) (hd : p.Deals rule r r') : p.Rests id w t r' := by
  cases hd with
  | missing _ _ => exact h.fail _ _
  | skipped _ =>
    have hasked := (isDue_answers hr ha).2
    refine h.still hasked.cache.buildId hasked.cache.made hasked.world ?_
    exact (Run.jobs_tell _ _).trans ((List.append_nil _).trans hasked.jobs)
  | made hdue hc hm =>
    -- What is due does not lie below the target.
    have ht : ¬ p.rules.Reaches t rule.target := by
      intro ht
      rw [h.not_due hr hforce htrust ht ha] at hdue
      cases hdue
    exact (h.still hc.buildId hc.made hc.world hc.jobs).make hsep hspare hf hg ht hm

end Rests

lemma run_rests {order : List Rule} (hord : p.rules.Ordered goal order)
    (hsep : p.surroundings.Separate) (hspare : p.SparesBelow goal t)
    (hforce : p.options.force = false)
    (htrust : ∀ x, p.rules.Reaches t x → (p.start id w).Trusted x) :
    p.Rests id w t (p.run { buildId := id } w order) := by
  -- Answers that are remembered are right until the run fails.
  refine (run_induct
    (P := fun r => p.Rests id w t r ∧ (r.failure = none → r.cache.Right (p.view r))) hord
    ⟨.start p id w t, fun _ => right_of_fresh_eq_nil rfl⟩ ?_).1
  rintro rule hr r r' hgo ⟨h, hright⟩ hdeal
  have ht : rule.target ∈ targets order := List.mem_map_of_mem hr
  have ha := hord.acyclic ht
  exact ⟨h.deal (hright hgo) hsep hspare hforce htrust (hord.found rule hr) (hord.reached _ ht) ha
    hdeal, hdeal.right (hright hgo) ha⟩

end Plan

namespace Bench

def both : RuleStore := programs.declare "all" ["app", "test"] none

def untested : Job → Outcome := fun j => if j.target = "test" then .failed 1 else .success

def brokenOff : Invocation Bench :=
  ⟨both, "all", ⟨true, true⟩, play untested, source "int" []⟩

lemma resolution_brokenOff : workplace.resolution brokenOff = ⟨.ok [.file "main.c",
    ⟨"app", ["main.c"], some (compile "app"), .explicit, false⟩,
    ⟨"test", ["main.c"], some (compile "test"), .explicit, false⟩,
    ⟨"all", ["app", "test"], none, .explicit, false⟩], both.addFile "main.c"⟩ := by
  cbv

lemma accepts_brokenOff : workplace.Accepts brokenOff := by
  rw [Workplace.Accepts, resolution_brokenOff]
  exact ⟨_, rfl⟩

lemma ends_brokenOff : (workplace.run brokenOff).failure = some (.recipeFailed "test" 1) ∧
    (workplace.run brokenOff).report.executed = ["app"] := by
  have hord := Workplace.ordered accepts_brokenOff
  rw [Workplace.run, Plan.run_eq_dealAll _ _ _ hord, Workplace.order, Workplace.plan,
    resolution_brokenOff]
  decide +kernel

lemma not_alwaysStale_both (t : String) : (both.ruleFor t).alwaysStale = false := by
  have hall : ∀ rule ∈ both.rules, rule.alwaysStale = false := by decide
  rw [RuleStore.ruleFor]
  cases hf : both.find? t with
  | none => rfl
  | some rule => exact hall rule (RuleStore.mem_of_find? hf)

end Bench

namespace Workplace

variable {b : Workplace W} {i i' : Invocation W} {t x : String}
  {done rest : List (Rule × Standing)} {r : Run W}

/-- The last point of a run up to which all went well; nothing has been stored or reported after
it. -/
structure ComesTo (b : Workplace W) (i : Invocation W) (done rest : List (Rule × Standing))
    (r : Run W) : Prop where
  standings : (b.forecast i).standings = done ++ rest
  progress : (b.plan i).Progress b.buildId i.world i.goal done r
  report : (b.run i).report = r.report
  stored : ∀ u, b.stored (b.run i).world u = b.stored r.world u
  sight : ∀ u, i.rules.SourceOf i.goal u →
    (b.sources (b.run i).world).sight u = (b.sources i.world).sight u

lemma exists_comesTo (h : b.Accepts i) (hsep : b.surroundings.Separate) (hspare : b.Spares i) :
    ∃ done rest r, b.ComesTo i done rest r := by
  rcases course h hsep hspare with hp | ⟨done, e, rest, r, err, hL, hp, hh⟩
  · exact ⟨_, [], _, (List.append_nil _).symm, hp, rfl, fun _ => rfl,
      fun u hu => hp.sight u (plan_sourceOf.mpr hu)⟩
  · refine ⟨done, e :: rest, r, hL, hp, hh.report, fun u => ?_, fun u hu => ?_⟩
    · exact congrFun (congrFun hh.loads b.buildId) u
    · exact (hh.sight u (plan_sourceOf.mpr hu)).trans (hp.sight u (plan_sourceOf.mpr hu))

namespace ComesTo

variable (hc : b.ComesTo i done rest r) (h : b.Accepts i)
include hc h

lemma order_eq : b.order i = done.map (·.1) ++ rest.map (·.1) := by
  rw [← (foreseen h).rules_eq, hc.standings, List.map_append]

lemma reached (hx : x ∈ Plan.handled done) : i.rules.Reaches i.goal x := by
  rw [← mem_order h, hc.order_eq h, targets, List.map_append]
  exact List.mem_append_left _ hx

lemma below (ht : t ∈ Plan.handled done) (hx : i.rules.Reaches t x) : x ∈ Plan.handled done :=
  (hc.order_eq h ▸ ordered h).closed_left ht (plan_reaches.mpr hx)

lemma executed (ht : (b.plan i).Succeeds b.buildId i.world (b.run i).trace t) :
    t ∈ Plan.handled done ∧ (i.rules.ruleFor t).kind = .explicit := by
  have hrule : ∀ e ∈ done, (b.plan i).rules.ruleFor e.1.target = e.1 := fun e he =>
    standing_ruleFor h (by simp [hc.standings, he])
  have hex := ((told h).executed t).mp ht
  rw [or_iff_left List.not_mem_nil, hc.report, hc.progress.report_executed hrule,
    plan_ruleFor] at hex
  exact ⟨hex.1.1, hex.2.1⟩

end ComesTo

/-- However a run has ended: what it has finished is not made again by the next one, and nothing
that went into it, whether the recipes still to be carried out succeed or fail. -/
theorem finished_not_repeated (h : b.Accepts i) (hl : b.surroundings.Lawful)
    (hspare : b.Spares i)
    (ht : (b.plan i).Succeeds b.buildId i.world (b.run i).trace t)
    (halways : ∀ x, i.rules.Reaches t x → (i.rules.ruleFor x).alwaysStale = false)
    (ha : b.Again i i') (hrules : i'.rules = i.rules)
    (hsame : ∀ u, i.rules.SourceOf t u →
      (b.sources i'.world).sight u = (b.sources (b.run i).world).sight u)
    (hforce : i'.options.force = false) (hspare' : (b.plan i').SparesBelow i'.goal t) :
    b.Accepts i' ∧ ∀ x, i.rules.Reaches t x → ∀ j ∈ (b.run i').jobs, j.target ≠ x := by
  obtain ⟨done, rest, r, hc⟩ := exists_comesTo h hl.toSeparate hspare
  obtain ⟨hdone, hk⟩ := hc.executed h ht
  have hg := hc.reached h hdone
  have h' : b.Accepts i' := by
    refine accepts_of_acyclic (ha.goal ▸ ha.rules.acyclic (acyclic h)) (.inl ?_)
    rw [hrules, ha.goal]
    exact goal_known_of_explicit hg hk
  have htrust : ∀ x, i.rules.Reaches t x →
      ((b.plan i').start b.buildId i'.world).Trusted x := by
    intro x hx
    obtain ⟨d, hd, hs⟩ := stored_of_handled hc.progress hl (hc.below h hdone hx)
    rw [Workplace.trusted_iff h' (ha.goal ▸ ha.reaches_iff.mpr (hg.trans hx)), hrules]
    refine ⟨halways x hx, d, ?_, by rw [ha.stored, hc.stored, hs]⟩
    rw [← hd]
    exact digest_congr rfl (fun _ => rfl) fun hk =>
      (hsame x ⟨hx, hk⟩).trans (hc.sight x ⟨hg.trans hx, hk⟩)
  have hreach : ∀ x, (b.plan i').rules.Reaches t x ↔ i.rules.Reaches t x := fun x => by
    rw [plan_reaches, hrules]
  have hrests : (b.plan i').Rests b.buildId i'.world t (b.run i') :=
    Plan.run_rests (ordered h') (separate hl.toSeparate i') hspare' hforce
      fun x hx => htrust x ((hreach x).mp hx)
  refine ⟨h', fun x hx j hj => ?_⟩
  rintro rfl
  exact hrests.jobs j hj ((hreach _).mpr hx)

theorem finished_not_repeated_program :
    (workplace.run brokenOff).result = .error (.recipeFailed "test" 1) ∧ "app" ∉ (workplace.run
      ⟨both, "all", {}, play fail, (workplace.run brokenOff).world⟩).jobs.map (·.target) := by
  let i : Invocation Bench := ⟨both, "all", {}, play fail, (workplace.run brokenOff).world⟩
  obtain ⟨hfail, hexec⟩ := ends_brokenOff
  have happ : (workplace.plan i).rules.Reaches "all" "app" := by
    have hdep : "app" ∈ (both.ruleFor "all").deps := by decide
    exact plan_reaches.mpr (.single hdep)
  have hspare : (workplace.plan i).SparesBelow "all" "app" := (spares rfl).below happ
  have hdone := ((told accepts_brokenOff).executed "app").mpr (by simp [hexec])
  have hagain : workplace.Again brokenOff i := ⟨rfl, .refl _, fun _ => rfl⟩
  have h := finished_not_repeated accepts_brokenOff Bench.lawful (spares rfl) hdone
    (fun x _ => not_alwaysStale_both x) hagain rfl (fun _ _ => rfl) rfl hspare
  refine ⟨Run.result_eq_error.mpr hfail, fun hj => ?_⟩
  obtain ⟨j, hj, ht⟩ := List.mem_map.mp hj
  exact h.2 "app" (.refl _) j hj ht

end Workplace
end Freshen
