import Freshen.Proofs.Deeds

/-! What a recipe is told to be outdated. It is asked for when the recipe comes up, after all its
dependencies have been dealt with: those that were skipped are still up to date by then. -/

namespace Freshen

open Bench

variable {W : Type}

lemma Run.mem_jobs {r : Run W} {j : Job} : j ∈ r.jobs ↔ .handedOut j ∈ r.trace := by
  rw [Run.jobs, List.mem_filterMap]
  constructor
  · rintro ⟨e, he, hj⟩
    cases e with
    | handedOut k =>
      obtain rfl := Option.some.inj hj
      exact he
    | skipped _ | recorded _ _ | printed _ | noticed _ => cases hj
  · exact fun h => ⟨_, h, rfl⟩

namespace Plan

variable (p : Plan W)

def ListsSaved (before : List Event) (j : Job) : Prop :=
  j.outdated = if p.options.force then j.inputs.eraseDups
    else j.inputs.eraseDups.filter (· ∈ (saved before).map (·.1))

def Quiet (r r' : Run W) : Prop := ∃ es, r'.trace = r.trace ++ es ∧ ∀ j, .handedOut j ∉ es

variable {p} {goal id : String} {w : W} {done : List (Rule × Standing)} {before : List Event}
  {rule : Rule} {r r' r'' : Run W} {j j' : Job} {recipe : String} {outdated : List String}

namespace Quiet

lemma refl (r : Run W) : Quiet r r := ⟨[], (List.append_nil _).symm, fun _ => List.not_mem_nil⟩

lemma trans (h : Quiet r r') (h' : Quiet r' r'') : Quiet r r'' := by
  obtain ⟨es, he, hes⟩ := h
  obtain ⟨es', he', hes'⟩ := h'
  refine ⟨es ++ es', by rw [he', he, List.append_assoc], fun j hj => ?_⟩
  exact (List.mem_append.mp hj).elim (hes j) (hes' j)

lemma skip (r : Run W) (t : String) : Quiet r (r.skip t) := ⟨_, rfl, by simp⟩

lemma notice (r : Run W) (ns : List Notice) : Quiet r (r.notice ns) := ⟨_, rfl, by simp⟩

lemma consult (h : Consults r r') : Quiet r r' := by
  obtain ⟨ns, hns⟩ := h.told
  exact ⟨_, hns, by simp⟩

lemma record {listed : String → Report → Report} (h : p.Records listed rule r r') :
    Quiet r r' := by
  cases h with
  | @digested d ns _ =>
    exact ⟨ns.map .noticed ++ [.recorded rule.target (some d)], by simp, by simp⟩
  | undigestible _ => exact .refl r

lemma prefix_iff (h : Quiet r r') :
    before ++ [.handedOut j] <+: r'.trace ↔ before ++ [.handedOut j] <+: r.trace := by
  obtain ⟨es, he, hes⟩ := h
  rw [he, prefix_append_of_notMem (hes j)]

end Quiet

lemma handOut_prefix_iff : before ++ [.handedOut j'] <+: (p.handOut r j).trace ↔
    before ++ [.handedOut j'] <+: r.trace ∨ before = r.trace ++ p.heading j ∧ j' = j := by
  have hprinted (ls : List OutputLine) : .handedOut j' ∉ ls.map Event.printed := by simp
  have hheading : .handedOut j' ∉ p.heading j := fun hm => by cases not_deed_heading _ hm
  rw [handOut_eq]
  change before ++ [.handedOut j'] <+: r.trace ++ p.heading j ++ [.handedOut j] ++ _ ↔ _
  rw [prefix_append_of_notMem (hprinted _), deed_prefix_concat, prefix_append_of_notMem hheading,
    Event.handedOut.injEq, or_comm]

lemma runRecipe_quiet (hf : p.rules.find? rule.target = some rule) :
    Quiet (p.handOut r (p.jobFor rule recipe outdated)) (p.runRecipe r rule recipe outdated) := by
  rw [runRecipe_eq]
  split
  · exact .refl _
  · exact .notice _ _
  · exact .record (record_records _ hf)

lemma deal_prefix (hf : p.rules.find? rule.target = some rule)
    (h : before ++ [.handedOut j] <+: (p.deal r rule).trace) :
    before ++ [.handedOut j] <+: r.trace ∨ ∃ recipe,
      let out := p.outdatedFrom [] (p.isDue r rule.target).2 rule.deps
      j = p.jobFor rule recipe out.1 ∧ before = out.2.trace ++ p.heading j := by
  have hdue := isDue_consults p r rule.target
  have hout := hdue.trans (outdatedFrom_consults p rule.deps [] (p.isDue r rule.target).2).2
  unfold deal at h
  split at h
  · refine .inl ?_
    unfold refresh at h
    split at h
    · exact (Quiet.notice r _).prefix_iff.mp h
    dsimp only at h
    split at h
    · exact ((Quiet.consult hdue).trans (.record (record_records _ hf))).prefix_iff.mp h
    · exact ((Quiet.consult hdue).trans (.skip _ _)).prefix_iff.mp h
  · dsimp only at h
    split at h
    · unfold make at h
      split at h
      · next recipe _ =>
        rw [(runRecipe_quiet hf).prefix_iff, handOut_prefix_iff,
          (Quiet.consult hout).prefix_iff] at h
        rcases h with h | ⟨hb, hj⟩
        · exact .inl h
        · exact .inr ⟨recipe, hj, hj ▸ hb⟩
      · exact .inl (((Quiet.consult hout).trans (.record (record_records _ hf))).prefix_iff.mp h)
    · exact .inl (((Quiet.consult hdue).trans (.skip _ _)).prefix_iff.mp h)

lemma listsSaved_deal (h : p.Progress id w goal done r) (hx : p.Next goal done rule)
    (ht : p.Told id w [] r)
    (hlists : ∀ before j, before ++ [.handedOut j] <+: r.trace → p.ListsSaved before j)
    (hb : before ++ [.handedOut j] <+: (p.deal r rule).trace) : p.ListsSaved before j := by
  rcases deal_prefix hx.found hb with hb | ⟨recipe, rfl, rfl⟩
  · exact hlists before j hb
  have hdue := (isDue_answers h.right hx.acyclic).2
  obtain ⟨hout, hasked⟩ := h.outdated_eq hx hdue
  have hall := hdue.trans hasked
  have htold := ht.consult ((isDue_consults p r rule.target).trans
    (outdatedFrom_consults p rule.deps [] (p.isDue r rule.target).2).2)
  have hmade (u : String) : u ∈ r.cache.made ↔
      u ∈ (saved (p.outdatedFrom [] (p.isDue r rule.target).2 rule.deps).2.trace).map (·.1) := by
    rw [htold.mem_saved, htold.made, hall.report, h.made]
    exact h.report_made.symm
  have hwas : (p.isDue r rule.target).2.cache.wasMade = fun u => decide (u ∈ r.cache.made) := by
    funext u
    rw [Cache.wasMade, hdue.cache.made]
  rw [ListsSaved, saved_append_of_not_deed not_deed_heading]
  change (p.outdatedFrom [] (p.isDue r rule.target).2 rule.deps).1 =
    if p.options.force then rule.deps.eraseDups else rule.deps.eraseDups.filter _
  simp only [hout, hwas, ← hmade]
  split
  · next hforce =>
    -- Under force nothing is skipped.
    refine List.filter_eq_self.mpr fun u hu => decide_eq_true (by_contra fun hm => ?_)
    have hs : p.rules.Step rule.target u := by
      rw [RuleStore.Step, RuleStore.ruleFor_of_find? hx.found]
      exact List.mem_eraseDups.mp hu
    have hd := hx.deps u (List.mem_eraseDups.mp hu)
    rw [(h.not_stale_of_handled (hx.reached.snoc hs) hd hm).1] at hforce
    cases hforce
  · rfl

end Plan

namespace Workplace

variable {b : Workplace W} {i : Invocation W} {before later : List Event} {j : Job} {u : String}

lemma issues (h : b.Accepts i) (hb : before ++ [.handedOut j] <+: (b.run i).trace) :
    (b.plan i).Issues (b.order i) before j := by
  rcases Plan.advances_run (b.plan i) b.buildId i.world (ordered h) with
    ⟨done, -, hc⟩ | ⟨done, rule, rest, extra, err, -, hend⟩
  · exact hc.journal.issued before j hb
  · exact hend.journal.issued before j hb

lemma listsSaved_run (h : b.Accepts i) (hsep : b.surroundings.Separate) (hspare : b.Spares i)
    (hb : before ++ [.handedOut j] <+: (b.run i).trace) : (b.plan i).ListsSaved before j := by
  have hrun := Plan.run_induct_progress (P := fun r => (b.plan i).Told b.buildId i.world [] r ∧
      ∀ before j, before ++ [.handedOut j] <+: r.trace → (b.plan i).ListsSaved before j)
    (ordered h) (foreseen h).rules_eq (foreseen h).stands (separate hsep i) hspare
    ⟨.start _ { buildId := b.buildId } _, fun _ _ hb => by simp at hb⟩ fun done rule r hp hx hr =>
      ⟨hr.1.dealt_with hx.found (Plan.deal_deals hx.found),
        fun _ _ hb => Plan.listsSaved_deal hp hx hr.1 hr.2 hb⟩
  exact hrun.2 before j hb

lemma saved_before_iff (h : b.Accepts i)
    (ht : (b.run i).trace = before ++ .handedOut j :: later) (hu : u ∈ j.inputs) :
    u ∈ (saved before).map (·.1) ↔ (b.run i).report.Made u := by
  rw [mem_saved, ← (told h).made, ← mem_saved_run h, mem_saved, ht]
  refine exists_congr fun d => ⟨List.mem_append_left _, fun hd => ?_⟩
  have hb : before ++ [.handedOut j] <+: (b.run i).trace := ⟨later, by simp [ht]⟩
  obtain ⟨done, rule, rest, he, hfits, hdealt⟩ := issues h hb
  obtain ⟨done', rest', he', hdealt', -⟩ := run_reached h
  have hbefore : u ∈ dealt before := by
    rw [hdealt]
    exact ((ordered h).topological done rule rest he).2 u (hfits.inputs ▸ hu)
  have hnodup : (dealt before ++ dealt (.handedOut j :: later)).Nodup := by
    have hn := (ordered h).topological.nodup
    rw [he', targets, List.map_append] at hn
    rw [← Plan.dealt_append, ← ht, hdealt']
    exact (List.nodup_append.mp hn).1
  -- Nothing is dealt with twice, so it has not been recorded later.
  refine (List.mem_append.mp hd).resolve_right fun hlater => ?_
  exact (List.nodup_append.mp hnodup).2.2 u hbefore u (mem_dealt.mpr (.inr ⟨_, hlater⟩)) rfl

/-- What a recipe is told to be outdated is just what has been executed, refreshed or grouped before
it in the same run, out of its dependencies and in their order; under force these are all of them.
What was skipped does not become stale meanwhile, whatever else is done in between. -/
theorem outdated_are_made (h : b.Accepts i) (hsep : b.surroundings.Separate)
    (hspare : b.Spares i) (ht : (b.run i).trace = before ++ .handedOut j :: later) :
    j.inputs = (i.rules.ruleFor j.target).deps ∧
    (j.outdated = if i.options.force then j.inputs.eraseDups
      else j.inputs.eraseDups.filter (· ∈ (saved before).map (·.1))) ∧
    ∀ u ∈ j.inputs, u ∈ (saved before).map (·.1) ↔ (b.run i).report.Made u := by
  have hb : before ++ [.handedOut j] <+: (b.run i).trace := ⟨later, by simp [ht]⟩
  exact ⟨(handsOut_of_issues h (issues h hb)).inputs, listsSaved_run h hsep hspare hb,
    fun u hu => saved_before_iff h ht hu⟩

def linked : RuleStore :=
  (({} : RuleStore).declare "app" ["main.c", "lib", "main.c"] (some "cc main.c lib")).declare
    "lib" [] (some "ar")

def linking (w : Bench) : Invocation Bench :=
  { rules := linked, goal := "app", execute := play succeed, world := w }

lemma linking_resolved (w : Bench) : (workplace.resolution (linking w)).outcome = .ok
    [.file "main.c", ⟨"lib", [], some "ar", .explicit, false⟩,
      ⟨"app", ["main.c", "lib", "main.c"], some "cc main.c lib", .explicit, false⟩] := by
  cbv

def stocked : Bench := source "int" [((workplace.buildId, "lib"), (fingerprintText "ar").hex)]

lemma linked_reaches {t : String} :
    linked.Reaches "app" t ↔ t = "main.c" ∨ t = "lib" ∨ t = "app" := by
  have h : workplace.Accepts (linking stocked) := ⟨_, linking_resolved stocked⟩
  change (linking stocked).rules.Reaches (linking stocked).goal t ↔ _
  rw [← mem_order h, Workplace.order, linking_resolved]
  simp [targets, Rule.file, Except.toOption]

lemma linking_completed : (workplace.plan (linking stocked)).Progress workplace.buildId stocked
    "app" (workplace.forecast (linking stocked)).standings (workplace.run (linking stocked)) := by
  have h : workplace.Accepts (linking stocked) := ⟨_, linking_resolved stocked⟩
  refine completed_of_sources h Bench.lawful.toSeparate (spares rfl) (fun t ht => ?_)
    (recipesSucceed_of_success h Bench.lawful.toSeparate (spares rfl) fun _ _ => rfl)
  rcases linked_reaches.mp ht.1 with rfl | rfl | rfl
  · exact ⟨source_there _ _, readable (source_there _ _)⟩
  · cases ht.2
  · cases ht.2

lemma linking_main_due :
    (workplace.plan (linking stocked)).Due workplace.buildId stocked "main.c" := by
  have h : workplace.Accepts (linking stocked) := ⟨_, linking_resolved stocked⟩
  refine (due_iff rfl).mpr ⟨"main.c", .refl _, fun htrusted => ?_⟩
  obtain ⟨_, d, _, hs⟩ := (trusted_iff h (linked_reaches.mpr (.inl rfl))).mp htrusted
  cases hs

lemma linking_lib_not_due :
    ¬ (workplace.plan (linking stocked)).Due workplace.buildId stocked "lib" := by
  have h : workplace.Accepts (linking stocked) := ⟨_, linking_resolved stocked⟩
  intro hdue
  obtain ⟨x, hx, hn⟩ := (due_iff (i := linking stocked) rfl).mp hdue
  cases hx with
  | refl =>
    refine hn ((trusted_iff h (linked_reaches.mpr (.inr (.inl rfl)))).mpr ⟨rfl, ?_⟩)
    exact ⟨fingerprintText "ar", Outlook.digestOf_explicit _ rfl, rfl⟩
  | step hs _ => cases hs

theorem outdated_are_made_linking : ∃ j ∈ (workplace.run (linking stocked)).jobs,
    j.target = "app" ∧ j.outdated = ["main.c"] := by
  have h : workplace.Accepts (linking stocked) := ⟨_, linking_resolved stocked⟩
  have hp := linking_completed
  have hhandled {t : String} (ht : linked.Reaches "app" t) :
      t ∈ Plan.handled (workplace.forecast (linking stocked)).standings :=
    (handled_forecast h).mpr ht
  have happ : "app" ∈ (workplace.run (linking stocked)).report.executed := by
    refine (mem_executed h hp).mpr ⟨⟨.refl _, ?_⟩, rfl, rfl⟩
    obtain ⟨x, hx, hn⟩ := (due_iff (i := linking stocked) rfl).mp linking_main_due
    have hmain : linked.Step "app" "main.c" := List.mem_cons_self
    exact (due_iff rfl).mpr ⟨x, .step hmain hx, hn⟩
  have hmain : (workplace.run (linking stocked)).report.Made "main.c" :=
    hp.report_made.mpr ⟨hhandled (linked_reaches.mpr (.inl rfl)), linking_main_due⟩
  have hlib : ¬ (workplace.run (linking stocked)).report.Made "lib" := fun hm =>
    linking_lib_not_due (hp.report_made.mp hm).2
  rw [← hp.jobs] at happ
  obtain ⟨j, hj, htarget⟩ := List.mem_map.mp happ
  obtain ⟨before, later, ht⟩ := List.append_of_mem (Run.mem_jobs.mp hj)
  obtain ⟨hinputs, hout, hmade⟩ := outdated_are_made h Bench.lawful.toSeparate (spares rfl) ht
  rw [htarget] at hinputs
  have heq : j.inputs = ["main.c", "lib", "main.c"] := hinputs
  rw [heq] at hout hmade
  refine ⟨j, hj, htarget, hout.trans ?_⟩
  have hnames : ["main.c", "lib", "main.c"].eraseDups = ["main.c", "lib"] := by decide
  rw [if_neg (by simp [linking]), hnames]
  simp [(hmade "main.c" (by simp)).mpr hmain, mt (hmade "lib" (by simp)).mp hlib]

end Workplace
end Freshen
