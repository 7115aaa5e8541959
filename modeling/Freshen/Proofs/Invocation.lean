import Freshen.Proofs.Course

/-! Invocations: each resolves its goal anew and runs the order that comes of it. Files and stored
digests stay in place from one to the next. -/

namespace Freshen

variable {W : Type}

structure Workplace (W : Type) where
  surroundings : Surroundings W
  root : Path
  buildId : String

structure Invocation (W : Type) where
  rules : RuleStore
  goal : String
  options : Options := {}
  execute : W → Job → Response × W
  world : W

def Run.RecipesSucceed (r : Run W) : Prop := ∀ err, r.failure = some err → err.ofRecipe = false

def Sources.Readable (s : Sources) (t : String) : Prop := ∃ d, s.files.digest (s.pathOf t) = .ok d

namespace Workplace

variable (b : Workplace W) (i : Invocation W)

def sources (w : W) : Sources := b.surroundings.sources b.root w

def stored (w : W) (t : String) : Except StoreError (Option String) :=
  b.surroundings.load w b.buildId t

def digest (rules : RuleStore) (w : W) (t : String) : Except DigestError Digest :=
  Outlook.digestOf (b.sources w) (rules.ruleFor t)

def resolution : Resolution := i.rules.resolve i.goal (b.sources i.world).fileExists

def Accepts : Prop := ∃ order, (b.resolution i).outcome = .ok order

def order : List Rule := (b.resolution i).outcome.toOption.getD []

def plan : Plan W where
  surroundings := { b.surroundings with execute := i.execute }
  root := b.root
  rules := (b.resolution i).rules
  options := i.options

def forecast : Forecast := (b.plan i).forecast { buildId := b.buildId } i.world (b.order i)

def run : Run W := (b.plan i).run { buildId := b.buildId } i.world (b.order i)

def Spares : Prop := (b.plan i).Spares i.goal

variable {b i} {i' : Invocation W} {t u x : String} {r : Run W} {done : List (Rule × Standing)}

lemma ordered (h : b.Accepts i) : (b.plan i).rules.Ordered i.goal (b.order i) := by
  obtain ⟨order, ho⟩ := h
  rw [Workplace.order, ho]
  exact RuleStore.resolve_ordered ho

lemma accepts_of_acyclic (ha : i.rules.Acyclic i.goal)
    (hk : (i.rules.find? i.goal).isSome ∨ (b.sources i.world).fileExists i.goal = true) :
    b.Accepts i := RuleStore.resolve_of_acyclic ha hk

lemma order_congr (hr : i'.rules = i.rules) (hg : i'.goal = i.goal) (h : b.Accepts i)
    (h' : b.Accepts i') : b.order i' = b.order i := by
  obtain ⟨order, ho⟩ := h
  obtain ⟨order', ho'⟩ := h'
  rw [Workplace.order, Workplace.order, ho, ho']
  rw [resolution, hr, hg] at ho'
  exact (RuleStore.resolve_ok ho').2.1.symm.trans (RuleStore.resolve_ok ho).2.1

lemma plan_ruleFor (b : Workplace W) (i : Invocation W) (t : String) :
    (b.plan i).rules.ruleFor t = i.rules.ruleFor t := RuleStore.resolve_ruleFor _ _ _ t

lemma plan_reaches : (b.plan i).rules.Reaches t u ↔ i.rules.Reaches t u :=
  RuleStore.resolve_reaches _ _ _ t u

lemma plan_sourceOf : (b.plan i).rules.SourceOf i.goal t ↔ i.rules.SourceOf i.goal t := by
  rw [RuleStore.SourceOf, RuleStore.SourceOf, plan_reaches, plan_ruleFor]

lemma goal_known_of_explicit (hg : i.rules.Reaches i.goal t)
    (hk : (i.rules.ruleFor t).kind = .explicit) : (i.rules.find? i.goal).isSome := by
  cases hfind : i.rules.find? i.goal with
  | some _ => rfl
  | none =>
    -- Without a rule nothing but the goal itself would have come up.
    have hfile : i.rules.ruleFor i.goal = .file i.goal := by rw [RuleStore.ruleFor, hfind]; rfl
    cases hg with
    | refl =>
      rw [hfile] at hk
      cases hk
    | step hs _ =>
      rw [RuleStore.Step, hfile] at hs
      cases hs

lemma acyclic (h : b.Accepts i) : i.rules.Acyclic i.goal := by
  have ha := (ordered h).acyclic (ordered h).goal_mem
  intro u v hu hs hv
  refine ha (plan_reaches.mpr hu) ?_ (plan_reaches.mpr hv)
  rwa [RuleStore.Step, plan_ruleFor]

lemma mem_order (h : b.Accepts i) : t ∈ targets (b.order i) ↔ i.rules.Reaches i.goal t := by
  rw [(ordered h).mem_iff, plan_reaches]

lemma separate (h : b.surroundings.Separate) (i : Invocation W) :
    (b.plan i).surroundings.Separate := ⟨h.files_save, h.load_save⟩

lemma lawful (h : b.surroundings.Lawful) (i : Invocation W) : (b.plan i).surroundings.Lawful :=
  ⟨separate h.toSeparate i, h.load_saved⟩

lemma foreseen (h : b.Accepts i) :
    (b.plan i).Foreseen b.buildId i.world (b.forecast i) (b.order i) :=
  Plan.forecast_foreseen _ _ _ (ordered h)

lemma handled_forecast (h : b.Accepts i) :
    t ∈ Plan.handled (b.forecast i).standings ↔ i.rules.Reaches i.goal t := by
  rw [Plan.handled, (foreseen h).rules_eq, mem_order h]

lemma standing_mem {e : Rule × Standing} (h : b.Accepts i) (he : e ∈ (b.forecast i).standings) :
    e.1 ∈ b.order i := (foreseen h).rules_eq ▸ List.mem_map_of_mem he

lemma standing_ruleFor {e : Rule × Standing} (h : b.Accepts i)
    (he : e ∈ (b.forecast i).standings) : (b.plan i).rules.ruleFor e.1.target = e.1 :=
  (ordered h).ruleFor_eq (standing_mem h he)

lemma standing_sourceOf {e : Rule × Standing} (h : b.Accepts i)
    (he : e ∈ (b.forecast i).standings) (hk : e.1.kind = .filename) :
    i.rules.SourceOf i.goal e.1.target := by
  have hr := standing_mem h he
  refine plan_sourceOf.mp ⟨(ordered h).reached _ (List.mem_map_of_mem hr), ?_⟩
  rwa [(ordered h).ruleFor_eq hr]

lemma standing_not_missing {e : Rule × Standing} (h : b.Accepts i)
    (he : e ∈ (b.forecast i).standings)
    (hthere : i.rules.SourceOf i.goal e.1.target →
      (b.sources i.world).fileExists e.1.target = true) : e.2 ≠ .missing := by
  intro hm
  have hs := (foreseen h).stands e he
  rw [hm] at hs
  cases hs with
  | missing hk hgone =>
    exact Bool.false_ne_true (hgone.symm.trans (hthere (standing_sourceOf h he hk)))

lemma source_of_undigestible {e : Rule × Standing} {err : DigestError} (h : b.Accepts i)
    (he : e ∈ (b.forecast i).standings) (hdue : e.2.due = true)
    (hd : Outlook.digestOf (b.sources i.world) e.1 = .error err) :
    i.rules.SourceOf i.goal e.1.target ∧ (b.sources i.world).fileExists e.1.target = true ∧
      ¬ (b.sources i.world).Readable e.1.target := by
  have hk := Outlook.filename_of_error hd
  have hm : e.2 ≠ .missing := by
    intro hm
    simp [hm, Standing.due] at hdue
  refine ⟨standing_sourceOf h he hk, ((foreseen h).stands e he).present hm hk, ?_⟩
  rintro ⟨d, hd'⟩
  rw [Outlook.digestOf, hk] at hd
  exact absurd (hd.symm.trans hd') (by simp)

lemma course (h : b.Accepts i) (hsep : b.surroundings.Separate) (hspare : b.Spares i) :
    (b.plan i).Progress b.buildId i.world i.goal (b.forecast i).standings (b.run i) ∨
      ∃ done e rest r err, (b.forecast i).standings = done ++ e :: rest ∧
        (b.plan i).Progress b.buildId i.world i.goal done r ∧
        (b.plan i).Halts i.world i.goal e r (b.run i) err :=
  Plan.run_course (ordered h) (foreseen h).rules_eq (foreseen h).stands (separate hsep i) hspare

lemma course_of_readable (h : b.Accepts i) (hsep : b.surroundings.Separate) (hspare : b.Spares i)
    (hread : ∀ t, i.rules.SourceOf i.goal t → (b.sources i.world).fileExists t = true →
      (b.sources i.world).Readable t)
    (hrec : (b.run i).RecipesSucceed) :
    (b.plan i).Progress b.buildId i.world i.goal (b.forecast i).standings (b.run i) ∨
      ∃ done e rest r, (b.forecast i).standings = done ++ e :: rest ∧ e.2 = .missing ∧
        (b.plan i).Progress b.buildId i.world i.goal done r ∧
        (b.plan i).Halts i.world i.goal e r (b.run i) (.missingSource e.1.target) := by
  rcases course h hsep hspare with hp | ⟨done, e, rest, r, err, hL, hp, hh⟩
  · exact .inl hp
  refine .inr ⟨done, e, rest, r, hL, ?_⟩
  have hsound := hrec err hh.failure
  cases hh.cause with
  | missing hm => exact ⟨hm, hp, hh⟩
  | failed _ _ _ _ _ _ _ | notStarted _ _ _ _ => cases hsound
  | undigestible hdue hd =>
    obtain ⟨hsrc, hthere, hnot⟩ := source_of_undigestible h (by simp [hL]) hdue hd
    exact (hnot (hread _ hsrc hthere)).elim

lemma completed_of_sources (h : b.Accepts i) (hsep : b.surroundings.Separate)
    (hspare : b.Spares i)
    (hsrc : ∀ t, i.rules.SourceOf i.goal t → (b.sources i.world).fileExists t = true ∧
      (b.sources i.world).Readable t)
    (hrec : (b.run i).RecipesSucceed) :
    (b.plan i).Progress b.buildId i.world i.goal (b.forecast i).standings (b.run i) := by
  rcases course_of_readable h hsep hspare (fun t ht _ => (hsrc t ht).2) hrec with
    hp | ⟨_, e, _, _, hL, hm, _, _⟩
  · exact hp
  · exact (standing_not_missing h (by simp [hL]) (fun hs => (hsrc _ hs).1) hm).elim

lemma recipesSucceed_of_success (h : b.Accepts i) (hsep : b.surroundings.Separate)
    (hspare : b.Spares i) (hs : ∀ w j, (i.execute w j).1.outcome = .ok .success) :
    (b.run i).RecipesSucceed := by
  intro err herr
  rcases course h hsep hspare with hp | ⟨_, _, _, _, err', _, _, hh⟩
  · rw [hp.going] at herr
    cases herr
  · obtain rfl := Option.some.inj (herr.symm.trans hh.failure)
    cases hh.cause with
    | missing _ | undigestible _ _ => rfl
    | failed j w' _ _ _ _ ho | notStarted j w' _ ho =>
      have hn := (hs w' j).symm.trans ho
      simp at hn

lemma completed (h : b.Accepts i) (hsep : b.surroundings.Separate) (hspare : b.Spares i)
    (hok : (b.run i).failure = none) :
    (b.plan i).Progress b.buildId i.world i.goal (b.forecast i).standings (b.run i) := by
  rcases course h hsep hspare with hp | ⟨_, _, _, _, _, _, _, hh⟩
  · exact hp
  · rw [hh.failure] at hok
    cases hok

lemma trusted_iff (h : b.Accepts i) (hx : i.rules.Reaches i.goal x) :
    ((b.plan i).start b.buildId i.world).Trusted x ↔ (i.rules.ruleFor x).alwaysStale = false ∧
      ∃ d, b.digest i.rules i.world x = .ok d ∧ b.stored i.world x = .ok (some d.hex) := by
  have hf := (ordered h).find?_eq ((mem_order h).mpr hx)
  rw [plan_ruleFor] at hf
  constructor
  · rintro ⟨q, hq, h⟩
    obtain rfl := Option.some.inj (hf.symm.trans hq)
    exact h
  · exact fun h => ⟨_, hf, h⟩

lemma due_iff (hf : i.options.force = false) :
    (b.plan i).Due b.buildId i.world t ↔
      ∃ x, i.rules.Reaches t x ∧ ¬ ((b.plan i).start b.buildId i.world).Trusted x := by
  rw [Plan.due_iff_of_unforced hf]
  simp only [plan_reaches]

lemma stored_of_handled (hp : (b.plan i).Progress b.buildId i.world i.goal done r)
    (hl : b.surroundings.Lawful) (ht : t ∈ Plan.handled done) :
    ∃ d, b.digest i.rules i.world t = .ok d ∧ b.stored r.world t = .ok (some d.hex) := by
  have hs := hp.stored (lawful hl i) ht
  rwa [plan_ruleFor] at hs

lemma stored_of_not_handled (hp : (b.plan i).Progress b.buildId i.world i.goal done r)
    (ht : t ∉ Plan.handled done) : b.stored r.world t = b.stored i.world t :=
  hp.loads b.buildId t fun _ hm => ht ((hp.made t).mp hm).1

lemma digest_congr {rules rules' : RuleStore} {w w' : W}
    (hk : (rules'.ruleFor t).kind = (rules.ruleFor t).kind)
    (hr : (rules.ruleFor t).kind = .explicit →
      (rules'.ruleFor t).recipe = (rules.ruleFor t).recipe)
    (hs : (rules.ruleFor t).kind = .filename → (b.sources w').sight t = (b.sources w).sight t) :
    b.digest rules' w' t = b.digest rules w t := by
  cases hkind : (rules.ruleFor t).kind with
  | explicit =>
    rw [digest, digest, Outlook.digestOf_explicit _ (hk.trans hkind),
      Outlook.digestOf_explicit _ hkind, hr hkind]
  | filename =>
    have hd := Outlook.digestOf_congr (r := rules.ruleFor t) (a := b.sources w')
      (b := b.sources w) rfl (by simpa using hs)
    rw [digest, digest, ← hd, Outlook.digestOf, Outlook.digestOf, hk, hkind]
    simp

lemma digest_of_progress (hp : (b.plan i).Progress b.buildId i.world i.goal done r)
    (ht : i.rules.Reaches i.goal t) : b.digest i.rules r.world t = b.digest i.rules i.world t :=
  digest_congr rfl (fun _ => rfl) fun hk => hp.sight t (plan_sourceOf.mpr ⟨ht, hk⟩)

lemma mem_executed (h : b.Accepts i)
    (hp : (b.plan i).Progress b.buildId i.world i.goal (b.forecast i).standings r) :
    t ∈ r.report.executed ↔
      (i.rules.Reaches i.goal t ∧ (b.plan i).Due b.buildId i.world t) ∧
        (i.rules.ruleFor t).kind = .explicit ∧ (i.rules.ruleFor t).recipe.isSome = true := by
  rw [hp.report_executed fun _ => standing_ruleFor h, handled_forecast h, plan_ruleFor]

lemma fails_of_failing (h : b.Accepts i) (hsep : b.surroundings.Separate) (hspare : b.Spares i)
    (hsrc : ∀ u, i.rules.SourceOf i.goal u → (b.sources i.world).fileExists u = true ∧
      (b.sources i.world).Readable u)
    {code : Int} (hfail : ∀ w j, (i.execute w j).1.outcome = .ok (.failed code))
    (ht : i.rules.Reaches i.goal t) (hk : (i.rules.ruleFor t).kind = .explicit)
    (hr : (i.rules.ruleFor t).recipe.isSome = true)
    (hdue : (b.plan i).Due b.buildId i.world t) :
    ∃ u, i.rules.Reaches i.goal u ∧ (i.rules.ruleFor u).kind = .explicit ∧
      (b.run i).failure = some (.recipeFailed u code) := by
  rcases course h hsep hspare with hp | ⟨done, e, rest, r, err, hL, hp, hh⟩
  · have hex := (mem_executed h hp).mpr ⟨⟨ht, hdue⟩, hk, hr⟩
    rw [← hp.jobs] at hex
    obtain ⟨j, hj, _⟩ := List.mem_map.mp hex
    obtain ⟨_, w, ho⟩ := hp.performed j hj
    have hn := (hfail w j).symm.trans ho
    simp at hn
  · have he : e ∈ (b.forecast i).standings := by simp [hL]
    rw [hh.failure]
    cases hh.cause with
    | missing hm => exact (standing_not_missing h he (fun hs => (hsrc _ hs).1) hm).elim
    | undigestible hd hdig =>
      obtain ⟨hs, _, hn⟩ := source_of_undigestible h he hd hdig
      exact (hn (hsrc _ hs).2).elim
    | @failed code' j w _ hke hj hjt ho =>
      have hc : code = code' := by simpa using (hfail w j).symm.trans ho
      refine ⟨e.1.target, plan_reaches.mp (hjt ▸ hj.1), ?_, by rw [hc]⟩
      rw [← plan_ruleFor b, standing_ruleFor h he, hke]
    | notStarted j w _ ho =>
      have hn := (hfail w j).symm.trans ho
      simp at hn

end Workplace
end Freshen
