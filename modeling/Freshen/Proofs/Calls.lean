import Freshen.Proofs.Dealing

/-! The calls that a run makes. What lies below a rule has been dealt with before the rule comes up,
so a call from within another returns at once, and a run comes to the same if it never looks below a
rule. -/

namespace Freshen

open Bench

variable {W : Type}

namespace Plan

variable (p : Plan W) (c : Cache) (w : W)

def outdatedOf (r : Run W) (rule : Rule) : List String × Run W :=
  p.outdatedFrom [] (p.isDue r rule.target).2 rule.deps

def bringAlone (r : Run W) (t : String) : Run W :=
  if r.failure.isSome || t ∈ r.settled then r
  else if r.cache.wasMade t then r.settle t
  else match p.rules.find? t with
  | none => r
  | some rule => p.deal r rule

def runAlone (order : List Rule) : Run W :=
  order.foldl (fun r rule => p.bringAlone r rule.target) { world := w, cache := c }

structure Works (path : List String) (r : Run W) (rule : Rule) : Prop where
  going : r.failure = none
  unsettled : rule.target ∉ r.settled
  idle : rule.target ∉ path
  unmade : rule.target ∉ r.cache.made
  found : p.rules.find? rule.target = some rule
  explicit : rule.kind = .explicit
  due : (p.isDue r rule.target).1 = true

/-- The calls of a run over an order: `path` holds the targets in progress, `r` is how far the run
has come. -/
inductive Call (order : List Rule) : List String → Run W → String → Prop
  | outer {done rest : List Rule} {rule : Rule} : order = done ++ rule :: rest →
      (p.run c w done).failure = none → Call order [] (p.run c w done) rule.target
  | inner {path : List String} {r r' : Run W} {rule : Rule} {done rest : List String}
      {u : String} : Call order path r rule.target → p.Works path r rule →
      (p.outdatedOf r rule).1 = done ++ u :: rest →
      r' = p.bringAll (rule.target :: path) (p.outdatedOf r rule).2 done →
      r'.failure = none → u ∉ r'.cache.made → Call order (rule.target :: path) r' u

inductive Treats (rule : Rule) (r : Run W) : Run W → Prop
  | idle : r.failure.isSome = true ∨ rule.target ∈ r.settled → Treats rule r r
  | known : r.failure = none → rule.target ∈ r.cache.made → Treats rule r (r.settle rule.target)
  | dealt {r' : Run W} : r.failure = none → rule.target ∉ r.cache.made → p.Deals rule r r' →
      Treats rule r r'

variable {p c w} {goal t : String} {order done rest : List Rule} {rule : Rule} {r r' : Run W}
  {path : List String}

lemma Works.bring_eq (h : p.Works path r rule) : p.bring path r rule.target =
    let r' := p.bringAll (rule.target :: path) (p.outdatedOf r rule).2 (p.outdatedOf r rule).1
    if r'.failure.isSome then r' else p.make r' rule (p.outdatedOf r rule).1 := by
  rw [bring_of_explicit h.going h.unsettled h.idle h.unmade h.found h.explicit, if_pos h.due]
  rfl

lemma run_concat (p : Plan W) (c : Cache) (w : W) (done : List Rule) (rule : Rule) :
    p.run c w (done ++ [rule]) = p.bring [] (p.run c w done) rule.target := List.foldl_concat ..

lemma runAlone_concat (p : Plan W) (c : Cache) (w : W) (done : List Rule) (rule : Rule) :
    p.runAlone c w (done ++ [rule]) = p.bringAlone (p.runAlone c w done) rule.target :=
  List.foldl_concat ..

lemma Records.settled {listed : String → Report → Report} (h : p.Records listed rule r r')
    (hgo : r'.failure = none) : r'.settled = rule.target :: r.settled := by
  cases h with
  | digested _ => rfl
  | undigestible _ => cases hgo

lemma Makes.settled (h : p.Makes rule r r') (hgo : r'.failure = none) :
    r'.settled = rule.target :: r.settled := by
  cases h with
  | refreshed _ hr | grouped _ _ hr | executed _ _ _ hr => exact hr.settled hgo
  | failed _ _ _ | notStarted _ _ _ => cases hgo

lemma Deals.settled (h : p.Deals rule r r') (hgo : r'.failure = none) :
    r'.settled = rule.target :: r.settled := by
  cases h with
  | missing _ _ => cases hgo
  | skipped _ => exact congrArg _ (isDue_consults p r rule.target).settled
  | made _ hr hm => rw [hm.settled hgo, hr.settled]

lemma Treats.going (h : p.Treats rule r r') (hgo : r'.failure = none) : r.failure = none := by
  cases h with
  | idle _ => exact hgo
  | known h _ | dealt h _ _ => exact h

lemma Treats.mem_settled (h : p.Treats rule r r') (hgo : r'.failure = none) :
    t ∈ r'.settled ↔ t = rule.target ∨ t ∈ r.settled := by
  cases h with
  | idle hidle =>
    have hset : rule.target ∈ r.settled := hidle.resolve_left (by simp [hgo])
    exact ⟨.inr, fun ht => ht.elim (fun he => he ▸ hset) id⟩
  | known _ _ => exact List.mem_cons
  | dealt _ _ hd => rw [hd.settled hgo, List.mem_cons]

lemma bringAlone_treats (hf : p.rules.find? rule.target = some rule) :
    p.Treats rule r (p.bringAlone r rule.target) := by
  unfold bringAlone
  split
  · next hidle => exact .idle (by simpa using hidle)
  · next hidle =>
    obtain ⟨hgo, _⟩ : r.failure = none ∧ rule.target ∉ r.settled := by simpa using hidle
    split
    · next hm => exact .known hgo (by simpa [Cache.wasMade] using hm)
    · next hm =>
      rw [hf]
      exact .dealt hgo (by simpa [Cache.wasMade] using hm) (deal_deals hf)

lemma bring_eq_bringAlone (hf : p.rules.find? rule.target = some rule)
    (hdeps : r.failure = none → ∀ u ∈ rule.deps, u ∈ r.settled) :
    p.bring [] r rule.target = p.bringAlone r rule.target := by
  unfold bringAlone
  split
  · next hidle => rw [bring, if_pos hidle]
  · next hidle =>
    obtain ⟨hgo, hset⟩ : r.failure = none ∧ rule.target ∉ r.settled := by simpa using hidle
    split
    · next hm => rw [bring, if_neg hidle, dif_neg List.not_mem_nil, if_pos hm]
    · next hm =>
      rw [hf]
      exact bring_eq_deal hgo hset (by simpa [Cache.wasMade] using hm) hf (hdeps hgo)

lemma settled_runAlone (hf : ∀ rule ∈ done, p.rules.find? rule.target = some rule)
    (hgo : (p.runAlone c w done).failure = none) :
    ∀ t ∈ targets done, t ∈ (p.runAlone c w done).settled := by
  induction done using List.reverseRecOn with
  | nil => simp [targets]
  | append_singleton done rule ih =>
    rw [runAlone_concat] at hgo ⊢
    have htreat := bringAlone_treats (r := p.runAlone c w done) (hf rule (by simp))
    have hdone := ih (fun q hq => hf q (by simp [hq])) (htreat.going hgo)
    intro t ht
    rw [htreat.mem_settled hgo]
    rw [targets, List.map_append, List.mem_append, List.map_singleton, List.mem_singleton] at ht
    exact ht.symm.imp_right (hdone t)

lemma run_eq_runAlone (hord : p.rules.Ordered goal order) (he : order = done ++ rest) :
    p.run c w done = p.runAlone c w done := by
  induction done using List.reverseRecOn generalizing rest with
  | nil => rfl
  | append_singleton done rule ih =>
    have he' : order = done ++ rule :: rest := by rw [he, List.append_assoc, List.singleton_append]
    have hf : ∀ q ∈ done, p.rules.find? q.target = some q := fun q hq =>
      hord.found q (by simp [he', hq])
    -- What the rule depends on comes before it, so it has been settled if all went well.
    rw [run_concat, runAlone_concat, ih he']
    refine bring_eq_bringAlone (hord.found rule (by simp [he'])) fun hgo u hu => ?_
    exact settled_runAlone hf hgo u ((hord.topological _ _ _ he').2 u hu)

lemma settled_run (hord : p.rules.Ordered goal order) (he : order = done ++ rest)
    (hgo : (p.run c w done).failure = none) : ∀ t ∈ targets done, t ∈ (p.run c w done).settled := by
  rw [run_eq_runAlone hord he] at hgo ⊢
  exact settled_runAlone (fun q hq => hord.found q (by simp [he, hq])) hgo

lemma outdatedOf_consults (p : Plan W) (r : Run W) (rule : Rule) :
    Consults r (p.outdatedOf r rule).2 :=
  (isDue_consults p r rule.target).trans (outdatedFrom_consults p rule.deps [] _).2

lemma settled_of_outdated (p : Plan W) (hdeps : ∀ u ∈ rule.deps, u ∈ r.settled) :
    ∀ u ∈ (p.outdatedOf r rule).1, u ∈ (p.outdatedOf r rule).2.settled :=
  outdatedFrom_settled p fun u hu => (isDue_consults p r rule.target).settled ▸ hdeps u hu

lemma bring_of_settled (h : t ∈ r.settled) : p.bring path r t = r := by
  rw [bring, if_pos (by simp [h])]

lemma Call.place (hord : p.rules.Ordered goal order) (h : p.Call c w order path r t) :
    t ∉ path ∧ (t ∈ r.settled ∨
      path = [] ∧ ∀ rule, p.rules.find? t = some rule → ∀ u ∈ rule.deps, u ∈ r.settled) := by
  induction h with
  | @outer done rest rule he hgo =>
    refine ⟨List.not_mem_nil, .inr ⟨rfl, fun q hq u hu => ?_⟩⟩
    obtain rfl := Option.some.inj ((hord.found rule (by simp [he])).symm.trans hq)
    exact settled_run hord he hgo u ((hord.topological _ _ _ he).2 u hu)
  | @inner path r r' rule done rest u _ hw he hr' _ _ ih =>
    -- Something settled gets no further, so the call around this one is one of the order.
    obtain ⟨rfl, hdeps⟩ := ih.2.resolve_left hw.unsettled
    have hall := settled_of_outdated p (hdeps rule hw.found)
    rw [he] at hall
    have hstay : r' = (p.outdatedOf r rule).2 := by
      rw [hr', bringAll_of_settled p _ _ _ fun v hv => .inr (hall v (by simp [hv]))]
    have hu : u ∈ r'.settled := hstay ▸ hall u (by simp)
    refine ⟨fun hm => hw.unsettled ?_, .inl hu⟩
    rwa [← List.mem_singleton.mp hm, ← (outdatedOf_consults p r rule).settled, ← hstay]

end Plan

namespace Workplace

variable {b : Workplace W} {i : Invocation W}

def runFrom (b : Workplace W) (c : Cache) (i : Invocation W) : Run W :=
  (b.plan i).run c i.world (b.order i)

/-- Whatever is remembered and whatever recipes do, a run never comes to a target in progress. When
it comes to the dependencies of a rule that are out of date they are settled, so the calls for them
change nothing, and the run is the same without them. -/
theorem inner_calls_idle (h : b.Accepts i) (c : Cache) :
    (∀ path r t, (b.plan i).Call c i.world (b.order i) path r t → t ∉ path) ∧
    (∀ path r rule, (b.plan i).Call c i.world (b.order i) path r rule.target →
      (b.plan i).Works path r rule →
      let out := (b.plan i).outdatedOf r rule
      (∀ u ∈ out.1, u ∈ out.2.settled ∧
        (b.plan i).bring (rule.target :: path) out.2 u = out.2) ∧
      (b.plan i).bringAll (rule.target :: path) out.2 out.1 = out.2 ∧
      (b.plan i).bring path r rule.target = (b.plan i).make out.2 rule out.1) ∧
    b.runFrom c i = (b.plan i).runAlone c i.world (b.order i) := by
  have hord := ordered h
  refine ⟨fun path r t hcall => (hcall.place hord).1, fun path r rule hcall hw => ?_,
    Plan.run_eq_runAlone hord (List.append_nil _).symm⟩
  obtain ⟨rfl, hdeps⟩ := (hcall.place hord).2.resolve_left hw.unsettled
  have hall := Plan.settled_of_outdated (b.plan i) (hdeps rule hw.found)
  have hloop := Plan.bringAll_of_settled (b.plan i) [rule.target] _ _ fun u hu => .inr (hall u hu)
  have hgo := (Plan.outdatedOf_consults (b.plan i) r rule).failure.trans hw.going
  refine ⟨fun u hu => ⟨hall u hu, Plan.bring_of_settled (hall u hu)⟩, hloop, ?_⟩
  rw [hw.bring_eq, hloop, if_neg (by simp [hgo])]

def library : Rule := ⟨"lib", [], some "rm main.c", .explicit, true⟩

def program : Rule := ⟨"app", ["main.c", "lib"], some "cc main.c lib", .explicit, true⟩

def tidying : Invocation Bench where
  rules := { rules := [library, program] }
  goal := "app"
  execute w _ := (⟨.ok .success, []⟩, { w with files := {} })
  world := source "int" []

def warm : Cache := { buildId := workplace.buildId, fresh := ["main.c"] }

abbrev tidyPlan : Plan Bench := workplace.plan tidying

lemma tidying_resolved : (workplace.resolution tidying).outcome =
    .ok [.file "main.c", library, program] := by
  cbv

lemma tidying_accepted : workplace.Accepts tidying := ⟨_, tidying_resolved⟩

lemma tidying_order : workplace.order tidying = [.file "main.c", library, program] := by
  rw [Workplace.order, tidying_resolved]
  rfl

lemma tidying_found (rule : Rule) (h : rule ∈ [.file "main.c", library, program]) :
    tidyPlan.rules.find? rule.target = some rule := by
  rw [← tidying_order] at h
  exact (ordered tidying_accepted).found rule h

def begun : Run Bench := ({ world := tidying.world, cache := warm } : Run Bench).skip "main.c"

lemma run_main : tidyPlan.run warm tidying.world [.file "main.c"] = begun := by
  have hf := tidying_found (.file "main.c") (by simp)
  have hthere : tidyPlan.fileExists tidying.world "main.c" = true :=
    source_there "int" []
  have hdue : tidyPlan.isDue { world := tidying.world, cache := warm } "main.c" =
      (false, { world := tidying.world, cache := warm }) := by cbv
  calc tidyPlan.run warm tidying.world [.file "main.c"]
      = tidyPlan.refresh { world := tidying.world, cache := warm } "main.c" :=
        Plan.bring_of_filename rfl List.not_mem_nil List.not_mem_nil List.not_mem_nil hf rfl
    _ = begun := by
        rw [Plan.refresh, if_neg (by simp [hthere]), hdue]
        rfl

structure Tidied (r : Run Bench) : Prop where
  going : r.failure = none
  settled : r.settled = ["lib", "main.c"]
  cache : r.cache = ⟨workplace.buildId, ["lib"], []⟩
  files : r.world.files = {}

lemma run_library : Tidied (tidyPlan.run warm tidying.world [.file "main.c", library]) := by
  have hf := tidying_found library (by simp)
  have hdue : tidyPlan.isDue begun library.target = (true, begun) := by cbv
  have hnone : library.deps = [] := rfl
  let listed : String → Report → Report := fun t rep =>
    { rep with executed := rep.executed ++ [t] }
  let given := tidyPlan.handOut begun (tidyPlan.jobFor library "rm main.c" [])
  have hmake : tidyPlan.make begun library [] = tidyPlan.record listed given library.target := rfl
  have hrun : tidyPlan.run warm tidying.world [.file "main.c", library] =
      tidyPlan.record listed given library.target := by
    refine (Plan.run_concat _ warm _ [.file "main.c"] library).trans ?_
    rw [run_main, Plan.bring_of_explicit rfl (by decide) List.not_mem_nil (by decide) hf rfl, hdue,
      if_pos rfl, hnone, Plan.outdatedFrom]
    dsimp only
    rw [Plan.bringAll, if_neg (by decide), hmake]
  have hrec : tidyPlan.Records listed library given (tidyPlan.record listed given library.target) :=
    Plan.record_records listed hf
  rw [hrun]
  generalize tidyPlan.record listed given library.target = r at hrec ⊢
  cases hrec with
  | digested _ => exact ⟨rfl, rfl, rfl, rfl⟩
  | undigestible he => cases (Outlook.digestOf_explicit _ rfl).symm.trans he

namespace Tidied

variable {r : Run Bench}

lemma notMem_made (h : Tidied r) {t : String} (ht : t ≠ "lib") : t ∉ r.cache.made := by
  rw [h.cache]
  exact fun hm => ht (List.mem_singleton.mp hm)

lemma main_stale (h : Tidied r) : (tidyPlan.view r).Stale "main.c" := by
  have hf := tidying_found (.file "main.c") (by simp)
  obtain ⟨e, he⟩ : ∃ e, Outlook.digestOf (tidyPlan.view r).sources (.file "main.c") = .error e := by
    change ∃ e, r.world.files.files.digest _ = .error e
    rw [h.files]
    exact ⟨_, rfl⟩
  exact Outlook.stale_of_not_trusted (h.notMem_made (by decide))
    (Outlook.not_trusted_iff.mpr (.undigestible hf he))

lemma program_due (h : Tidied r) : (tidyPlan.isDue r program.target).1 = true ∧
    tidyPlan.Asked r (tidyPlan.isDue r program.target).2 := by
  have hf := tidying_found program (by simp)
  have ha : tidyPlan.rules.Acyclic program.target :=
    (ordered tidying_accepted).acyclic (by rw [tidying_order]; decide)
  have hright : r.cache.Right (tidyPlan.view r) := by simp [h.cache, Cache.Right]
  obtain ⟨hdue, hasked⟩ := Plan.isDue_answers hright ha
  have hstale := Outlook.stale_of_not_trusted (o := tidyPlan.view r) (h.notMem_made (by decide))
    (Outlook.not_trusted_of_always hf rfl)
  exact ⟨hdue.mpr (.inr hstale), hasked⟩

lemma program_works (h : Tidied r) : tidyPlan.Works [] r program where
  going := h.going
  unsettled := h.settled ▸ by decide
  idle := List.not_mem_nil
  unmade := h.notMem_made (by decide)
  found := tidying_found program (by simp)
  explicit := rfl
  due := h.program_due.1

lemma outdatedOf_program (h : Tidied r) :
    (tidyPlan.outdatedOf r program).1 = ["main.c", "lib"] := by
  obtain ⟨-, hasked⟩ := h.program_due
  have ha : tidyPlan.rules.Acyclic "main.c" :=
    (ordered tidying_accepted).acyclic (by rw [tidying_order]; decide)
  have hmain : (tidyPlan.ask (tidyPlan.isDue r program.target).2 "main.c").1 = true := by
    refine (Plan.ask_answers (hasked.view_eq ▸ hasked.cache.right) ha).1.mpr ?_
    exact hasked.view_eq ▸ h.main_stale
  have hunforced : tidyPlan.options.force = false := rfl
  have hdeps : program.deps = ["main.c", "lib"] := rfl
  simp [Plan.outdatedOf, Plan.outdatedFrom, hunforced, hdeps, hmain, Cache.wasMade,
    hasked.cache.made, h.cache, (Plan.ask_consults _ _ _).made]

end Tidied

theorem inner_calls_idle_tidying : ∃ r,
    tidyPlan.Call warm tidying.world (workplace.order tidying) ["app"] r "main.c" ∧
    "main.c" ∈ r.settled ∧ tidyPlan.bring ["app"] r "main.c" = r := by
  have h := run_library
  have hcall : tidyPlan.Call warm tidying.world (workplace.order tidying) []
      (tidyPlan.run warm tidying.world [.file "main.c", library]) program.target :=
    .outer tidying_order h.going
  have hconsults := Plan.outdatedOf_consults tidyPlan
    (tidyPlan.run warm tidying.world [.file "main.c", library]) program
  obtain ⟨-, hidle, -⟩ := inner_calls_idle tidying_accepted warm
  obtain ⟨hsettled, hbring⟩ :=
    (hidle _ _ _ hcall h.program_works).1 "main.c" (by simp [h.outdatedOf_program])
  refine ⟨_, .inner hcall h.program_works (h.outdatedOf_program.trans (List.nil_append _).symm)
    ?_ ?_ ?_, hsettled, hbring⟩
  · rw [Plan.bringAll]
  · exact hconsults.failure.trans h.going
  · exact hconsults.made ▸ h.notMem_made (by decide)

end Workplace
end Freshen
