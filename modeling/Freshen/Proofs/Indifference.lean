import Freshen.Proofs.Likeness

/-! What makes no difference to a run: anything that its goal does not reach, and whether the
digests that it saves are kept. -/

namespace Freshen

open Bench

variable {W W' : Type} {b : Workplace W} {b' : Workplace W'} {i : Invocation W}
  {i' : Invocation W'}

lemma Surroundings.Separate.load_replay {s : Surroundings W} {id : String} {es : List Event}
    {t : String} (h : s.Separate) (hkeep : ∀ w j, s.load (s.execute w j).2 = s.load w) (w : W)
    (ht : t ∉ (saved es).map (·.1)) : s.load (s.replay id w es) id t = s.load w id t := by
  refine replay_keeps (f := fun w => s.load w id t) (fun w e he => ?_) w
  cases e with
  | handedOut j => exact congrFun (congrFun (hkeep w j) id) t
  | recorded u d =>
    cases d with
    | none => rfl
    | some d =>
      refine h.load_save _ _ _ _ _ _ fun heq => ht ?_
      rw [Prod.mk.injEq] at heq
      exact heq.2 ▸ mem_saved.mpr ⟨d, he⟩
  | skipped _ | printed _ | noticed _ => rfl

namespace Workplace

/-- One goal under one build id, by the same rules for all that it reaches. After the same deeds its
source files look the same and recipes come to the same end. -/
structure Parallel (b : Workplace W) (i : Invocation W) (b' : Workplace W') (i' : Invocation W') :
    Prop where
  root : b'.root = b.root
  buildId : b'.buildId = b.buildId
  goal : i'.goal = i.goal
  options : i'.options = i.options
  rules : i.rules.AgreeFrom i'.rules i.goal
  sight : ∀ es t, i.rules.SourceOf i.goal t →
    (b'.sources (b'.replay i' es)).sight t = (b.sources (b.replay i es)).sight t
  outcome : ∀ es j,
    (i'.execute (b'.replay i' es) j).1.outcome = (i.execute (b.replay i es) j).1.outcome

namespace Parallel

variable (h : b.Parallel i b' i')
include h

lemma resolution : (b'.resolution i').outcome = (b.resolution i).outcome := by
  rw [Workplace.resolution, Workplace.resolution, h.goal]
  refine h.rules.resolve fun hf => Sources.fileExists_congr (h.sight [] i.goal ⟨.refl _, ?_⟩)
  rw [RuleStore.ruleFor, hf]
  rfl

lemma order : b'.order i' = b.order i := by
  rw [Workplace.order, h.resolution, Workplace.order]

lemma accepts (ha : b.Accepts i) : b'.Accepts i' := by
  rwa [Accepts, h.resolution]

variable (hloads : ∀ es t, i.rules.Reaches i.goal t → t ∉ (saved es).map (·.1) →
  b'.stored (b'.replay i' es) t = b.stored (b.replay i es) t)
include hloads

lemma alike (ha : b.Accepts i) :
    (b.plan i).Alike (b'.plan i') b.buildId i.goal i.world i'.world := by
  have hreplay : ∀ es,
      (b'.plan i').surroundings.replay b.buildId i'.world es = b'.replay i' es := fun es => by
    rw [replay, h.buildId]
  refine ⟨h.root, h.options, fun u hu => ?_, fun es t ht => ?_, fun es j => ?_,
    fun es t ht hs => ?_⟩
  · have hmem := (ordered ha).mem_iff.mpr hu
    have hord' := ordered (h.accepts ha)
    rw [(ordered ha).find?_eq hmem, hord'.find?_eq (h.order ▸ hmem), plan_ruleFor, plan_ruleFor,
      (h.rules.of_reaches (plan_reaches.mp hu)).ruleFor]
  · rw [hreplay]
    exact h.sight es t (plan_sourceOf.mp ht)
  · rw [hreplay]
    exact h.outcome es j
  · have hl := hloads es t (plan_reaches.mp ht) hs
    rw [stored, h.buildId] at hl
    rw [hreplay]
    exact hl

lemma mirrors :
    (b.plan i).Mirrors (b'.plan i') b.buildId i.world i'.world (b.run i) (b'.run i') := by
  rw [run, run, h.order, h.buildId]
  by_cases ha : b.Accepts i
  · have hord' := ordered (h.accepts ha)
    rw [h.order, h.goal] at hord'
    exact Plan.run_mirrors (h.alike hloads ha) (ordered ha) hord'
  · have hnone : b.order i = [] := by
      rw [Workplace.order]
      cases ho : (b.resolution i).outcome with
      | ok order => exact (ha ⟨order, ho⟩).elim
      | error _ => rfl
    rw [hnone]
    exact .start ..

end Parallel

end Workplace

namespace Bench

lemma files_replay {b : Workplace Bench} {i : Invocation Bench} {outcome : Job → Outcome}
    (hb : ∀ w id t d, (b.surroundings.save w id t d).2.files = w.files)
    (h : i.execute = play outcome) (es : List Event) :
    (b.replay i es).files = i.world.files := by
  refine Surroundings.replay_keeps (f := Bench.files) (fun w e _ => ?_) i.world
  cases e with
  | handedOut j =>
    change (i.execute w j).2.files = w.files
    rw [h]
    rfl
  | recorded t d =>
    cases d with
    | none => rfl
    | some d => exact hb w b.buildId t d.hex
  | skipped _ | printed _ | noticed _ => rfl

lemma sight_main {w : Bench} {text : String} {rest : List (Path × ByteArray)}
    (h : w.files = ⟨(⟨"main.c"⟩, text.toUTF8) :: rest⟩) :
    (workplace.sources w).sight "main.c" = (true, .ok (.ok text.toUTF8)) := by
  have hg : w.files.get? ((workplace.sources w).pathOf "main.c") = some text.toUTF8 := by
    rw [h]
    exact get?_main text.toUTF8 rest w
  exact Prod.ext (congrArg Option.isSome hg) (FileSet.openRead_of_some hg)

def crowded : Invocation Bench where
  rules := (programs.declare "ring" ["gnir"] none).declare "gnir" ["ring"] none
  goal := "app"
  execute := play fail
  world := ⟨⟨[(⟨"main.c"⟩, "int".toUTF8), (⟨"test"⟩, "".toUTF8)]⟩,
    [((workplace.buildId, "test"), ""), (("other.toml", "app"), "")]⟩

lemma crowded_parallel :
    workplace.Parallel (invoke "app" {} fail (source "int" [])) workplace crowded where
  root := rfl
  buildId := rfl
  goal := rfl
  options := rfl
  rules u hu := by
    rcases (reaches_iff (.inl rfl)).mp hu with rfl | rfl
    · rfl
    · rfl
  sight es t ht := by
    obtain rfl := sourceOf (.inl rfl) ht
    rw [sight_main (files_replay (fun _ _ _ _ => rfl) rfl es),
      sight_main (files_replay (fun _ _ _ _ => rfl) rfl es)]
  outcome _ _ := rfl

def refusing : Workplace Bench :=
  { workplace with surroundings := { workplace.surroundings with
      save := fun w _ _ _ => (.error (.refused "save refused"), w) } }

lemma refusing_parallel : workplace.Parallel (invoke "app" {} fail (source "int" [])) refusing
    (invoke "app" {} fail (source "int" [])) where
  root := rfl
  buildId := rfl
  goal := rfl
  options := rfl
  rules _ _ := rfl
  sight es t _ := by
    let i := invoke "app" {} fail (source "int" [])
    have hw : (refusing.replay i es).files = (workplace.replay i es).files :=
      (files_replay (fun _ _ _ _ => rfl) rfl es).trans
        (files_replay (fun _ _ _ _ => rfl) rfl es).symm
    exact congrArg (fun f : FileSet => Sources.sight ⟨f.files, ⟨""⟩⟩ t) hw
  outcome _ _ := rfl

end Bench

namespace Workplace

/-- A build depends on its goal alone: on the rules, the source files and the stored digests of what
the goal reaches. -/
theorem run_confined (h : b.Parallel i b' i') (hsep : b.surroundings.Separate)
    (hsep' : b'.surroundings.Separate) (hkeep : b.KeepsDigests i) (hkeep' : b'.KeepsDigests i')
    (hstored : ∀ t, i.rules.Reaches i.goal t → b'.stored i'.world t = b.stored i.world t) :
    (b'.resolution i').outcome = (b.resolution i).outcome ∧
      (b'.run i').jobs = (b.run i).jobs ∧ (b'.run i').result = (b.run i).result ∧
      saved (b'.run i').trace = saved (b.run i).trace := by
  have hm := h.mirrors fun es t ht hs => by
    have hl : b.stored (b.replay i es) t = b.stored i.world t :=
      (separate hsep i).load_replay hkeep i.world hs
    have hl' : b'.stored (b'.replay i' es) t = b'.stored i'.world t :=
      (separate hsep' i').load_replay hkeep' i'.world hs
    rw [hl, hl', hstored t ht]
  exact ⟨h.resolution, hm.jobs, hm.result, hm.saved⟩

theorem run_confined_crowded : (workplace.run crowded).result = .error (.recipeFailed "app" 1) := by
  obtain ⟨_, _, hresult, _⟩ := run_confined crowded_parallel Bench.lawful.toSeparate
    Bench.lawful.toSeparate (fun _ _ => rfl) (fun _ _ => rfl) fun t ht => by
      rcases (reaches_iff (.inl rfl)).mp ht with rfl | rfl
      · rfl
      · rfl
  rw [hresult]
  exact Run.result_eq_error.mpr (compile_fails rfl)

/-- Nothing that a run has tried to save is looked up again in it: it goes on in the same way if
some of its saves are refused. -/
theorem run_unshaken (h : b.Parallel i b' i')
    (hloads : ∀ es t, i.rules.Reaches i.goal t → t ∉ (saved es).map (·.1) →
      b'.stored (b'.replay i' es) t = b.stored (b.replay i es) t) :
    (b'.run i').jobs = (b.run i).jobs ∧ (b'.run i').report = (b.run i).report ∧
      (b'.run i').result = (b.run i).result :=
  ⟨(h.mirrors hloads).jobs, (h.mirrors hloads).report, (h.mirrors hloads).result⟩

theorem run_unshaken_refusing :
    (refusing.run (invoke "app" {} fail (source "int" []))).result =
      .error (.recipeFailed "app" 1) := by
  let i := invoke "app" {} fail (source "int" [])
  have hsep : refusing.surroundings.Separate := ⟨fun _ _ _ _ => rfl, fun _ _ _ _ _ _ _ => rfl⟩
  obtain ⟨_, _, hresult⟩ := run_unshaken refusing_parallel fun es t _ hs => by
    have hl : workplace.stored (workplace.replay i es) t = workplace.stored i.world t :=
      (separate Bench.lawful.toSeparate i).load_replay (fun _ _ => rfl) i.world hs
    have hl' : refusing.stored (refusing.replay i es) t = refusing.stored i.world t :=
      (separate hsep i).load_replay (fun _ _ => rfl) i.world hs
    rw [hl, hl']
    rfl
  rw [hresult]
  exact Run.result_eq_error.mpr (compile_fails rfl)

end Workplace
end Freshen
