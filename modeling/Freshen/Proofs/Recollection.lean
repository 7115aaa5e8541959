import Freshen.Proofs.Bench

/-! A cache that is asked, told of what is made and asked again, while files change before things
are made. What it remembers makes no difference to its answers. -/

namespace Freshen

open Bench

variable {W : Type}

inductive Use (W : Type)
  | asked (t : String)
  | recorded (t : String)
  | changed (w : W)

namespace Use

def isAsked : Use W → Bool
  | asked _ => true
  | recorded _ | changed _ => false

/-- No file has changed since something was last recorded. The latest use comes first. -/
def Steady : List (Use W) → Prop
  | [] => True
  | asked _ :: us => Steady us
  | recorded _ :: _ => True
  | changed _ :: _ => False

def unasked (us : List (Use W)) : List (Use W) := us.filter fun u => !u.isAsked

end Use

namespace Surroundings

variable (s : Surroundings W) (root : Path) (rules : RuleStore) (id : String) (w : W)

def after : List (Use W) → Cache × W
  | [] => ({ buildId := id }, w)
  | .asked t :: us => ((s.isStale root rules (after us).1 (after us).2 t).2.1, (after us).2)
  | .recorded t :: us =>
    ((s.record root rules (after us).1 (after us).2 t).cache,
      (s.record root rules (after us).1 (after us).2 t).world)
  | .changed w' :: us => ((after us).1, w')

def answer (us : List (Use W)) (t : String) : Bool :=
  (s.isStale root rules (s.after root rules id w us).1 (s.after root rules id w us).2 t).1

/-- Nothing is asked between a change of files and the next recording, and stored digests change by
recordings only. -/
inductive Orderly : List (Use W) → Prop
  | new : Orderly []
  | asked {us : List (Use W)} {t : String} : Orderly us → Use.Steady us → rules.Acyclic t →
      Orderly (.asked t :: us)
  | recorded {us : List (Use W)} {t : String} {d : Option Digest} : Orderly us →
      (s.record root rules (s.after root rules id w us).1 (s.after root rules id w us).2 t).result =
        .ok d → Orderly (.recorded t :: us)
  | changed {us : List (Use W)} {w' : W} : Orderly us →
      s.load w' = s.load (s.after root rules id w us).2 → Orderly (.changed w' :: us)

variable {s root rules id w} {us us' : List (Use W)} {t x : String} {c c' : Cache}

lemma record_world_congr (h : c.buildId = c'.buildId) :
    (s.record root rules c w t).world = (s.record root rules c' w t).world := by
  have hid : (c.noteMade t).buildId = (c'.noteMade t).buildId := h
  unfold record
  dsimp only
  rw [hid]
  split
  · rfl
  · split
    · rfl
    · split <;> rfl

lemma after_buildId (us : List (Use W)) : (s.after root rules id w us).1.buildId = id := by
  induction us with
  | nil => rfl
  | cons u us ih =>
    cases u with
    | asked t => exact ih
    | recorded t =>
      rw [after, record_cache]
      exact ih
    | changed w' => exact ih

lemma mem_after_made (us : List (Use W)) :
    t ∈ (s.after root rules id w us).1.made ↔ Use.recorded t ∈ us := by
  induction us with
  | nil => simp [after]
  | cons u us ih =>
    cases u with
    | asked u =>
      rw [List.mem_cons, or_iff_right (by simp), ← ih]
      rfl
    | recorded u =>
      rw [after, record_cache, Cache.mem_noteMade, ih, List.mem_cons, Use.recorded.injEq]
    | changed w' =>
      rw [List.mem_cons, or_iff_right (by simp), ← ih]
      rfl

lemma after_unasked (us : List (Use W)) :
    (s.after root rules id w (Use.unasked us)).2 = (s.after root rules id w us).2 := by
  induction us with
  | nil => rfl
  | cons u us ih =>
    cases u with
    | asked t => exact ih
    | recorded t =>
      change (s.record root rules _ (s.after root rules id w (Use.unasked us)).2 t).world = _
      rw [ih, record_world_congr ((after_buildId _).trans (after_buildId us).symm)]
      rfl
    | changed w' => rfl

lemma mem_unasked : Use.recorded t ∈ Use.unasked us ↔ Use.recorded t ∈ us := by
  simp [Use.unasked, Use.isAsked]

lemma Orderly.right (h : s.Orderly root rules id w us) (hs : Use.Steady us) :
    (s.after root rules id w us).1.Right
      (s.outlook root rules (s.after root rules id w us).1 (s.after root rules id w us).2) := by
  induction h with
  | new =>
    intro t ht
    cases ht
  | asked _ hs' ha ih => exact (isStale_answers (ih hs') ha).2.right
  | recorded _ _ _ =>
    -- Whatever was remembered is forgotten, so it matters neither what was saved nor where.
    intro t ht
    rw [after, record_cache] at ht
    cases ht
  | changed _ _ _ => exact hs.elim

lemma Orderly.answer_iff (h : s.Orderly root rules id w us) (hs : Use.Steady us)
    (ha : rules.Acyclic t) :
    s.answer root rules id w us t = true ↔
      Use.recorded t ∉ us ∧ ∃ x, rules.Reaches t x ∧
        (x ≠ t ∧ Use.recorded x ∈ us ∨ Use.recorded x ∉ us ∧
          (s.outlook root rules { buildId := id } (s.after root rules id w us).2).Doubt x) := by
  have htrust : ∀ x, (s.outlook root rules (s.after root rules id w us).1
      (s.after root rules id w us).2).Trusted x ↔
      (s.outlook root rules { buildId := id } (s.after root rules id w us).2).Trusted x := by
    intro x
    refine Outlook.trusted_congr rfl rfl ?_ fun _ => rfl
    change s.load _ (s.after root rules id w us).1.buildId x = _
    rw [after_buildId]
    rfl
  have hmade : ∀ x, x ∈ (s.outlook root rules (s.after root rules id w us).1
      (s.after root rules id w us).2).made ↔ Use.recorded x ∈ us := fun _ => mem_after_made us
  have hdoubt : ∀ x, (s.outlook root rules (s.after root rules id w us).1
      (s.after root rules id w us).2).Doubt x ↔
      (s.outlook root rules { buildId := id } (s.after root rules id w us).2).Doubt x := by
    intro x
    rw [← Outlook.not_trusted_iff, ← Outlook.not_trusted_iff, htrust]
  rw [answer, (isStale_answers (h.right hs) ha).1, Outlook.stale_iff_doubt]
  simp only [hmade, hdoubt]
  rfl

/-- A name is stale just if it was not recorded and reaches another that was, or one that was not
and is out of date by itself as things are now. What was asked before makes no difference. -/
theorem isStale_after_iff (h : s.Orderly root rules id w us) (hs : Use.Steady us)
    (ha : rules.Acyclic t) :
    (s.answer root rules id w us t = true ↔
      Use.recorded t ∉ us ∧ ∃ x, rules.Reaches t x ∧
        (x ≠ t ∧ Use.recorded x ∈ us ∨ Use.recorded x ∉ us ∧
          (s.outlook root rules { buildId := id } (s.after root rules id w us).2).Doubt x)) ∧
    ∀ us', s.Orderly root rules id w us' → Use.Steady us' → Use.unasked us' = Use.unasked us →
      s.answer root rules id w us' t = s.answer root rules id w us t := by
  refine ⟨h.answer_iff hs ha, fun us' h' hs' he => ?_⟩
  have hworld : (s.after root rules id w us').2 = (s.after root rules id w us).2 := by
    rw [← after_unasked us', he, after_unasked]
  have hmem : ∀ x, Use.recorded x ∈ us' ↔ Use.recorded x ∈ us := by
    intro x
    rw [← mem_unasked, he, mem_unasked]
  rw [Bool.eq_iff_iff, h'.answer_iff hs' ha, h.answer_iff hs ha, hworld]
  simp only [hmem]

end Surroundings

namespace Bench

def resolved : RuleStore := (workplace.plan (invoke "app" {} succeed (source "1" []))).rules

lemma resolved_ordered : resolved.Ordered "app"
    (workplace.order (invoke "app" {} succeed (source "1" []))) :=
  Workplace.ordered (accepts (.inl rfl))

lemma resolved_reaches : resolved.Reaches "app" "main.c" :=
  Workplace.plan_reaches.mpr ((reaches_iff (.inl rfl)).mpr (.inl rfl))

def edited : List (Use Bench) :=
  [.recorded "main.c", .changed (source "2" []), .asked "main.c", .asked "app"]

lemma edited_orderly :
    workplace.surroundings.Orderly ⟨""⟩ resolved workplace.buildId (source "1" []) edited := by
  have happ : resolved.Acyclic "app" := resolved_ordered.acyclic resolved_ordered.goal_mem
  have hmem := resolved_ordered.mem_iff.mpr resolved_reaches
  have hmain : resolved.Acyclic "main.c" := resolved_ordered.acyclic hmem
  obtain ⟨d, hd⟩ := readable (source_there "2" [])
  have hfile : resolved.ruleFor "main.c" = .file "main.c" := Workplace.plan_ruleFor _ _ _
  have hdigest : Outlook.digestOf (workplace.sources (source "2" [])) (.file "main.c") = .ok d := hd
  exact .recorded (.changed (.asked (.asked .new trivial happ) trivial hmain) rfl)
    (Surroundings.record_of_digest (resolved_ordered.find?_eq hmem) (hfile ▸ hdigest)).1

end Bench

namespace Surroundings

theorem isStale_after_edited :
    Use.Steady edited ∧ resolved.Acyclic "app" ∧
      workplace.surroundings.answer ⟨""⟩ resolved workplace.buildId (source "1" []) edited "app" =
        true := by
  have happ : resolved.Acyclic "app" := resolved_ordered.acyclic resolved_ordered.goal_mem
  refine ⟨trivial, happ, (isStale_after_iff edited_orderly trivial happ).1.mpr ⟨?_, ?_⟩⟩
  · simp [edited]
  · exact ⟨"main.c", resolved_reaches, .inl ⟨by decide, by simp [edited]⟩⟩

end Surroundings
end Freshen
