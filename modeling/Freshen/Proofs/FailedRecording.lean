import Freshen.Proofs.CyclicRules
import Freshen.Proofs.Recollection

/-! A recording that fails because the file of its target cannot be digested. Nothing is stored, and
other targets stand as before; but the target counts as made, and from then on it is not stale. -/

namespace Freshen

open Bench

variable {W : Type}

lemma RuleStore.acyclic_of_leaf {s : RuleStore} {t : String} (h : ∀ u, ¬ s.Step t u) :
    s.Acyclic t := by
  intro a b ha hs
  cases ha with
  | refl => exact (h b hs).elim
  | step hs' _ => exact (h _ hs').elim

lemma Outlook.stale_of_noted {o o' : Outlook} {t u : String} (hr : o'.rules = o.rules)
    (htrust : ∀ x, o'.Trusted x ↔ o.Trusted x) (hmade : ∀ x, x ∈ o'.made ↔ x = t ∨ x ∈ o.made)
    (ht : ¬ o.Trusted t) : o'.Stale u ↔ u ≠ t ∧ o.Stale u := by
  have hx : ∀ x, x ∈ o'.made ∨ ¬ o'.Trusted x ↔ x ∈ o.made ∨ ¬ o.Trusted x := by
    intro x
    rw [hmade, htrust]
    refine ⟨?_, Or.imp_left .inr⟩
    rintro ((rfl | hx) | hx)
    · exact .inr ht
    · exact .inl hx
    · exact .inr hx
  rw [Stale, Stale, hmade, hr, not_or, and_assoc]
  simp only [hx]

namespace Use

def AllAsked (us : List (Use W)) : Prop := ∀ u ∈ us, u.isAsked = true

lemma AllAsked.steady {qs : List (Use W)} (hq : AllAsked qs) (us : List (Use W)) :
    Steady (qs ++ us) ↔ Steady us := by
  induction qs with
  | nil => rfl
  | cons q qs ih =>
    have hrest := ih fun u hu => hq u (List.mem_cons_of_mem _ hu)
    cases q with
    | asked t => exact hrest
    | recorded t => cases hq _ List.mem_cons_self
    | changed w => cases hq _ List.mem_cons_self

lemma AllAsked.recorded_mem {qs us : List (Use W)} (hq : AllAsked qs) (t : String) :
    recorded t ∈ qs ++ us ↔ recorded t ∈ us := by
  rw [List.mem_append, or_iff_right]
  intro ht
  cases hq _ ht

end Use

namespace Surroundings

variable {s : Surroundings W} {root : Path} {rules : RuleStore} {id : String} {w : W}
  {us qs : List (Use W)} {t u : String} {e : DigestError}

def outlookAfter (s : Surroundings W) (root : Path) (rules : RuleStore) (id : String) (w : W)
    (us : List (Use W)) : Outlook :=
  s.outlook root rules (s.after root rules id w us).1 (s.after root rules id w us).2

lemma rightApart_after (hs : Use.Steady us) :
    s.RightApart root rules (s.after root rules id w us).1 (s.after root rules id w us).2 := by
  induction us with
  | nil =>
    intro t _ ht
    cases ht
  | cons u us ih =>
    cases u with
    | asked t => exact (isStale_apart (ih hs) t).2
    | recorded t =>
      intro u _ hu
      rw [after, record_cache] at hu
      cases hu
    | changed w' => exact hs.elim

lemma answer_acyclic (hs : Use.Steady us) (ha : rules.Acyclic u) :
    s.answer root rules id w us u = true ↔ (s.outlookAfter root rules id w us).Stale u :=
  (isStale_apart (rightApart_after hs) u).1 ha

lemma outlookAfter_asked (hq : Use.AllAsked qs) (us : List (Use W)) :
    s.outlookAfter root rules id w (qs ++ us) = s.outlookAfter root rules id w us := by
  induction qs with
  | nil => rfl
  | cons q qs ih =>
    have hrest := ih fun u hu => hq u (List.mem_cons_of_mem _ hu)
    cases q with
    | asked t => exact hrest
    | recorded t => cases hq _ List.mem_cons_self
    | changed w => cases hq _ List.mem_cons_self

lemma answer_recorded : s.answer root rules id w (.recorded t :: us) u = true ↔
    (s.outlookAfter root rules id w (.recorded t :: us)).Stale u := by
  refine isStale_forgotten ?_
  rw [after, record_cache]
  rfl

lemma answer_of_recorded (h : Use.recorded t ∈ us) : s.answer root rules id w us t = false := by
  by_contra hn
  exact (isStale_sound (Bool.not_eq_false _ ▸ hn)).1 ((mem_after_made us).mpr h)

lemma undigestible_of_record {c : Cache} (he : (s.record root rules c w t).result = .error e) :
    ∃ r, rules.find? t = some r ∧ Outlook.digestOf (s.sources root w) r = .error e := by
  cases hr : rules.find? t with
  | none =>
    simp only [record, hr] at he
    cases he
  | some r => exact ⟨r, rfl, digestOf_of_record_error hr he⟩

lemma after_failure (he : (s.record root rules (s.after root rules id w us).1
      (s.after root rules id w us).2 t).result = .error e) :
    s.after root rules id w (.recorded t :: us) =
      ((s.after root rules id w us).1.noteMade t, (s.after root rules id w us).2) := by
  obtain ⟨r, hr, hd⟩ := undigestible_of_record he
  rw [after, record_of_error hr hd]

lemma stale_after_failure (he : (s.record root rules (s.after root rules id w us).1
      (s.after root rules id w us).2 t).result = .error e) :
    (s.outlookAfter root rules id w (.recorded t :: us)).Stale u ↔
      u ≠ t ∧ (s.outlookAfter root rules id w us).Stale u := by
  obtain ⟨r, hr, hd⟩ := undigestible_of_record he
  have hdoubt : (s.outlookAfter root rules id w us).Doubt t := .undigestible hr hd
  rw [outlookAfter, after_failure he]
  exact Outlook.stale_of_noted rfl (fun _ => Iff.rfl) (fun x => Cache.mem_noteMade _ t x)
    (Outlook.not_trusted_iff.mpr hdoubt)

lemma stale_before_failure (hnew : Use.recorded t ∉ us)
    (he : (s.record root rules (s.after root rules id w us).1 (s.after root rules id w us).2
      t).result = .error e) : (s.outlookAfter root rules id w us).Stale t := by
  obtain ⟨r, hr, hd⟩ := undigestible_of_record he
  exact Outlook.stale_of_not_trusted (fun hm => hnew ((mem_after_made us).mp hm))
    (Outlook.not_trusted_iff.mpr (.undigestible hr hd))

/-- A recording that fails stores nothing. Still its target counts as made: a source file, which was
stale, is not stale any more, whatever is asked later. All other targets are as stale as before, as
long as no cycle can be reached from them. With a cycle, what was wrongly remembered is
forgotten. -/
theorem answers_after_failure (hs : Use.Steady us) (hnew : Use.recorded t ∉ us)
    (he : (s.record root rules (s.after root rules id w us).1 (s.after root rules id w us).2
      t).result = .error e) :
    (s.after root rules id w (.recorded t :: us)).2 = (s.after root rules id w us).2 ∧
    (∀ qs, Use.AllAsked qs →
      (∀ u, (s.after root rules id w (qs ++ .recorded t :: us)).1.wasMade u =
        ((s.after root rules id w (qs ++ us)).1.wasMade u || u = t)) ∧
      s.answer root rules id w (qs ++ .recorded t :: us) t = false ∧
      ((∀ d, ¬ rules.Step t d) → s.answer root rules id w (qs ++ us) t = true) ∧
      ∀ u, u ≠ t → rules.Acyclic u → s.answer root rules id w (qs ++ .recorded t :: us) u =
        s.answer root rules id w (qs ++ us) u) ∧
    ∀ u, u ≠ t → (s.answer root rules id w (.recorded t :: us) u =
        s.answer root rules id w us u ↔
      ((s.outlookAfter root rules id w us).Stale u → s.answer root rules id w us u = true)) := by
  -- Away from cycles no question changes what is answered to the next one.
  have hbefore : ∀ qs, Use.AllAsked qs → ∀ u, rules.Acyclic u →
      (s.answer root rules id w (qs ++ us) u = true ↔
        (s.outlookAfter root rules id w us).Stale u) := fun qs hq u ha => by
    rw [answer_acyclic ((hq.steady us).mpr hs) ha, outlookAfter_asked hq]
  have hafter : ∀ qs, Use.AllAsked qs → ∀ u, rules.Acyclic u →
      (s.answer root rules id w (qs ++ .recorded t :: us) u = true ↔
        u ≠ t ∧ (s.outlookAfter root rules id w us).Stale u) := fun qs hq u ha => by
    have hsteady := (hq.steady (.recorded t :: us)).mpr trivial
    rw [answer_acyclic hsteady ha, outlookAfter_asked hq, stale_after_failure he]
  refine ⟨by rw [after_failure he], fun qs hq => ⟨fun u => ?marked, ?target, ?source, ?others⟩,
    fun u hu => ?_⟩
  case marked =>
    rw [Bool.eq_iff_iff, Bool.or_eq_true]
    simp only [Cache.wasMade, decide_eq_true_eq, mem_after_made, hq.recorded_mem, List.mem_cons,
      Use.recorded.injEq]
    exact or_comm
  case target => exact answer_of_recorded (by simp)
  case source =>
    intro hleaf
    exact (hbefore qs hq t (RuleStore.acyclic_of_leaf hleaf)).mpr (stale_before_failure hnew he)
  case others =>
    intro u hu ha
    rw [Bool.eq_iff_iff, hafter qs hq u ha, hbefore qs hq u ha, and_iff_right hu]
  · have hnow : s.answer root rules id w (.recorded t :: us) u = true ↔
        (s.outlookAfter root rules id w us).Stale u := by
      rw [answer_recorded, stale_after_failure he, and_iff_right hu]
    refine ⟨fun heq hst => heq ▸ hnow.mpr hst, fun h => ?_⟩
    rw [Bool.eq_iff_iff, hnow]
    exact ⟨h, isStale_sound⟩

end Surroundings

namespace Bench

lemma resolved_find?_main : resolved.find? "main.c" = some (.file "main.c") := by
  have hmem := resolved_ordered.mem_iff.mpr resolved_reaches
  have hfile : resolved.ruleFor "main.c" = .file "main.c" := Workplace.plan_ruleFor _ _ _
  rw [resolved_ordered.find?_eq hmem, hfile]

lemma record_main_fails (c : Cache) : ∃ e,
    (workplace.surroundings.record ⟨""⟩ resolved c ({} : Bench) "main.c").result = .error e := by
  have hopen : (workplace.sources ({} : Bench)).files.openRead
        ((workplace.sources ({} : Bench)).pathOf "main.c") =
      .error (.absent ((workplace.sources ({} : Bench)).pathOf "main.c")) :=
    FileSet.openRead_of_none rfl
  have hd : Outlook.digestOf (workplace.sources ({} : Bench)) (.file "main.c") =
      .error (.opening ((workplace.sources ({} : Bench)).pathOf "main.c")
        (.absent ((workplace.sources ({} : Bench)).pathOf "main.c"))) := by
    change (workplace.sources ({} : Bench)).files.digest
      ((workplace.sources ({} : Bench)).pathOf "main.c") = _
    rw [Files.digest, hopen]
  exact ⟨_, congrArg Recording.result (Surroundings.record_of_error resolved_find?_main hd)⟩

end Bench

namespace Surroundings

theorem answers_after_failure_missing :
    (∃ e, (workplace.surroundings.record ⟨""⟩ resolved
      (workplace.surroundings.after ⟨""⟩ resolved workplace.buildId {} [.asked "app"]).1 {}
      "main.c").result = .error e) ∧
    (workplace.surroundings.answer ⟨""⟩ resolved workplace.buildId {}
      [.asked "main.c", .recorded "main.c", .asked "app"] "app" =
        workplace.surroundings.answer ⟨""⟩ resolved workplace.buildId {}
          [.asked "main.c", .asked "app"] "app") ∧
    workplace.surroundings.answer ⟨""⟩ resolved workplace.buildId {} [.asked "app"] "main.c" =
      true ∧
    workplace.surroundings.answer ⟨""⟩ resolved workplace.buildId {}
      [.recorded "main.c", .asked "app"] "main.c" = false := by
  obtain ⟨e, he⟩ := record_main_fails
    (workplace.surroundings.after ⟨""⟩ resolved workplace.buildId {} [.asked "app"]).1
  have happ : resolved.Acyclic "app" := resolved_ordered.acyclic resolved_ordered.goal_mem
  have hleaf : ∀ d, ¬ resolved.Step "main.c" d := by
    intro d hd
    rw [RuleStore.Step, RuleStore.ruleFor_of_find? resolved_find?_main] at hd
    cases hd
  have hsteady : Use.Steady [Use.asked (W := Bench) "app"] := trivial
  obtain ⟨-, hlater, -⟩ := answers_after_failure hsteady (by simp) he
  obtain ⟨-, -, -, hother⟩ := hlater [.asked "main.c"] (by simp [Use.AllAsked, Use.isAsked])
  obtain ⟨-, hafter, hbefore, -⟩ := hlater [] (by simp [Use.AllAsked])
  exact ⟨⟨e, he⟩, hother "app" (by decide) happ, hbefore hleaf, hafter⟩

/-- A source file that is missing is stale, and not stale once its recording has failed. -/
theorem failure_marks :
    ¬ ∀ (rules : RuleStore) (w : Bench) (us : List (Use Bench)) (t : String) (e : DigestError),
      (∀ u ∈ us, ∀ w', u ≠ .changed w') → Use.recorded t ∉ us →
      (workplace.surroundings.record ⟨""⟩ rules
        (workplace.surroundings.after ⟨""⟩ rules workplace.buildId w us).1
        (workplace.surroundings.after ⟨""⟩ rules workplace.buildId w us).2 t).result = .error e →
      ∀ u, (workplace.surroundings.after ⟨""⟩ rules workplace.buildId w
            (.recorded t :: us)).1.wasMade u =
          (workplace.surroundings.after ⟨""⟩ rules workplace.buildId w us).1.wasMade u ∧
        workplace.surroundings.answer ⟨""⟩ rules workplace.buildId w (.recorded t :: us) u =
          workplace.surroundings.answer ⟨""⟩ rules workplace.buildId w us u := by
  intro h
  obtain ⟨e, he⟩ := record_main_fails { buildId := workplace.buildId }
  obtain ⟨hmark, -⟩ := h resolved {} [] "main.c" e (by simp) (by simp) he "main.c"
  rw [Bool.eq_iff_iff] at hmark
  simp [Cache.wasMade, mem_after_made] at hmark

end Surroundings
end Freshen
