import Freshen.Description.Load
import Mathlib.Tactic

/-! One step of reading a description: a file is read by itself, then the files that it includes.
Every file that is being read stands on the stack once, so reading ends. -/

namespace Freshen.Description

variable {f : Files} {searchPath : List String} {stack : List Path} {p q : Path}
  {own raw merged merged' : RawDescription} {name : String} {names : List String} {e : BuildError}

structure Calls (f : Files) (searchPath : List String) (inner outer : List Path × Path) : Prop where
  fresh : f.nameOf outer.2 ∉ outer.1
  stack : inner.1 = f.nameOf outer.2 :: outer.1
  included : ∃ own, loadOne f outer.2 = .ok own ∧
    ∃ name ∈ own.includes, findInclude f searchPath outer.2 name = .ok inner.2

lemma readText_of_loadOne (h : loadOne f p = .ok own) : ∃ text, f.readText p = .ok text := by
  rw [loadOne] at h
  split at h
  · cases h
  · exact ⟨_, ‹_›⟩

lemma calls_wellFounded (f : Files) (searchPath : List String) :
    WellFounded (Calls f searchPath) := by
  refine Subrelation.wf ?_ (InvImage.wf (fun c => offStack f c.1) Nat.lt_wfRel.wf)
  -- Each call leaves fewer files off the stack.
  rintro ⟨innerStack, q⟩ ⟨stack, p⟩ ⟨hfresh, rfl, own, hown, -⟩
  obtain ⟨text, htext⟩ := readText_of_loadOne hown
  exact offStack_cons_lt htext hfresh

lemma load_induction (f : Files) (searchPath : List String) {motive : List Path → Path → Prop}
    (step : ∀ stack p, (∀ own name q, f.nameOf p ∉ stack → loadOne f p = .ok own →
      name ∈ own.includes → findInclude f searchPath p name = .ok q →
      motive (f.nameOf p :: stack) q) → motive stack p)
    (stack : List Path) (p : Path) : motive stack p := by
  have hcalls : ∀ call : List Path × Path, motive call.1 call.2 := by
    intro call
    induction call using (calls_wellFounded f searchPath).induction with
    | _ call ih =>
      refine step call.1 call.2 fun own name q hfresh hown hname hfind => ?_
      exact ih (_, q) ⟨hfresh, rfl, own, hown, name, hname, hfind⟩
  exact hcalls (stack, p)

lemma load_of_mem (h : f.nameOf p ∈ stack) : load f searchPath stack p =
    .error (.description (.includeCycle (stack.reverse ++ [f.nameOf p]))) := by
  rw [load, dif_pos h]

lemma load_of_unreadable (h : f.nameOf p ∉ stack) (he : loadOne f p = .error e) :
    load f searchPath stack p = .error e := by
  rw [loadOne] at he
  rw [load, dif_neg h]
  split
  · next hread =>
    rw [hread] at he
    exact he
  · next text hread =>
    rw [hread] at he
    simp only [he]

lemma load_of_loadOne (h : f.nameOf p ∉ stack) (hown : loadOne f p = .ok own) :
    load f searchPath stack p =
      if own.includes.isEmpty then .ok own
      else (loadAll f searchPath (f.nameOf p :: stack) p {} own.includes).map (overlay · own) := by
  rw [loadOne] at hown
  rw [load, dif_neg h]
  split
  · next hread =>
    rw [hread] at hown
    cases hown
  · next text hread =>
    rw [hread] at hown
    simp only [hown]
    split
    · rfl
    · cases loadAll f searchPath (f.nameOf p :: stack) p {} own.includes <;> rfl

lemma loadAll_nil : loadAll f searchPath stack p merged [] = .ok merged := by rw [loadAll]

lemma loadAll_cons (h : findInclude f searchPath p name = .ok q) :
    loadAll f searchPath stack p merged (name :: names) =
      (load f searchPath stack q).bind fun inner =>
        loadAll f searchPath stack p (overlay merged inner) names := by
  rw [loadAll, h]
  cases hq : load f searchPath stack q <;> simp only [hq] <;> rfl

lemma load_ok (h : load f searchPath stack p = .ok raw) :
    f.nameOf p ∉ stack ∧ ∃ own, loadOne f p = .ok own ∧
      (own.includes = [] ∧ raw = own ∨
        ∃ merged, loadAll f searchPath (f.nameOf p :: stack) p {} own.includes = .ok merged ∧
          raw = overlay merged own) := by
  have hfresh : f.nameOf p ∉ stack := by
    intro hmem
    rw [load_of_mem hmem] at h
    cases h
  refine ⟨hfresh, ?_⟩
  cases hown : loadOne f p with
  | error e =>
    rw [load_of_unreadable hfresh hown] at h
    cases h
  | ok own =>
    rw [load_of_loadOne hfresh hown] at h
    refine ⟨own, rfl, ?_⟩
    split at h
    · next hempty => exact .inl ⟨List.isEmpty_iff.mp hempty, (Except.ok.inj h).symm⟩
    · cases hall : loadAll f searchPath (f.nameOf p :: stack) p {} own.includes with
      | error e =>
        rw [hall] at h
        cases h
      | ok merged =>
        rw [hall] at h
        exact .inr ⟨merged, rfl, (Except.ok.inj h).symm⟩

lemma load_error (h : load f searchPath stack p = .error e) :
    f.nameOf p ∈ stack ∧
        e = .description (.includeCycle (stack.reverse ++ [f.nameOf p])) ∨
      f.nameOf p ∉ stack ∧ (loadOne f p = .error e ∨ ∃ own, loadOne f p = .ok own ∧
        loadAll f searchPath (f.nameOf p :: stack) p {} own.includes = .error e) := by
  by_cases hmem : f.nameOf p ∈ stack
  · rw [load_of_mem hmem] at h
    exact .inl ⟨hmem, (Except.error.inj h).symm⟩
  refine .inr ⟨hmem, ?_⟩
  cases hown : loadOne f p with
  | error e' =>
    rw [load_of_unreadable hmem hown] at h
    exact .inl h
  | ok own =>
    refine .inr ⟨own, rfl, ?_⟩
    rw [load_of_loadOne hmem hown] at h
    split at h
    · cases h
    · cases hall : loadAll f searchPath (f.nameOf p :: stack) p {} own.includes with
      | error e' =>
        rw [hall] at h
        exact h
      | ok merged =>
        rw [hall] at h
        cases h

lemma loadAll_ok (h : loadAll f searchPath stack p merged (name :: names) = .ok merged') :
    ∃ q inner, findInclude f searchPath p name = .ok q ∧ load f searchPath stack q = .ok inner ∧
      loadAll f searchPath stack p (overlay merged inner) names = .ok merged' := by
  cases hq : findInclude f searchPath p name with
  | error e =>
    rw [loadAll, hq] at h
    cases h
  | ok q =>
    rw [loadAll_cons hq] at h
    cases hl : load f searchPath stack q with
    | error e =>
      rw [hl] at h
      cases h
    | ok inner =>
      rw [hl] at h
      exact ⟨q, inner, rfl, hl, h⟩

end Freshen.Description
