import Freshen.BuildOrder
import Mathlib.Tactic

/-! The graph of a rule store: what names reach, and lists of rules in which every rule comes after
its dependencies. -/

namespace Freshen

lemma eraseDups_concat {α : Type*} [BEq α] [LawfulBEq α] (l : List α) (a : α) :
    (l ++ [a]).eraseDups = if a ∈ l then l.eraseDups else l.eraseDups ++ [a] := by
  rw [List.eraseDups_append]
  by_cases ha : a ∈ l
  · simp [List.removeAll, ha]
  · simp [List.removeAll, ha, List.eraseDups_cons]

namespace RuleStore

variable {s : RuleStore} {t u a b c : String} {r : Rule} {path : List String}

lemma ruleFor_of_find? (h : s.find? t = some r) : s.ruleFor t = r := by
  rw [ruleFor, h, Option.getD_some]

@[simp] lemma ruleFor_target (s : RuleStore) (t : String) : (s.ruleFor t).target = t := by
  cases h : s.find? t with
  | none => rw [ruleFor, h]; rfl
  | some r => rw [ruleFor_of_find? h, target_of_find? h]

lemma find?_replaced (r : Rule) (rs : List Rule) (t : String) :
    (replaced r rs).find? (·.target = t) =
      if r.target = t then some r else rs.find? (·.target = t) := by
  induction rs with
  | nil => by_cases h : r.target = t <;> simp [replaced, h]
  | cons q qs ih =>
    by_cases hq : q.target = r.target
    · by_cases h : r.target = t <;> simp [replaced, hq, h]
    · by_cases h : r.target = t
      · have hne : q.target ≠ t := fun he => hq (he.trans h.symm)
        simp [replaced, ih, h, hne]
      · simp [replaced, hq, ih, h, List.find?_cons]

lemma find?_put (s : RuleStore) (r : Rule) (t : String) :
    (s.put r).find? t = if r.target = t then some r else s.find? t :=
  find?_replaced r s.rules t

lemma find?_declare (s : RuleStore) (t u : String) (deps : List String)
    (recipe : Option String) : (s.declare t deps recipe).find? u =
      if t = u then some ⟨t, deps, recipe, .explicit, (s.find? t).any (·.alwaysStale)⟩
      else s.find? u :=
  find?_put s _ u

lemma find?_setAlwaysStale (s : RuleStore) (t u : String) (always : Bool) :
    (s.setAlwaysStale t always).2.find? u =
      if t = u then (s.find? u).map ({ · with alwaysStale := always }) else s.find? u := by
  rw [setAlwaysStale]
  split
  · next r hr =>
    rw [find?_put]
    have hrt : r.target = t := target_of_find? hr
    by_cases h : t = u
    · subst h
      simp [hrt, hr]
    · simp [hrt, h]
  · next hr =>
    by_cases h : t = u
    · subst h
      simp [hr]
    · simp [h]

lemma find?_addFile (s : RuleStore) (u t : String) :
    (s.addFile u).find? t = if u = t then some (s.ruleFor t) else s.find? t := by
  unfold addFile
  cases hu : s.find? u with
  | none =>
    rw [if_neg (by simp), find?_put]
    by_cases h : u = t
    · subst h
      simp [Rule.file, ruleFor, hu]
    · simp [Rule.file, h]
  | some r =>
    rw [if_pos (by simp)]
    by_cases h : u = t
    · subst h
      rw [if_pos rfl, ruleFor_of_find? hu, hu]
    · rw [if_neg h]

@[simp] lemma ruleFor_addFile (s : RuleStore) (u t : String) :
    (s.addFile u).ruleFor t = s.ruleFor t := by
  rw [ruleFor, find?_addFile]
  split <;> rfl

@[simp] lemma ruleFor_addFiles (s : RuleStore) (us : List String) (t : String) :
    (us.foldl addFile s).ruleFor t = s.ruleFor t := by
  induction us generalizing s with
  | nil => rfl
  | cons u us ih => rw [List.foldl_cons, ih, ruleFor_addFile]

lemma find?_addFiles (s : RuleStore) (us : List String) (t : String) :
    (us.foldl addFile s).find? t = if t ∈ us then some (s.ruleFor t) else s.find? t := by
  induction us generalizing s with
  | nil => rfl
  | cons u us ih =>
    rw [List.foldl_cons, ih, ruleFor_addFile, find?_addFile]
    by_cases hu : u = t
    · subst hu
      simp
    · simp [hu, Ne.symm hu]

lemma Reaches.single (h : s.Step a b) : s.Reaches a b := .step h (.refl b)

lemma Reaches.trans (h : s.Reaches a b) (h' : s.Reaches b c) : s.Reaches a c := by
  induction h with
  | refl => exact h'
  | step hs _ ih => exact .step hs (ih h')

lemma Reaches.snoc (h : s.Reaches a b) (h' : s.Step b c) : s.Reaches a c := h.trans (.single h')

lemma Reaches.mono {s s' : RuleStore} (hd : ∀ ⦃a b⦄, s.Step a b → s'.Step a b)
    (h : s.Reaches a b) : s'.Reaches a b := by
  induction h with
  | refl => exact .refl _
  | step hs _ ih => exact .step (hd hs) ih

lemma reaches_congr {s s' : RuleStore} (hd : ∀ t, (s.ruleFor t).deps = (s'.ruleFor t).deps) :
    s.Reaches a b ↔ s'.Reaches a b := by
  have hs : ∀ a b, s.Step a b ↔ s'.Step a b := fun a b => by rw [Step, hd a, Step]
  exact ⟨.mono fun _ _ => (hs _ _).mp, .mono fun _ _ => (hs _ _).mpr⟩

def Acyclic (s : RuleStore) (t : String) : Prop :=
  ∀ ⦃a b⦄, s.Reaches t a → s.Step a b → ¬ s.Reaches b a

lemma Acyclic.step (h : s.Acyclic t) (hs : s.Step t u) : s.Acyclic u :=
  fun _ _ ha => h (.step hs ha)

lemma Acyclic.reaches (h : s.Acyclic t) (hr : s.Reaches t u) : s.Acyclic u :=
  fun _ _ ha => h (hr.trans ha)

def Leads (s : RuleStore) (path : List String) (t : String) : Prop :=
  ∀ a ∈ path, ∃ b, s.Step a b ∧ s.Reaches b t

lemma Leads.nil : s.Leads [] t := by
  intro a ha
  cases ha

lemma Leads.cons (h : s.Leads path t) (hs : s.Step t u) : s.Leads (t :: path) u := by
  intro a ha
  rcases List.mem_cons.mp ha with rfl | ha
  · exact ⟨u, hs, .refl u⟩
  · obtain ⟨b, hb, hr⟩ := h a ha
    exact ⟨b, hb, hr.snoc hs⟩

lemma Leads.notMem (h : s.Leads path t) (ha : s.Acyclic t) : t ∉ path := by
  intro ht
  obtain ⟨b, hb, hr⟩ := h t ht
  exact ha (.refl t) hb hr

end RuleStore

abbrev targets (order : List Rule) : List String := order.map Rule.target

def Topological (order : List Rule) : Prop :=
  ∀ l₁ r l₂, order = l₁ ++ r :: l₂ → r.target ∉ targets l₁ ∧ ∀ d ∈ r.deps, d ∈ targets l₁

namespace Topological

variable {order : List Rule} {r : Rule}

lemma nil : Topological [] := by
  intro l₁ r l₂ h
  simp at h

lemma snoc (h : Topological order) (hr : r.target ∉ targets order)
    (hd : ∀ d ∈ r.deps, d ∈ targets order) : Topological (order ++ [r]) := by
  intro l₁ q l₂ he
  rcases List.append_eq_append_iff.mp he with ⟨l, rfl, hl⟩ | ⟨l, rfl, hl⟩
  · cases l with
    | nil =>
      simp only [List.nil_append, List.cons.injEq] at hl
      obtain ⟨rfl, _⟩ := hl
      rw [List.append_nil]
      exact ⟨hr, hd⟩
    | cons x l => simp at hl
  · cases l with
    | nil =>
      simp only [List.nil_append, List.cons.injEq] at hl
      obtain ⟨rfl, _⟩ := hl
      rw [List.append_nil] at hr hd
      exact ⟨hr, hd⟩
    | cons x l =>
      simp only [List.cons_append, List.cons.injEq] at hl
      obtain ⟨rfl, _⟩ := hl
      exact h l₁ q l rfl

lemma nodup (h : Topological order) : (targets order).Nodup := by
  induction order using List.reverseRecOn with
  | nil => simp
  | append_singleton l r ih =>
    have hl : Topological l := fun l₁ q l₂ he => h l₁ q (l₂ ++ [r]) (by simp [he])
    have hr := (h l r [] rfl).1
    rw [targets, List.map_append, List.nodup_append]
    refine ⟨ih hl, by simp, ?_⟩
    rintro a ha b hb rfl
    simp only [List.map_cons, List.map_nil, List.mem_singleton] at hb
    exact hr (hb ▸ ha)

end Topological
end Freshen
