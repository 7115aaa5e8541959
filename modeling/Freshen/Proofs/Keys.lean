import Freshen.Keyed
import Mathlib.Tactic
import Mathlib.Data.List.Nodup

/-! Lists of keys with values in which every key stands once. As mappings they are equal just if one
is a rearrangement of the other, and of two lists merged the second has the last word. -/

namespace Freshen.Keyed

variable {κ α : Type*} {l m : List (κ × α)} {k : κ} {a : α}

def Distinct (l : List (κ × α)) : Prop := (l.map (·.1)).Nodup

@[simp] lemma distinct_nil : Distinct ([] : List (κ × α)) := List.nodup_nil

lemma distinct_cons {e : κ × α} : Distinct (e :: l) ↔ e.1 ∉ l.map (·.1) ∧ Distinct l :=
  List.nodup_cons

lemma Distinct.perm (h : Distinct l) (hp : l.Perm m) : Distinct m := (hp.map _).nodup_iff.mp h

variable [DecidableEq κ]

lemma keys_set (k : κ) (a : α) (l : List (κ × α)) :
    (set k a l).map (·.1) = if k ∈ l.map (·.1) then l.map (·.1) else l.map (·.1) ++ [k] := by
  induction l with
  | nil => simp [set]
  | cons e l ih =>
    by_cases he : e.1 = k
    · simp [set, he]
    · by_cases hk : k ∈ l.map (·.1)
      · simp [set, he, ih, hk]
      · simp [set, he, ih, hk, Ne.symm he]

lemma Distinct.set (h : Distinct l) (k : κ) (a : α) : Distinct (set k a l) := by
  rw [Distinct, keys_set]
  split
  · exact h
  · next hk =>
    refine List.nodup_append.mpr ⟨h, List.nodup_singleton k, ?_⟩
    rintro j hj _ hk' rfl
    exact hk (List.mem_singleton.mp hk' ▸ hj)

lemma mem_of_mem_set {e : κ × α} (h : e ∈ Keyed.set k a l) : e = (k, a) ∨ e ∈ l := by
  induction l with
  | nil => exact .inl (List.mem_singleton.mp h)
  | cons d l ih =>
    rw [Keyed.set] at h
    split at h
    · rcases List.mem_cons.mp h with h | h
      · exact .inl h
      · exact .inr (List.mem_cons_of_mem d h)
    · rcases List.mem_cons.mp h with rfl | h
      · exact .inr List.mem_cons_self
      · exact (ih h).imp_right (List.mem_cons_of_mem d)

lemma set_of_notMem (h : k ∉ l.map (·.1)) (a : α) : set k a l = l ++ [(k, a)] := by
  induction l with
  | nil => rfl
  | cons e l ih =>
    rw [List.map_cons, List.mem_cons, not_or] at h
    simp [set, Ne.symm h.1, ih h.2]

lemma merge_cons (l : List (κ × α)) (e : κ × α) (m : List (κ × α)) :
    merge l (e :: m) = merge (set e.1 e.2 l) m := rfl

lemma Distinct.merge (h : Distinct l) (m : List (κ × α)) : Distinct (merge l m) := by
  induction m generalizing l with
  | nil => exact h
  | cons e m ih => exact ih (h.set e.1 e.2)

lemma merge_of_distinct (h : Distinct (l ++ m)) : merge l m = l ++ m := by
  induction m generalizing l with
  | nil => simp [merge]
  | cons e m ih =>
    have hnew : e.1 ∉ l.map (·.1) := by
      rw [Distinct, List.map_append, List.nodup_append] at h
      exact fun hm => h.2.2 e.1 hm e.1 (by simp) rfl
    rw [merge_cons, set_of_notMem hnew, ih (by simpa using h)]
    simp

lemma get?_append (l m : List (κ × α)) (k : κ) :
    get? (l ++ m) k = (get? l k).or (get? m k) := by
  induction l with
  | nil => simp
  | cons e l ih =>
    rw [List.cons_append, get?_cons, get?_cons, ih]
    split <;> rfl

lemma get?_merge (l m : List (κ × α)) (k : κ) :
    get? (merge l m) k = (get? m.reverse k).or (get? l k) := by
  induction m generalizing l with
  | nil => simp [merge]
  | cons e m ih =>
    rw [merge_cons, ih, get?_set, List.reverse_cons, get?_append, get?_cons, Option.or_assoc]
    split <;> simp

lemma get?_eq_none_iff : get? l k = none ↔ k ∉ l.map (·.1) := by
  induction l with
  | nil => simp
  | cons e l ih =>
    rw [get?_cons, List.map_cons, List.mem_cons]
    split
    · next he => simp [he]
    · next he => simp [ih, Ne.symm he]

lemma mem_of_get? (h : get? l k = some a) : (k, a) ∈ l := by
  rw [get?, Option.map_eq_some_iff] at h
  obtain ⟨e, he, rfl⟩ := h
  have hk : e.1 = k := by simpa using List.find?_some he
  exact hk ▸ List.mem_of_find?_eq_some he

lemma get?_eq_some_iff (h : Distinct l) : get? l k = some a ↔ (k, a) ∈ l := by
  induction l with
  | nil => simp
  | cons e l ih =>
    obtain ⟨hnew, hl⟩ := distinct_cons.mp h
    rw [get?_cons, List.mem_cons]
    split
    · next he =>
      subst he
      have hout : (e.1, a) ∉ l := fun hm => hnew (List.mem_map.mpr ⟨_, hm, rfl⟩)
      simp [hout, Prod.ext_iff, eq_comm]
    · next he =>
      have hne : (k, a) ≠ e := by
        rintro rfl
        exact he rfl
      simp [ih hl, hne]

lemma Distinct.get?_perm (h : Distinct l) (hp : l.Perm m) (k : κ) : get? l k = get? m k := by
  ext a
  rw [get?_eq_some_iff h, get?_eq_some_iff (h.perm hp), hp.mem_iff]

lemma Distinct.get?_reverse (h : Distinct l) (k : κ) : get? l.reverse k = get? l k :=
  (h.get?_perm l.reverse_perm.symm k).symm

lemma Distinct.get?_merge (h : Distinct m) (l : List (κ × α)) (k : κ) :
    get? (Keyed.merge l m) k = (get? m k).or (get? l k) := by
  rw [Keyed.get?_merge, h.get?_reverse]

end Freshen.Keyed
