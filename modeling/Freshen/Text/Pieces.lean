/-! Cutting a list at every occurrence of a separator, and joining the pieces again. -/

namespace Freshen.Text

variable {α : Type _} [DecidableEq α]

def pieces (sep : α) : List α → List (List α)
  | [] => [[]]
  | x :: xs =>
    if x = sep then [] :: pieces sep xs
    else match pieces sep xs with
      | [] => [[x]]
      | p :: ps => (x :: p) :: ps

def joined (sep : α) : List (List α) → List α
  | [] => []
  | [p] => p
  | p :: ps => p ++ sep :: joined sep ps

theorem pieces_ne_nil (sep : α) (xs : List α) : pieces sep xs ≠ [] := by
  cases xs with
  | nil => simp [pieces]
  | cons x xs =>
    simp only [pieces]
    split
    · simp
    · split <;> simp

theorem joined_pieces (sep : α) (xs : List α) : joined sep (pieces sep xs) = xs := by
  induction xs with
  | nil => rfl
  | cons x xs ih =>
    obtain ⟨p, ps, h⟩ := List.exists_cons_of_ne_nil (pieces_ne_nil sep xs)
    rw [h] at ih
    by_cases hx : x = sep
    · simp [pieces, hx, h, joined, ih]
    · cases ps <;> simp_all [pieces, joined]

theorem not_mem_of_mem_pieces {sep : α} {xs p : List α} (h : p ∈ pieces sep xs) : sep ∉ p := by
  induction xs generalizing p with
  | nil => simp_all [pieces]
  | cons x xs ih =>
    obtain ⟨q, qs, hq⟩ := List.exists_cons_of_ne_nil (pieces_ne_nil sep xs)
    by_cases hx : x = sep
    · simp only [pieces, hx, ↓reduceIte, List.mem_cons] at h
      rcases h with rfl | h
      · simp
      · exact ih h
    · simp only [pieces, hx, ↓reduceIte, hq, List.mem_cons] at h
      rcases h with rfl | h
      · simpa [Ne.symm hx] using ih (p := q) (by simp [hq])
      · exact ih (by simp [hq, h])

end Freshen.Text
