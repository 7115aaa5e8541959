/-! Lists of keys with values, each key at most once if built by `set`. -/

namespace Freshen.Keyed

variable {κ α : Type _} [DecidableEq κ]

def get? (l : List (κ × α)) (k : κ) : Option α := (l.find? (·.1 = k)).map (·.2)

def set (k : κ) (a : α) : List (κ × α) → List (κ × α)
  | [] => [(k, a)]
  | e :: l => if e.1 = k then (k, a) :: l else e :: set k a l

def erase (k : κ) (l : List (κ × α)) : List (κ × α) := l.filter (·.1 ≠ k)

def merge (l m : List (κ × α)) : List (κ × α) := m.foldl (fun l e => set e.1 e.2 l) l

@[simp] theorem get?_nil (k : κ) : get? ([] : List (κ × α)) k = none := rfl

theorem get?_cons (e : κ × α) (l : List (κ × α)) (k : κ) :
    get? (e :: l) k = if e.1 = k then some e.2 else get? l k := by
  by_cases h : e.1 = k <;> simp [get?, h]

theorem get?_set (l : List (κ × α)) (k j : κ) (a : α) :
    get? (set k a l) j = if k = j then some a else get? l j := by
  induction l with
  | nil => by_cases h : k = j <;> simp [set, get?_cons, h]
  | cons e l ih =>
    by_cases he : e.1 = k <;> by_cases hk : k = j <;>
      by_cases hj : e.1 = j <;> simp_all [set, get?_cons]

theorem mem_keys_of_get? {l : List (κ × α)} {k : κ} {a : α} (h : get? l k = some a) :
    k ∈ l.map (·.1) := by
  induction l with
  | nil => simp at h
  | cons e l ih =>
    rw [get?_cons] at h
    by_cases he : e.1 = k
    · simp [he]
    · rw [if_neg he] at h
      exact List.mem_cons_of_mem _ (ih h)

end Freshen.Keyed
