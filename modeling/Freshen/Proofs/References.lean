import Freshen.Description.Reference
import Mathlib

/-! References in a text and what becomes of them. No two overlap, so a text can be cut into
references to known names and single characters; expanding it puts the values in place of the
former and keeps the latter. -/

namespace Freshen.Description

def IsLetter (c : Char) : Prop := 'a' ≤ c ∧ c ≤ 'z' ∨ 'A' ≤ c ∧ c ≤ 'Z'

def IsDigit (c : Char) : Prop := '0' ≤ c ∧ c ≤ '9'

inductive IsName : List Char → Prop
  | mk {c : Char} {cs : List Char} : IsLetter c ∨ c = '_' →
      (∀ d ∈ cs, IsLetter d ∨ IsDigit d ∨ d = '_') → IsName (c :: cs)

def RefersAt (text : List Char) (i : ℕ) (name : List Char) : Prop :=
  IsName name ∧ written name <+: text.drop i

inductive Piece
  | kept (c : Char)
  | replaced (name : List Char) (value : String)

namespace Piece

def source : Piece → List Char
  | kept c => [c]
  | replaced name _ => written name

def outcome : Piece → List Char
  | kept c => [c]
  | replaced _ value => value.toList

end Piece

def ReplacesAt (ps : List Piece) (i : ℕ) (name : List Char) (v : String) : Prop :=
  ∃ qs rs, ps = qs ++ .replaced name v :: rs ∧ (qs.flatMap Piece.source).length = i

/-- The pieces make up the text, and those to be replaced are all references to known names. -/
structure Cut (value : String → Option String) (text : List Char) (ps : List Piece) : Prop where
  source : ps.flatMap Piece.source = text
  replaced : ∀ i name v, ReplacesAt ps i name v ↔
    RefersAt text i name ∧ value (String.ofList name) = some v

variable {value : String → Option String} {text s t u rest name m n : List Char} {i j k : ℕ}
  {c : Char} {v : String} {p : Piece} {ps qs : List Piece}

lemma isNameStart_iff : isNameStart c = true ↔ IsLetter c ∨ c = '_' := by
  simp [isNameStart, IsLetter, Char.isAlpha, Char.isUpper, Char.isLower, Char.le_def, or_comm]

lemma isNamePart_iff : isNamePart c = true ↔ IsLetter c ∨ IsDigit c ∨ c = '_' := by
  simp [isNamePart, IsLetter, IsDigit, Char.isAlphanum, Char.isAlpha, Char.isUpper, Char.isLower,
    Char.isDigit, Char.le_def, or_comm, or_assoc]

lemma reference?_eq_some_iff :
    reference? text = some (name, rest) ↔ IsName name ∧ text = written name ++ rest := by
  constructor
  · intro h
    refine ⟨?_, reference?_eq h⟩
    unfold reference? at h
    split at h
    · next c r =>
      split at h
      · next hc =>
        split at h
        · cases h
          refine .mk (isNameStart_iff.mp hc) fun d hd => isNamePart_iff.mp ?_
          exact List.mem_takeWhile_imp hd
        · cases h
      · cases h
    · cases h
  · rintro ⟨@⟨c, cs, hc, hcs⟩, rfl⟩
    have hparts : ∀ d ∈ cs, isNamePart d = true := fun d hd => isNamePart_iff.mpr (hcs d hd)
    have htake : (cs ++ '}' :: rest).takeWhile isNamePart = cs := by
      rw [List.takeWhile_append_of_pos hparts]
      exact List.append_nil cs
    have hdrop : (cs ++ '}' :: rest).dropWhile isNamePart = '}' :: rest := by
      rw [List.dropWhile_append_of_pos hparts]
      rfl
    have htext : written (c :: cs) ++ rest = '$' :: '{' :: c :: (cs ++ '}' :: rest) := by
      simp [written]
    rw [htext, reference?]
    simp only [isNameStart_iff.mpr hc, if_true, htake, hdrop]

lemma refersAt_zero_iff : RefersAt text 0 name ↔ ∃ rest, reference? text = some (name, rest) := by
  rw [RefersAt, List.drop_zero]
  constructor
  · rintro ⟨hn, rest, hr⟩
    exact ⟨rest, reference?_eq_some_iff.mpr ⟨hn, hr.symm⟩⟩
  · rintro ⟨rest, hr⟩
    obtain ⟨hn, he⟩ := reference?_eq_some_iff.mp hr
    exact ⟨hn, rest, he.symm⟩

lemma refersAt_append_add : RefersAt (s ++ t) (s.length + i) name ↔ RefersAt t i name := by
  rw [RefersAt, List.drop_length_add_append, RefersAt]

lemma refersAt_drop : RefersAt (text.drop i) 0 name ↔ RefersAt text i name := Iff.rfl

lemma RefersAt.unique (h : RefersAt text i m) (h' : RefersAt text i n) : m = n := by
  obtain ⟨rest, hr⟩ := refersAt_zero_iff.mp (refersAt_drop.mpr h)
  obtain ⟨rest', hr'⟩ := refersAt_zero_iff.mp (refersAt_drop.mpr h')
  exact congrArg Prod.fst (Option.some.inj (hr.symm.trans hr'))

lemma IsName.dollar_notMem (h : IsName name) : '$' ∉ '{' :: name ++ ['}'] := by
  have hd : ¬ isNamePart '$' = true := by decide
  cases h with
  | @mk c cs hc hcs =>
    have hstart : c ≠ '$' := by
      rintro rfl
      exact absurd (isNameStart_iff.mpr hc) (by decide)
    have hparts : '$' ∉ cs := fun hm => hd (isNamePart_iff.mpr (hcs _ hm))
    simp [hstart.symm, hparts]

lemma written_eq (name : List Char) : written name = '$' :: ('{' :: name ++ ['}']) := rfl

lemma RefersAt.getElem? (h : RefersAt text i name) : text[i]? = some '$' := by
  obtain ⟨-, rest, hr⟩ := h
  have hhead : (text.drop i)[0]? = some '$' := by
    rw [← hr]
    rfl
  simpa using hhead

lemma RefersAt.apart (h : RefersAt text i m) (h' : RefersAt text j n) (hij : i < j) :
    i + (written m).length ≤ j := by
  by_contra hshort
  obtain ⟨k, rfl⟩ : ∃ k, j = i + (k + 1) := ⟨j - i - 1, by omega⟩
  obtain ⟨hm, rest, hr⟩ := h
  have hk : k < ('{' :: m ++ ['}']).length := by
    rw [written_eq, List.length_cons] at hshort
    omega
  have hdollar := h'.getElem?
  rw [← List.getElem?_drop, ← hr, written_eq, List.cons_append, List.getElem?_cons_succ,
    List.getElem?_append_left hk] at hdollar
  exact hm.dollar_notMem (List.mem_of_getElem? hdollar)

lemma written_length_pos (name : List Char) : 0 < (written name).length := by
  simp [written]

lemma Piece.source_length_pos (p : Piece) : 0 < p.source.length := by
  cases p with
  | kept c => exact Nat.one_pos
  | replaced name v => exact written_length_pos name

lemma replacesAt_nil : ¬ ReplacesAt [] i name v := by
  rintro ⟨qs, rs, he, -⟩
  simp at he

lemma replacesAt_append : ReplacesAt (ps ++ qs) i name v ↔ ReplacesAt ps i name v ∨
    ∃ k, i = (ps.flatMap Piece.source).length + k ∧ ReplacesAt qs k name v := by
  constructor
  · rintro ⟨us, rs, he, rfl⟩
    rcases List.append_eq_append_iff.mp he with ⟨l, rfl, hl⟩ | ⟨l, rfl, hl⟩
    · exact .inr ⟨_, by simp, l, rs, hl, rfl⟩
    · cases l with
      | nil => exact .inr ⟨0, by simp, [], rs, hl.symm, rfl⟩
      | cons p l =>
        obtain ⟨rfl, rfl⟩ := List.cons.inj hl
        exact .inl ⟨us, l, rfl, rfl⟩
  · rintro (⟨us, rs, rfl, rfl⟩ | ⟨_, rfl, us, rs, rfl, rfl⟩)
    · exact ⟨us, rs ++ qs, by simp, rfl⟩
    · exact ⟨ps ++ us, rs, by simp, by simp⟩

lemma replacesAt_singleton : ReplacesAt [p] i name v ↔ p = .replaced name v ∧ i = 0 := by
  constructor
  · rintro ⟨us, rs, he, rfl⟩
    obtain ⟨rfl, hp, rfl⟩ : us = [] ∧ .replaced name v = p ∧ rs = [] := by
      simpa [List.singleton_eq_append_iff] using he
    exact ⟨hp.symm, rfl⟩
  · rintro ⟨rfl, rfl⟩
    exact ⟨[], [], rfl, rfl⟩

lemma cut_cons_iff : Cut value text (p :: ps) ↔ ∃ rest, text = p.source ++ rest ∧
    Cut value rest ps ∧ ∀ i name v, i < p.source.length →
      (RefersAt text i name ∧ value (String.ofList name) = some v ↔
        p = .replaced name v ∧ i = 0) := by
  have hpos := p.source_length_pos
  have hsplit (i : ℕ) (name : List Char) (v : String) : ReplacesAt (p :: ps) i name v ↔
      (p = .replaced name v ∧ i = 0) ∨
        ∃ k, i = p.source.length + k ∧ ReplacesAt ps k name v := by
    rw [← replacesAt_singleton, ← List.flatMap_singleton Piece.source, ← replacesAt_append]
    rfl
  constructor
  · rintro ⟨rfl, hreplaced⟩
    refine ⟨ps.flatMap Piece.source, rfl, ⟨rfl, fun i name v => ?_⟩, fun i name v hi => ?_⟩
    · rw [← refersAt_append_add (s := p.source), ← List.flatMap_cons, ← hreplaced, hsplit]
      constructor
      · exact fun h => .inr ⟨i, rfl, h⟩
      · rintro (⟨-, h⟩ | ⟨k, hk, h⟩)
        · omega
        · rwa [Nat.add_left_cancel hk]
    · rw [← hreplaced, hsplit]
      constructor
      · rintro (h | ⟨k, rfl, -⟩)
        · exact h
        · omega
      · exact .inl
  · rintro ⟨rest, rfl, hrest, hfirst⟩
    refine ⟨by rw [List.flatMap_cons, hrest.source], fun i name v => ?_⟩
    rw [hsplit]
    rcases Nat.lt_or_ge i p.source.length with hi | hi
    · rw [hfirst i name v hi]
      constructor
      · rintro (h | ⟨k, rfl, -⟩)
        · exact h
        · omega
      · exact .inl
    · obtain ⟨k, rfl⟩ := Nat.exists_eq_add_of_le hi
      rw [refersAt_append_add, ← hrest.replaced]
      constructor
      · rintro (⟨-, h⟩ | ⟨l, hl, h⟩)
        · omega
        · rwa [Nat.add_left_cancel hl]
      · exact fun h => .inr ⟨k, rfl, h⟩

lemma cut_nil : Cut value [] [] := by
  refine ⟨rfl, fun i name v => ⟨fun h => absurd h replacesAt_nil, fun h => ?_⟩⟩
  simpa using h.1.getElem?

lemma RefersAt.eq_append (h : RefersAt text 0 name) : ∃ rest, text = written name ++ rest := by
  obtain ⟨-, rest, hr⟩ := h
  exact ⟨rest, by rw [hr, List.drop_zero]⟩

lemma Cut.replace (h : Cut value rest ps) (hn : IsName name)
    (hv : value (String.ofList name) = some v) :
    Cut value (written name ++ rest) (.replaced name v :: ps) := by
  have hhere : RefersAt (written name ++ rest) 0 name := ⟨hn, rest, List.drop_zero.symm⟩
  refine cut_cons_iff.mpr ⟨rest, rfl, h, fun i m w hi => ?_⟩
  constructor
  · rintro ⟨href, hw⟩
    rcases Nat.eq_zero_or_pos i with rfl | hpos
    · obtain rfl := hhere.unique href
      obtain rfl := Option.some.inj (hv.symm.trans hw)
      exact ⟨rfl, rfl⟩
    · have hapart := hhere.apart href hpos
      rw [Nat.zero_add] at hapart
      exact absurd hapart (Nat.not_le.mpr hi)
  · rintro ⟨he, rfl⟩
    cases he
    exact ⟨hhere, hv⟩

lemma Cut.keep (h : Cut value rest ps)
    (hfirst : ∀ name, RefersAt (c :: rest) 0 name → value (String.ofList name) = none) :
    Cut value (c :: rest) (.kept c :: ps) := by
  refine cut_cons_iff.mpr ⟨rest, rfl, h, fun i m w hi => ?_⟩
  obtain rfl : i = 0 := Nat.lt_one_iff.mp hi
  constructor
  · rintro ⟨href, hw⟩
    rw [hfirst m href] at hw
    cases hw
  · rintro ⟨he, -⟩
    cases he

theorem exists_cut (value : String → Option String) (text : List Char) :
    ∃ ps, Cut value text ps := by
  -- On the length, as a reference is cut off whole.
  induction hlen : text.length using Nat.strong_induction_on generalizing text with
  | _ len ih =>
    by_cases hfirst : ∃ name v, RefersAt text 0 name ∧ value (String.ofList name) = some v
    · obtain ⟨name, v, href, hv⟩ := hfirst
      obtain ⟨rest, rfl⟩ := href.eq_append
      have hshort : rest.length < len := by
        rw [← hlen, List.length_append]
        have hpos := written_length_pos name
        omega
      obtain ⟨ps, hps⟩ := ih _ hshort rest rfl
      exact ⟨_, hps.replace href.1 hv⟩
    · cases text with
      | nil => exact ⟨[], cut_nil⟩
      | cons c cs =>
        obtain ⟨ps, hps⟩ := ih cs.length (by rw [← hlen, List.length_cons]; omega) cs rfl
        refine ⟨_, hps.keep fun name href => ?_⟩
        exact Option.eq_none_iff_forall_ne_some.mpr fun v hv => hfirst ⟨name, v, href, hv⟩

lemma expandChars_cons (h : reference? (c :: t) = none) :
    expandChars value (c :: t) = c :: expandChars value t := by
  rw [expandChars]
  split
  · next h' => cases h.symm.trans h'
  · rfl

lemma expandChars_written (hn : IsName name) : expandChars value (written name ++ t) =
    ((value (String.ofList name)).map (·.toList)).getD (written name) ++ expandChars value t := by
  have h : reference? (written name ++ t) = some (name, t) := reference?_eq_some_iff.mpr ⟨hn, rfl⟩
  rw [expandChars]
  split
  · next h' =>
    cases h.symm.trans h'
    rfl
  · next h' => cases h.symm.trans h'

lemma expandChars_append_of_notMem (h : '$' ∉ s) :
    expandChars value (s ++ t) = s ++ expandChars value t := by
  induction s with
  | nil => rfl
  | cons c s ih =>
    obtain ⟨hc, hs⟩ := List.ne_and_not_mem_of_not_mem_cons h
    have hnone : reference? (c :: (s ++ t)) = none := by
      refine Option.eq_none_iff_forall_ne_some.mpr fun ⟨name, rest⟩ href => ?_
      have hhead : c :: (s ++ t) = '$' :: ('{' :: name ++ ['}'] ++ rest) := reference?_eq href
      exact hc (List.cons.inj hhead).1.symm
    rw [List.cons_append, expandChars_cons hnone, ih hs, List.cons_append]

lemma expandChars_keep
    (h : ∀ name, RefersAt (c :: t) 0 name → value (String.ofList name) = none) :
    expandChars value (c :: t) = c :: expandChars value t := by
  cases href : reference? (c :: t) with
  | none => exact expandChars_cons href
  | some found =>
    obtain ⟨name, rest⟩ := found
    have hname := h name (refersAt_zero_iff.mpr ⟨rest, href⟩)
    obtain ⟨hn, he⟩ := reference?_eq_some_iff.mp href
    have hskip : expandChars value (c :: t) = written name ++ expandChars value rest := by
      rw [he, expandChars_written hn, hname, Option.map_none, Option.getD_none]
    obtain ⟨rfl, rfl⟩ : c = '$' ∧ t = ('{' :: name ++ ['}']) ++ rest := List.cons.inj he
    rw [expandChars_append_of_notMem hn.dollar_notMem]
    exact hskip

theorem Cut.expandChars_eq (h : Cut value text ps) :
    expandChars value text = ps.flatMap Piece.outcome := by
  induction ps generalizing text with
  | nil =>
    obtain rfl : [] = text := h.source
    rw [expandChars]
    rfl
  | cons p ps ih =>
    obtain ⟨rest, rfl, hrest, hfirst⟩ := cut_cons_iff.mp h
    rw [List.flatMap_cons, ← ih hrest]
    cases p with
    | kept c =>
      refine expandChars_keep fun name href => Option.eq_none_iff_forall_ne_some.mpr fun v hv => ?_
      have hreplaced := ((hfirst 0 name v Nat.one_pos).mp ⟨href, hv⟩).1
      cases hreplaced
    | replaced name v =>
      obtain ⟨href, hv⟩ := (hfirst 0 name v (written_length_pos name)).mpr ⟨rfl, rfl⟩
      change expandChars value (written name ++ rest) = v.toList ++ expandChars value rest
      rw [expandChars_written href.1, hv, Option.map_some, Option.getD_some]

lemma refersAt_append_left (h : i + (written name).length ≤ s.length) :
    RefersAt (s ++ t) i name ↔ RefersAt s i name := by
  have hlen : (written name).length ≤ (s.drop i).length := by
    rw [List.length_drop]
    omega
  rw [RefersAt, RefersAt, List.drop_append_of_le_length (by omega)]
  refine and_congr_right fun _ => ⟨fun h => ?_, fun h => h.trans (List.prefix_append _ _)⟩
  exact List.prefix_of_prefix_length_le h (List.prefix_append _ _) hlen

lemma RefersAt.length_le (h : RefersAt text i name) :
    i + (written name).length ≤ text.length := by
  have hlen := h.2.length_le
  have hpos := written_length_pos name
  rw [List.length_drop] at hlen
  omega

theorem Cut.append (hs : Cut value s ps) (ht : Cut value t qs)
    (hcross : ∀ i name, RefersAt (s ++ t) i name →
      i + (written name).length ≤ s.length ∨ s.length ≤ i) :
    Cut value (s ++ t) (ps ++ qs) := by
  refine ⟨by rw [List.flatMap_append, hs.source, ht.source], fun i name v => ?_⟩
  rw [replacesAt_append, hs.source, hs.replaced]
  constructor
  · rintro (⟨href, hv⟩ | ⟨k, rfl, hk⟩)
    · exact ⟨(refersAt_append_left href.length_le).mpr href, hv⟩
    · rw [refersAt_append_add]
      exact (ht.replaced k name v).mp hk
  · rintro ⟨href, hv⟩
    rcases hcross i name href with hle | hge
    · exact .inl ⟨(refersAt_append_left hle).mp href, hv⟩
    · obtain ⟨k, rfl⟩ := Nat.exists_eq_add_of_le hge
      exact .inr ⟨k, rfl, (ht.replaced k name v).mpr ⟨refersAt_append_add.mp href, hv⟩⟩

lemma toList_expand (vars : Vars) (text : String) :
    (expand vars text).toList = expandChars (Keyed.get? vars) text.toList :=
  String.toList_ofList

/-- References do not overlap, a text can be cut by those to known names, and expanding it puts
their values in place and leaves the other characters. So a text that is divided where no
reference goes across is expanded part by part. -/
theorem expand_replaces (vars : Vars) :
    (∀ (text : List Char) (i j : ℕ) (m n : List Char),
      RefersAt text i m → RefersAt text j n →
        i = j ∧ m = n ∨ i + (written m).length ≤ j ∨ j + (written n).length ≤ i) ∧
    (∀ text : String, ∃ ps, Cut (Keyed.get? vars) text.toList ps) ∧
    (∀ (text : String) (ps : List Piece), Cut (Keyed.get? vars) text.toList ps →
      (expand vars text).toList = ps.flatMap Piece.outcome) ∧
    ∀ a b : String,
      (∀ i name, RefersAt (a ++ b).toList i name →
        i + (written name).length ≤ a.toList.length ∨ a.toList.length ≤ i) →
      expand vars (a ++ b) = expand vars a ++ expand vars b := by
  refine ⟨fun text i j m n hm hn => ?_, fun text => exists_cut _ _, fun text ps h => ?_,
    fun a b hcross => ?_⟩
  · rcases Nat.lt_trichotomy i j with hij | rfl | hij
    · exact .inr (.inl (hm.apart hn hij))
    · exact .inl ⟨rfl, hm.unique hn⟩
    · exact .inr (.inr (hn.apart hm hij))
  · rw [toList_expand, h.expandChars_eq]
  · obtain ⟨ps, hps⟩ := exists_cut (Keyed.get? vars) a.toList
    obtain ⟨qs, hqs⟩ := exists_cut (Keyed.get? vars) b.toList
    rw [String.toList_append] at hcross
    have hboth := hps.append hqs hcross
    apply String.toList_inj.mp
    rw [String.toList_append, toList_expand, toList_expand, toList_expand, String.toList_append,
      hboth.expandChars_eq, List.flatMap_append, hps.expandChars_eq, hqs.expandChars_eq]

-- The text is `${${A}}${B}`, cut after the first `}`.
theorem expand_once :
    expand [("A", "$\x7bB\x7d"), ("B", "b")] "$\x7b$\x7bA\x7d\x7d$\x7bB\x7d" =
      "$\x7b$\x7bB\x7d\x7db" := by
  obtain ⟨happart, -, hcut, hparts⟩ := expand_replaces [("A", "$\x7bB\x7d"), ("B", "b")]
  have hA : IsName ['A'] := .mk (isNameStart_iff.mp rfl) (by simp)
  have hB : IsName ['B'] := .mk (isNameStart_iff.mp rfl) (by simp)
  have hkeep {c : Char} {cs : List Char} (h : reference? (c :: cs) = none) (name : List Char)
      (href : RefersAt (c :: cs) 0 name) :
      Keyed.get? [("A", "$\x7bB\x7d"), ("B", "b")] (String.ofList name) = none := by
    obtain ⟨rest, hr⟩ := refersAt_zero_iff.mp href
    cases h.symm.trans hr
  have hleft : expand [("A", "$\x7bB\x7d"), ("B", "b")] "$\x7b$\x7bA\x7d" = "$\x7b$\x7bB\x7d" := by
    have hps : Cut (Keyed.get? [("A", "$\x7bB\x7d"), ("B", "b")]) "$\x7b$\x7bA\x7d".toList
        [.kept '$', .kept '{', .replaced ['A'] "$\x7bB\x7d"] := by
      refine Cut.keep (Cut.keep ?_ (hkeep rfl)) (hkeep rfl)
      exact cut_nil.replace hA rfl
    exact String.toList_inj.mp (hcut _ _ hps)
  have hright : expand [("A", "$\x7bB\x7d"), ("B", "b")] "\x7d$\x7bB\x7d" = "\x7db" := by
    have hps : Cut (Keyed.get? [("A", "$\x7bB\x7d"), ("B", "b")]) "\x7d$\x7bB\x7d".toList
        [.kept '}', .replaced ['B'] "b"] := by
      refine Cut.keep ?_ (hkeep rfl)
      exact cut_nil.replace hB rfl
    exact String.toList_inj.mp (hcut _ _ hps)
  have hinner : RefersAt "$\x7b$\x7bA\x7d\x7d$\x7bB\x7d".toList 2 ['A'] :=
    ⟨hA, "\x7d$\x7bB\x7d".toList, rfl⟩
  have hboth := hparts "$\x7b$\x7bA\x7d" "\x7d$\x7bB\x7d" fun i name href => by
    rcases happart _ _ _ _ _ hinner href with ⟨rfl, rfl⟩ | hle | hge
    · exact .inl (by decide)
    · exact .inr hle
    · exact .inl (hge.trans (by decide))
  rw [hleft, hright] at hboth
  exact hboth

end Freshen.Description
