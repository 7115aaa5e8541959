import Freshen.Text.Lines
import Mathlib.Tactic

/-! Lines of characters and lines of bytes. To cut the bytes of a text into lines is to cut the
text. -/

namespace Freshen.Text

section

variable {α : Type*} [DecidableEq α] {sep feed ret : α} {xs ys p : List α}

lemma pieces_append (sep : α) (xs ys : List α) :
    pieces sep (xs ++ sep :: ys) = pieces sep xs ++ pieces sep ys := by
  induction xs with
  | nil => simp [pieces]
  | cons x xs ih =>
    obtain ⟨p, ps, hp⟩ := List.exists_cons_of_ne_nil (pieces_ne_nil sep xs)
    by_cases hx : x = sep
    · simp [pieces, hx, ih]
    · simp [pieces, hx, ih, hp]

lemma pieces_of_notMem (h : sep ∉ xs) : pieces sep xs = [xs] := by
  induction xs with
  | nil => rfl
  | cons x xs ih =>
    rw [List.mem_cons, not_or] at h
    simp [pieces, Ne.symm h.1, ih h.2]

lemma pieces_prepend (h : sep ∉ xs) (hp : pieces sep ys = p :: ps) :
    pieces sep (xs ++ ys) = (xs ++ p) :: ps := by
  induction xs with
  | nil => exact hp
  | cons x xs ih =>
    rw [List.mem_cons, not_or] at h
    simp [pieces, Ne.symm h.1, ih h.2]

def unreturned (ret : α) (l : List α) : List α := if l.getLast? = some ret then l.dropLast else l

def linesOf (feed ret : α) (xs : List α) : List (List α) :=
  let ps := pieces feed xs
  let ended := ps.dropLast.map (unreturned ret)
  match ps.getLast? with
  | some [] | none => ended
  | some l => ended ++ [l]

lemma rawLines_eq (bytes : List UInt8) :
    rawLines bytes = linesOf lineFeed carriageReturn bytes := by
  rw [rawLines, linesOf]
  rcases (pieces lineFeed bytes).getLast? with _ | (_ | _) <;> rfl

lemma unreturned_of_ne (h : p.getLast? ≠ some ret) : unreturned ret p = p := if_neg h

lemma unreturned_subset (ret : α) (l : List α) : unreturned ret l ⊆ l := by
  rw [unreturned]
  split
  · exact l.dropLast_subset
  · exact List.Subset.refl l

lemma linesOf_append (feed ret : α) (xs ys : List α) :
    linesOf feed ret (xs ++ feed :: ys) =
      (pieces feed xs).map (unreturned ret) ++ linesOf feed ret ys := by
  have hne := pieces_ne_nil feed ys
  have hlast : (pieces feed xs ++ pieces feed ys).getLast? = (pieces feed ys).getLast? := by
    rw [List.getLast?_append_of_ne_nil _ hne]
  have hinit : (pieces feed xs ++ pieces feed ys).dropLast =
      pieces feed xs ++ (pieces feed ys).dropLast := List.dropLast_append_of_ne_nil hne
  rw [linesOf, linesOf, pieces_append]
  simp only [hlast, hinit, List.map_append]
  split <;> simp

lemma notMem_of_mem_linesOf (h : p ∈ linesOf feed ret xs) : feed ∉ p := by
  have hpiece : ∀ q ∈ pieces feed xs, feed ∉ q := fun q hq => not_mem_of_mem_pieces hq
  have hended : ∀ q ∈ (pieces feed xs).dropLast.map (unreturned ret), feed ∉ q := by
    intro q hq
    obtain ⟨l, hl, rfl⟩ := List.mem_map.mp hq
    exact fun hm => hpiece l (List.dropLast_subset _ hl) (unreturned_subset ret l hm)
  simp only [linesOf] at h
  split at h
  · exact hended p h
  · exact hended p h
  · next hlast =>
    rcases List.mem_append.mp h with h | h
    · exact hended p h
    · obtain rfl := List.mem_singleton.mp h
      exact hpiece p (List.mem_of_getLast? hlast)

end

lemma le_or (x : UInt8) {y : UInt8} (hy : 128 ≤ y) : ¬ x ||| y < 128 := by
  rw [UInt8.lt_iff_toNat_lt, UInt8.toNat_or, not_lt]
  exact (UInt8.le_iff_toNat_le.mp hy).trans Nat.right_le_or

lemma toNat_of_mem_utf8EncodeChar {c : Char} {b : UInt8} (h : b ∈ String.utf8EncodeChar c)
    (hb : b < 128) : c.toNat = b.toNat := by
  rcases c.utf8Size_eq with hc | hc | hc | hc
  · rw [String.utf8EncodeChar_eq_singleton hc, List.mem_singleton] at h
    have hle : c.val.toNat ≤ 127 := Char.utf8Size_eq_one_iff.mp hc
    rw [h, UInt32.toNat_toUInt8, Nat.mod_eq_of_lt (by omega), Char.toNat_val]
  · rw [String.utf8EncodeChar_eq_cons_cons hc] at h
    simp only [List.mem_cons, List.not_mem_nil, or_false] at h
    rcases h with rfl | rfl <;> exact absurd hb (le_or _ (by decide))
  · rw [String.utf8EncodeChar_eq_cons_cons_cons hc] at h
    simp only [List.mem_cons, List.not_mem_nil, or_false] at h
    rcases h with rfl | rfl | rfl <;> exact absurd hb (le_or _ (by decide))
  · rw [String.utf8EncodeChar_eq_cons_cons_cons_cons hc] at h
    simp only [List.mem_cons, List.not_mem_nil, or_false] at h
    rcases h with rfl | rfl | rfl | rfl <;> exact absurd hb (le_or _ (by decide))

def encoded (cs : List Char) : List UInt8 := cs.flatMap String.utf8EncodeChar

section

variable {cs l : List Char} {c : Char}

lemma toUTF8_toList (s : String) : s.toUTF8.data.toList = encoded s.toList := by
  rw [String.toUTF8_eq_toByteArray, ← String.utf8Encode_toList]
  simp [List.utf8Encode, encoded]

lemma ofBytes?_encoded (cs : List Char) : ofBytes? (encoded cs) = some (String.ofList cs) := by
  have hbytes : (⟨(encoded cs).toArray⟩ : ByteArray) = cs.utf8Encode := by
    ext1
    simp [List.utf8Encode, encoded]
  rw [ofBytes?, hbytes, String.fromUTF8?, dif_pos ByteArray.isValidUTF8_utf8Encode]
  exact congrArg some (String.toByteArray_inj.mp (by simp [String.fromUTF8]))

lemma encoded_toList_of_ofBytes? {bytes : List UInt8} {s : String} (h : ofBytes? bytes = some s) :
    encoded s.toList = bytes := by
  rw [ofBytes?, String.fromUTF8?] at h
  split at h
  · obtain rfl := Option.some.inj h
    rw [← toUTF8_toList]
    simp [String.fromUTF8]
  · cases h

lemma encoded_eq_nil : encoded cs = [] ↔ cs = [] := by
  rw [encoded, List.flatMap_eq_nil_iff, List.eq_nil_iff_forall_not_mem]
  exact forall₂_congr fun _ _ => by simp [String.utf8EncodeChar_ne_nil]

structure OneByte (c : Char) (b : UInt8) : Prop where
  encode : String.utf8EncodeChar c = [b]
  only : ∀ d, b ∈ String.utf8EncodeChar d → d = c

lemma oneByte_of_encode {b : UInt8} (h : String.utf8EncodeChar c = [b]) (hb : b < 128) :
    OneByte c b := by
  refine ⟨h, fun d hd => ?_⟩
  have hc := toNat_of_mem_utf8EncodeChar (c := c) (b := b) (by simp [h]) hb
  exact Char.toNat_inj.mp ((toNat_of_mem_utf8EncodeChar hd hb).trans hc.symm)

lemma oneByte_feed : OneByte '\n' lineFeed := oneByte_of_encode (by decide) (by decide)

lemma oneByte_return : OneByte '\r' carriageReturn := oneByte_of_encode (by decide) (by decide)

lemma OneByte.pieces {b : UInt8} (h : OneByte c b) (cs : List Char) :
    pieces b (encoded cs) = (pieces c cs).map encoded := by
  induction cs with
  | nil => rfl
  | cons d cs ih =>
    obtain ⟨p, ps, hp⟩ := List.exists_cons_of_ne_nil (pieces_ne_nil c cs)
    rw [hp, List.map_cons] at ih
    by_cases hd : d = c
    · have hcons : encoded (d :: cs) = b :: encoded cs := by simp [encoded, hd, h.encode]
      rw [hcons, Text.pieces, if_pos rfl, ih]
      simp [Text.pieces, hd, hp, encoded]
    · have hb : b ∉ String.utf8EncodeChar d := fun hm => hd (h.only d hm)
      have hcons : encoded (d :: cs) = String.utf8EncodeChar d ++ encoded cs := rfl
      rw [hcons, pieces_prepend hb ih]
      simp [Text.pieces, hd, hp, encoded]

lemma OneByte.getLast?_eq {b : UInt8} (h : OneByte c b) (l : List Char) :
    (encoded l).getLast? = some b ↔ l.getLast? = some c := by
  rcases l.eq_nil_or_concat' with rfl | ⟨l, d, rfl⟩
  · simp [encoded]
  · have hd : encoded (l ++ [d]) = encoded l ++ String.utf8EncodeChar d := by simp [encoded]
    rw [hd, List.getLast?_append_of_ne_nil _ String.utf8EncodeChar_ne_nil, List.getLast?_concat,
      Option.some.injEq]
    constructor
    · exact fun hb => h.only d (List.mem_of_getLast? hb)
    · rintro rfl
      rw [h.encode]
      rfl

lemma OneByte.unreturned {b : UInt8} (h : OneByte c b) (l : List Char) :
    unreturned b (encoded l) = encoded (unreturned c l) := by
  by_cases hl : l.getLast? = some c
  · obtain ⟨l, rfl⟩ := List.getLast?_eq_some_iff.mp hl
    rw [Text.unreturned, Text.unreturned, if_pos ((h.getLast?_eq _).mpr hl), if_pos hl]
    simp [encoded, h.encode]
  · rw [unreturned_of_ne hl, unreturned_of_ne ((h.getLast?_eq l).not.mpr hl)]

lemma rawLines_encoded (cs : List Char) :
    rawLines (encoded cs) = (linesOf '\n' '\r' cs).map encoded := by
  have hended : ((Text.pieces '\n' cs).map encoded).dropLast.map (unreturned carriageReturn) =
      ((Text.pieces '\n' cs).dropLast.map (unreturned '\r')).map encoded := by
    rw [← List.map_dropLast, List.map_map, List.map_map]
    exact List.map_congr_left fun l _ => oneByte_return.unreturned l
  rw [rawLines_eq, linesOf, linesOf, oneByte_feed.pieces]
  simp only [hended, List.getLast?_map]
  rcases (Text.pieces '\n' cs).getLast? with _ | (_ | ⟨d, l⟩)
  · rfl
  · rfl
  · have hne : encoded (d :: l) ≠ [] := encoded_eq_nil.not.mpr (by simp)
    obtain ⟨b, bs, hb⟩ := List.exists_cons_of_ne_nil hne
    simp [hb]

end

end Freshen.Text
