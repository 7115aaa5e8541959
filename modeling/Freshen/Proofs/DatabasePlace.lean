import Freshen.Database.Connection
import Freshen.Proofs.Places

/-! Where on a disk a database lies, and what is opened or made there. Its path is cleared of dots
and links with whatever is on the disk at the time; when things are added later it leads to the same
place, or to none. -/

namespace Freshen

namespace Disk

variable {d d' d'' : Disk} {l m x : Location} {n : Node} {s : String} {k : Nat}

namespace Clear

lemma found (hc : d.Clear l) (hs : Proper s) (h : d.findEntry (l ++ [s]).path = .ok (x, n)) :
    x = l ++ [s] ∧ d.node? (l ++ [s]) = some n := by
  obtain ⟨hw, hn⟩ := findEntry_iff.mp h
  obtain ⟨rfl, -⟩ := hc.walk_eq hs (.inl rfl) hw
  exact ⟨rfl, hn⟩

lemma missing (hd : d.WellNamed) (hc : d.Clear l) (hs : Proper s)
    (h : d.findEntry (l ++ [s]).path = .error .notFound) : d.Clear (l ++ [s]) := by
  refine hc.concat hs fun t ht => ?_
  rcases fits_or_refused (l ++ [s]).path with hf | ⟨e, hempty, he⟩
  · have hw := walk_of_node? hd hf (by simp) ht false (by simp)
    rw [findEntry_iff.mpr ⟨hw, ht⟩] at h
    cases h
  · rw [findEntry, he] at h
    exact path_ne_empty _ (hempty (Except.error.inj h))

end Clear

lemma Grows.findEntry_notFound {p : Path} (hg : Grows d d')
    (h : d'.findEntry p = .error .notFound) : d.findEntry p = .error .notFound := by
  cases hf : d.findEntry p with
  | ok found =>
    rw [hg.findEntry_ok hf] at h
    cases h
  | error e =>
    by_cases he : e = .notFound
    · rw [he]
    · rw [hg.findEntry_error hf he] at h
      exact h

def addFile (d : Disk) (l : Location) : Disk :=
  (d.newBody (.bytes ⟨#[]⟩) 0o666).2.put l (.file d.bodies.size)

structure Spares (d d' : Disk) : Prop extends Grows d d' where
  contents : ∀ k, k < d.bodies.size → d'.content k = d.content k

lemma Spares.refl (d : Disk) : Spares d d := ⟨.refl d, fun _ _ => rfl⟩

lemma Widens.spares (h : Widens d d') : Spares d d' := ⟨h.grows, fun k _ => h.content k⟩

lemma Widens.trans_spares (h : Widens d d') (h' : Spares d' d'') : Spares d d'' where
  toGrows := h.grows.trans h'.toGrows
  contents k hk := (h'.contents k (h.bodies ▸ hk)).trans (h.content k)

inductive Opens (d : Disk) (l : Location) : Node → Disk → Prop
  | there {n : Node} : d.node? l = some n → n ≠ .directory → Opens d l n d
  | made : d.node? l = none → d.node? l.dropLast = some .directory → Named l →
      Opens d l (.file d.bodies.size) (d.addFile l)

lemma addFile_node? (hl : d.node? l = none) (m : Location) :
    (d.addFile l).node? m = if l = m then some (.file d.bodies.size) else d.node? m := by
  rw [addFile, node?_put _ (ne_nil_of_node? hl), newBody_node?]

lemma addFile_content (d : Disk) (l : Location) :
    (d.addFile l).content d.bodies.size = .bytes ⟨#[]⟩ := by
  simp [addFile, newBody, Disk.put, content]

lemma addFile_spares (hl : d.node? l = none) : Spares d (d.addFile l) where
  current := rfl
  kept m k hk := by
    rw [addFile_node? hl, if_neg, hk]
    rintro rfl
    rw [hl] at hk
    cases hk
  links m t ht := by
    rw [addFile_node? hl] at ht
    split at ht
    · cases ht
    · exact ht
  contents k hk := by
    simp [addFile, newBody, Disk.put, content, Array.getElem?_push, hk.ne]

namespace Opens

lemma spares (h : Opens d l n d') : Spares d d' := by
  cases h with
  | there _ _ => exact .refl d
  | made hl _ _ => exact addFile_spares hl

lemma node? (h : Opens d l n d') : d'.node? l = some n := by
  cases h with
  | there hn _ => exact hn
  | made hl _ _ => rw [addFile_node? hl, if_pos rfl]

lemma wellNamed (h : Opens d l n d') (hd : d.WellNamed) : d'.WellNamed := by
  cases h with
  | there _ _ => exact hd
  | made hl hup hm =>
    refine (hd.newBody _ _).put ?_ hm ?_ ?_ (by simp)
    · rw [newBody_node?, hl]
    · rw [newBody_node?, hup]
    · rintro _ ⟨⟩
      simp [newBody]

end Opens

lemma placeForFile_path (hl : l ≠ []) (hp : ∀ s ∈ l, Proper s) :
    d.placeForFile l.path = d.walk true l.path := by
  obtain ⟨l, s, rfl⟩ := (List.eq_nil_or_concat l).resolve_left hl
  rw [List.concat_eq_append] at *
  have hs : Proper s := hp s (by simp)
  have hne : s ≠ "" := by
    rintro rfl
    exact absurd hs.named (by decide)
  rw [placeForFile, if_pos (Location.withoutSlashes_path hne hs.noSlash), locate]

lemma openToWrite_opens (hc : d.Clear l) (hl : l ≠ [])
    (h : d.openToWrite l.path = .ok (n, d')) : Fits l.path ∧ Opens d l n d' := by
  rw [openToWrite, placeForFile_path hl hc.proper] at h
  split at h
  · cases h
  next m hw =>
  obtain ⟨rfl, hshort⟩ : m = l ∧ ∀ s ∈ l, s.utf8ByteSize ≤ nameLimit := by
    obtain ⟨l, s, rfl⟩ := (List.eq_nil_or_concat l).resolve_left hl
    rw [List.concat_eq_append] at *
    exact (hc.of_prefix (List.prefix_append l [s])).walk_eq (hc.proper s (by simp)) (.inr hc) hw
  refine ⟨fits_of_walk hw, ?_⟩
  split at h
  · cases h
  · next n' hdir hn =>
    cases h
    exact .there hn hdir
  · next hn =>
    split at h
    · next hup =>
      cases h
      exact .made hn hup fun s hs => ⟨hc.proper s hs, hshort s hs⟩
    · cases h
    · cases h

lemma Widens.before (h : Widens d d') (ho : Opens d' l n d'') : d.node? l = some n ∨
    d.node? l = none ∧ ∃ k, n = .file k ∧ d''.content k = .bytes ⟨#[]⟩ := by
  cases ho with
  | there hn hdir =>
    rw [← h.node?_eq (by simpa [hn] using hdir)]
    exact .inl hn
  | made hl _ _ =>
    rw [← h.node?_eq (by simp [hl])]
    exact .inr ⟨hl, _, rfl, addFile_content d' l⟩

end Disk

namespace Database

open Disk

variable {d d' : Disk} {l m : Location} {ps : List (List Char)} {r : Progress} {n : Nat}
  {file : String}

inductive Cleared (d : Disk) : Progress → Prop
  | arrived {l : Location} : d.Clear l → Cleared d (.arrived l)
  | linked {l : Location} {ps : List (List Char)} : d.Clear l → (∀ s ∈ ps, '/' ∉ s) →
      Cleared d (.linked l ps)

lemma clearPath_kept (hd : d.WellNamed) (hd' : d'.WellNamed) (hg : Grows d d') (hc : d'.Clear l)
    (hps : ∀ s ∈ ps, '/' ∉ s) (h : clearPath d' l ps = some r) :
    clearPath d l ps = some r ∧ Cleared d' r := by
  induction ps generalizing l with
  | nil => exact ⟨h, Option.some.inj h ▸ .arrived hc⟩
  | cons s ps ih =>
    have hrest : ∀ w ∈ ps, '/' ∉ w := fun w hw => hps w (List.mem_cons_of_mem s hw)
    rw [clearPath] at h ⊢
    by_cases hidle : Path.isIdle s = true
    · rw [if_pos hidle] at h ⊢
      exact ih hc hrest h
    by_cases hup : s = ['.', '.']
    · rw [if_neg hidle, if_pos hup] at h ⊢
      exact ih (hc.of_prefix (List.dropLast_prefix l)) hrest h
    have hs : Proper (String.ofList s) :=
      ⟨by simpa using hidle, by simpa using hup, by simpa using hps s List.mem_cons_self⟩
    rw [if_neg hidle, if_neg hup] at h ⊢
    dsimp only at h ⊢
    -- What is found on the larger disk decides: if it is a link, it was there before.
    split at h
    · next hf' =>
      rw [hg.findEntry_notFound hf']
      exact ih (hc.missing hd' hs hf') hrest h
    · cases h
    · next x t hf' =>
      obtain ⟨rfl, ht'⟩ := hc.found hs hf'
      have ht := hg.links _ t ht'
      have hfits := fits_of_walk (findEntry_iff.mp hf').1
      have hw := walk_of_node? hd hfits (by simp) ht false (by simp)
      rw [findEntry_iff.mpr ⟨hw, ht⟩]
      refine ⟨h, Option.some.inj h ▸ .linked (hc.startOf _) fun w hw => ?_⟩
      rcases List.mem_append.mp hw with hw | hw
      · exact noSlash_piecesOf _ w hw
      · exact hrest w hw
    · next found hnot hf' =>
      obtain ⟨x, n⟩ := found
      obtain ⟨rfl, hn⟩ := hc.found hs hf'
      have hlink : ∀ t, n ≠ .link t := fun t ht => hnot _ t (congrArg (Prod.mk _) ht)
      have hm : d'.Clear (l ++ [String.ofList s]) :=
        hc.concat hs fun t ht => hlink t (Option.some.inj (hn.symm.trans ht))
      obtain ⟨hkept, hcleared⟩ := ih hm hrest h
      refine ⟨?_, hcleared⟩
      cases hf : d.findEntry (l ++ [String.ofList s]).path with
      | ok found =>
        obtain ⟨y, k⟩ := found
        rw [hg.findEntry_ok hf] at hf'
        obtain ⟨-, rfl⟩ : y = l ++ [String.ofList s] ∧ k = n := by simpa using hf'
        cases k with
        | link t => exact (hlink t rfl).elim
        | _ => exact hkept
      | error e =>
        by_cases he : e = .notFound
        · subst he
          exact hkept
        · rw [hg.findEntry_error hf he] at hf'
          cases hf'

lemma followClear_kept (hd : d.WellNamed) (hd' : d'.WellNamed) (hg : Grows d d') (hc : d'.Clear l)
    (hps : ∀ s ∈ ps, '/' ∉ s) (h : followClear d' n l ps = some m) :
    followClear d n l ps = some m ∧ d'.Clear m := by
  induction n generalizing l ps with
  | zero => cases h
  | succ n ih =>
    rw [followClear] at h ⊢
    cases hr : clearPath d' l ps with
    | none => simp [hr] at h
    | some r =>
      obtain ⟨hkept, hcleared⟩ := clearPath_kept hd hd' hg hc hps hr
      rw [hr] at h
      rw [hkept]
      cases hcleared with
      | arrived hm => exact ⟨h, Option.some.inj h ▸ hm⟩
      | linked hm hqs => exact ih hm hqs h

lemma placeOf?_some (h : placeOf? d file = some l) : l ≠ [] ∧
    followClear d (linkLimit + 1) (startOf d.current ⟨file⟩) (piecesOf ⟨file⟩) = some l := by
  rw [placeOf?] at h
  split at h
  · cases h
  · cases h
  · next m hne hm =>
    split at h
    · cases h
    · obtain rfl := Option.some.inj h
      exact ⟨hne, hm⟩

lemma placeOf?_kept (hd : d.WellNamed) (hd' : d'.WellNamed) (hg : Grows d d')
    (h : placeOf? d' file = some l) : placeOf? d file = some l := by
  obtain ⟨hne, hf⟩ := placeOf?_some h
  obtain ⟨hkept, -⟩ := followClear_kept hd hd' hg ((Clear.current hd').startOf _)
    (noSlash_piecesOf _) hf
  rw [placeOf?, hf] at h
  rw [placeOf?, ← hg.current, hkept]
  exact h

lemma placeOf?_clear (hd : d.WellNamed) (h : placeOf? d file = some l) : d.Clear l :=
  (followClear_kept hd hd (.refl d) ((Clear.current hd).startOf _) (noSlash_piecesOf _)
    (placeOf?_some h).2).2

end Database
end Freshen
