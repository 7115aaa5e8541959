import Freshen.Proofs.Reopening

/-! What the line of one entry says of the others. Between its neighbours in the file, an entry
whose names hold tabs or line breaks is read as entries of other builds and targets. -/

namespace Freshen

namespace FlatFile

variable {a b e : (String × String) × String} {es before later : Entries} {k : String × String}
  {v : String}

lemma precedes_trans (a b c : (String × String) × String) (hab : precedes a b = true)
    (hbc : precedes b c = true) : precedes a c = true :=
  Std.TransCmp.isLE_trans hab hbc

lemma precedes_total (a b : (String × String) × String) :
    (precedes a b || precedes b a) = true := by
  have hswap : precedes b a =
      (compareLex (compareOn (·.1.1)) (compareOn (·.1.2)) a b).swap.isLE :=
    congrArg Ordering.isLE Std.OrientedCmp.eq_swap
  rw [hswap, precedes]
  cases compareLex (compareOn (·.1.1)) (compareOn (·.1.2)) a b <;> rfl

lemma precedes_antisymm (hab : precedes a b = true) (hba : precedes b a = true) : a.1 = b.1 := by
  have heq := Std.OrientedCmp.isLE_antisymm hab hba
  rw [compareLex_eq_eq] at heq
  exact Prod.ext (Std.LawfulEqCmp.eq_of_compare heq.1) (Std.LawfulEqCmp.eq_of_compare heq.2)

structure Placed (e : (String × String) × String) (es before later : Entries) : Prop where
  sorted : (Keyed.set e.1 e.2 es).mergeSort precedes = before ++ e :: later
  distinct : Keyed.Distinct (before ++ e :: later)
  plain : ∀ d ∈ before ++ later, Plain d
  ahead : ∀ d ∈ before, precedes d e = true
  behind : ∀ d ∈ later, precedes e d = true

lemma Lasting.placed (h : Lasting es) (e : (String × String) × String) :
    ∃ before later, Placed e es before later := by
  have hperm := List.mergeSort_perm (Keyed.set e.1 e.2 es) precedes
  have hpair := List.pairwise_mergeSort precedes_trans precedes_total (Keyed.set e.1 e.2 es)
  have hdistinct := (h.1.set e.1 e.2).perm hperm.symm
  have hmem : e ∈ (Keyed.set e.1 e.2 es).mergeSort precedes := by
    rw [hperm.mem_iff, ← Keyed.get?_eq_some_iff (h.1.set e.1 e.2), Keyed.get?_set, if_pos rfl]
  obtain ⟨before, later, hsort⟩ := List.append_of_mem hmem
  rw [hsort] at hdistinct hpair hperm
  obtain ⟨-, hlater, hbefore⟩ := List.pairwise_append.mp hpair
  refine ⟨before, later, hsort, hdistinct, fun d hd => ?_,
    fun d hd => hbefore d hd e List.mem_cons_self, (List.pairwise_cons.mp hlater).1⟩
  have hne : d ≠ e := by
    rintro rfl
    have hnodup := List.Nodup.of_map _ hdistinct
    rw [List.nodup_middle, List.nodup_cons] at hnodup
    exact hnodup.1 hd
  have hset : d ∈ Keyed.set e.1 e.2 es := hperm.mem_iff.mp (by
    rcases List.mem_append.mp hd with hd | hd <;> simp [hd])
  exact h.2 d ((Keyed.mem_of_mem_set hset).resolve_left hne)

namespace Placed

lemma said_eq (h : Placed e es before later) :
    said (Keyed.set e.1 e.2 es) = before ++ (saidBy (entryLine e) ++ later) := by
  rw [said, h.sorted, List.flatMap_append, List.flatMap_cons,
    saidBy_plain fun d hd => h.plain d (List.mem_append_left later hd),
    saidBy_plain fun d hd => h.plain d (List.mem_append_right before hd)]

lemma get?_set (h : Placed e es before later) (hes : Keyed.Distinct es) (hk : k ≠ e.1) :
    Keyed.get? es k = (Keyed.get? before k).or (Keyed.get? later k) := by
  have hset : Keyed.get? es k = Keyed.get? (Keyed.set e.1 e.2 es) k := by
    rw [Keyed.get?_set, if_neg hk.symm]
  have hperm := List.mergeSort_perm (Keyed.set e.1 e.2 es) precedes
  rw [hset, (hes.set e.1 e.2).get?_perm hperm.symm, h.sorted, Keyed.get?_append, Keyed.get?_cons,
    if_neg hk.symm]

lemma get?_said (h : Placed e es before later) :
    Keyed.get? (said (Keyed.set e.1 e.2 es)).reverse k = (Keyed.get? later k).or
      ((Keyed.get? (saidBy (entryLine e)).reverse k).or (Keyed.get? before k)) := by
  have hd := h.distinct
  rw [Keyed.Distinct, List.map_append, List.map_cons, List.nodup_append, List.nodup_cons] at hd
  rw [h.said_eq, List.reverse_append, List.reverse_append, Keyed.get?_append, Keyed.get?_append,
    Option.or_assoc, Keyed.Distinct.get?_reverse hd.1, Keyed.Distinct.get?_reverse hd.2.1.2]

lemma get?_before (h : Placed e es before later) (hv : Keyed.get? later k = some v) :
    Keyed.get? before k = none := by
  have hd := h.distinct
  rw [Keyed.Distinct, List.map_append, List.map_cons, List.nodup_append] at hd
  rw [Keyed.get?_eq_none_iff]
  exact fun hk => hd.2.2 k hk k (List.mem_cons_of_mem _ (Keyed.mem_keys_of_get? hv)) rfl

end Placed

lemma Lasting.get?_said_iff (h : Lasting es) (hk : k ≠ e.1) :
    Keyed.get? (said (Keyed.set e.1 e.2 es)).reverse k = Keyed.get? es k ↔
      ∀ v, Keyed.get? (saidBy (entryLine e)).reverse k = some v →
        ∃ w, Keyed.get? es k = some w ∧ (w = v ∨ precedes e (k, w) = true) := by
  obtain ⟨before, later, hplaced⟩ := h.placed e
  have hes := hplaced.get?_set h.1 hk
  rw [hplaced.get?_said]
  -- What stands after the new entry has the last word, then what the new entry says.
  cases hlater : Keyed.get? later k with
  | some w =>
    have hw : Keyed.get? es k = some w := by
      rw [hes, hplaced.get?_before hlater, hlater, Option.none_or]
    have hafter := hplaced.behind _ (Keyed.mem_of_get? hlater)
    simp [hw, hafter]
  | none =>
    rw [hlater, Option.or_none] at hes
    rw [Option.none_or, hes]
    cases hsaid : Keyed.get? (saidBy (entryLine e)).reverse k with
    | none => simp
    | some v =>
      have hbefore : ∀ w, Keyed.get? before k = some w → ¬ precedes e (k, w) = true :=
        fun w hw hlate =>
          hk (precedes_antisymm (hplaced.ahead _ (Keyed.mem_of_get? hw)) hlate)
      rw [Option.some_or]
      constructor
      · intro heq u hu
        exact ⟨v, heq.symm, .inl (Option.some.inj hu)⟩
      · intro hall
        obtain ⟨w, hw, rfl | hlate⟩ := hall v rfl
        · exact hw.symm
        · exact (hbefore w hw hlate).elim

end FlatFile

namespace DigestStore

open Disk

variable {d d' : Disk} {p : Path} {es : Entries} {e : (String × String) × String}
  {s' : DigestStore}

lemma openFlatFile_saved (hd : d.Sound)
    (hsave : save d (.flatFile p es) e.1.1 e.1.2 e.2 = ⟨.ok (), d', s'⟩)
    (hp : d.isFile p = true ∨ ∀ l, d'.find p ≠ .ok (l, .null)) :
    (openFlatFile d' p).store =
      .ok (.flatFile p (Keyed.merge [] (FlatFile.said (Keyed.set e.1 e.2 es)))) := by
  obtain ⟨-, hf⟩ := save_filled hd hsave
  obtain ⟨r, hparse, hr⟩ := FlatFile.parse_render (Keyed.set e.1 e.2 es)
  rw [openFlatFile_of_read (hf.read (hp.elim (hf.grows.not_null ·) id)) hparse, hr]

lemma get?_saved (k : String × String) :
    Keyed.get? (Keyed.merge [] (FlatFile.said (Keyed.set e.1 e.2 es))) k =
      Keyed.get? (FlatFile.said (Keyed.set e.1 e.2 es)).reverse k := by
  rw [Keyed.get?_merge, Keyed.get?_nil, Option.or_none]

/-- Opened again, the file answers with what it says last; of other entries that is what it was
unless the lines of the new one say something else. -/
theorem load_after_reopening (hd : d.Sound)
    (hsave : save d (.flatFile p es) e.1.1 e.1.2 e.2 = ⟨.ok (), d', s'⟩)
    (hp : d.isFile p = true ∨ ∀ l, d'.find p ≠ .ok (l, .null)) :
    ∃ r, (openFlatFile d' p).store = .ok (.flatFile p r) ∧
      (∀ k : String × String, load d' (.flatFile p r) k.1 k.2 =
        .ok (Keyed.get? (FlatFile.said (Keyed.set e.1 e.2 es)).reverse k)) ∧
      (FlatFile.Lasting es → ∀ k, k ≠ e.1 →
        (load d' (.flatFile p r) k.1 k.2 = load d (.flatFile p es) k.1 k.2 ↔
          ∀ v, Keyed.get? (FlatFile.saidBy (FlatFile.entryLine e)).reverse k = some v →
            ∃ w, Keyed.get? es k = some w ∧ (w = v ∨ FlatFile.precedes e (k, w) = true))) ∧
      (FlatFile.Lasting es → FlatFile.Plain e → ∀ k, k ≠ e.1 →
        load d' (.flatFile p r) k.1 k.2 = load d (.flatFile p es) k.1 k.2) := by
  have hload : ∀ k : String × String, k ≠ e.1 → (load d' (.flatFile p (Keyed.merge []
      (FlatFile.said (Keyed.set e.1 e.2 es)))) k.1 k.2 = load d (.flatFile p es) k.1 k.2 ↔
        Keyed.get? (FlatFile.said (Keyed.set e.1 e.2 es)).reverse k = Keyed.get? es k) := by
    intro k _
    rw [← get?_saved, load, load, Except.ok.injEq]
  refine ⟨_, openFlatFile_saved hd hsave hp, fun k => congrArg _ (get?_saved k),
    fun hes k hk => (hload k hk).trans (hes.get?_said_iff hk), fun hes he k hk => ?_⟩
  rw [hload k hk, hes.get?_said_iff hk, he.saidBy_eq]
  intro v hv
  rw [List.reverse_singleton, Keyed.get?_cons, if_neg hk.symm] at hv
  cases hv

def forged : (String × String) × String := (("web", "t\tab\nlib\tu"), "cd")

lemma said_forged : FlatFile.said (Keyed.set forged.1 forged.2 [(("id", "t"), "cafe")]) =
    [(("id", "t"), "cafe"), (("web", "t"), "ab"), (("lib", "u"), "cd")] := by
  rw [FlatFile.said, List.mergeSort_of_pairwise (by decide +kernel)]
  decide +kernel

lemma ledger_lasting : FlatFile.Lasting [(("id", "t"), "cafe")] :=
  ⟨List.nodup_singleton _, fun _ he =>
    List.mem_singleton.mp he ▸ OneField.plain (e := (("id", "t"), "cafe")) (by decide +kernel)⟩

lemma forged_saved : ∃ d' s', save ledger (.flatFile ⟨"digests"⟩ [(("id", "t"), "cafe")])
    forged.1.1 forged.1.2 forged.2 = ⟨.ok (), d', s'⟩ :=
  ⟨_, _, save_ok ledger_find (by decide +kernel) (by decide +kernel) _ _ _⟩

theorem load_after_reopening_forged :
    ∃ d' s' r, save ledger (.flatFile ⟨"digests"⟩ [(("id", "t"), "cafe")])
        forged.1.1 forged.1.2 forged.2 = ⟨.ok (), d', s'⟩ ∧
      (openFlatFile d' ⟨"digests"⟩).store = .ok (.flatFile ⟨"digests"⟩ r) ∧
      load d' (.flatFile ⟨"digests"⟩ r) "lib" "u" = .ok (some "cd") ∧
      load d' (.flatFile ⟨"digests"⟩ r) "id" "t" = .ok (some "cafe") := by
  obtain ⟨d', s', hsave⟩ := forged_saved
  obtain ⟨r, hopen, hload, hiff, -⟩ :=
    load_after_reopening ledger_sound hsave (.inl (by decide +kernel))
  refine ⟨d', s', r, hsave, hopen, ?_, ?_⟩
  · rw [hload ("lib", "u"), said_forged]
    decide
  · rw [(hiff ledger_lasting ("id", "t") (by decide)).mpr (by decide +kernel)]
    decide

theorem entry_forged : ¬ ∀ (d d' : Disk) (p : Path) (es : Entries) (s' : DigestStore)
    (b₁ t₁ b₂ t₂ digest : String), d.Sound → (openFlatFile d p).store = .ok (.flatFile p es) →
    d.isFile p = true → (b₁, t₁) ≠ (b₂, t₂) →
    (∀ name ∈ [b₁, t₁, b₂, t₂], Text.allBlank name = false) → IsHex digest →
    save d (.flatFile p es) b₁ t₁ digest = ⟨.ok (), d', s'⟩ →
    ∃ r, (openFlatFile d' p).store = .ok (.flatFile p r) ∧
      load d' (.flatFile p r) b₂ t₂ = load d (.flatFile p es) b₂ t₂ := by
  intro hall
  have hfile : ledger.isFile ⟨"digests"⟩ = true := by decide +kernel
  obtain ⟨d', s', hsave⟩ := forged_saved
  obtain ⟨r, hopen, hload⟩ := hall ledger _ _ _ _ _ _ "lib" "u" _ ledger_sound ledger_open hfile
    (by decide) (by decide +kernel) (by decide +kernel) hsave
  rw [openFlatFile_saved ledger_sound hsave (.inl hfile), said_forged] at hopen
  cases hopen
  exact absurd (Except.ok.inj hload) (by decide)

end DigestStore
end Freshen
