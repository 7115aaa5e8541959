import Freshen.DigestStore
import Freshen.Proofs.FlatFile
import Freshen.Proofs.Writing

/-! Flat files of digests that are opened again after something has been saved to them. -/

namespace Freshen

def hexDigits : List Char := (List.range 16).map Digest.hexDigit

def IsHex (s : String) : Prop := s ≠ "" ∧ s.toList.all hexDigits.contains = true

/-- An entry with a digest, and with names of a single field each. -/
structure OneField (e : (String × String) × String) : Prop where
  build : '\t' ∉ e.1.1.toList ∧ '\n' ∉ e.1.1.toList
  target : '\t' ∉ e.1.2.toList ∧ '\n' ∉ e.1.2.toList
  digest : IsHex e.2

instance (s : String) : Decidable (IsHex s) :=
  inferInstanceAs (Decidable (s ≠ "" ∧ s.toList.all hexDigits.contains = true))

instance (e : (String × String) × String) : Decidable (OneField e) :=
  decidable_of_iff (('\t' ∉ e.1.1.toList ∧ '\n' ∉ e.1.1.toList) ∧
      ('\t' ∉ e.1.2.toList ∧ '\n' ∉ e.1.2.toList) ∧ IsHex e.2)
    ⟨fun h => ⟨h.1, h.2.1, h.2.2⟩, fun h => ⟨h.build, h.target, h.digest⟩⟩

lemma IsHex.visible {s : String} (h : IsHex s) : ∀ c ∈ s.toList, Text.isBlank c = false := by
  have hdigits : hexDigits.all (!Text.isBlank ·) = true := by decide
  intro c hc
  have hmem : c ∈ hexDigits := List.contains_iff_mem.mp (List.all_eq_true.mp h.2 c hc)
  simpa using List.all_eq_true.mp hdigits c hmem

lemma OneField.plain {e : (String × String) × String} (h : OneField e) : FlatFile.Plain e where
  build := h.build
  target := h.target
  digest hn := by
    have hv := h.digest.visible _ hn
    revert hv
    decide
  trimmed := Text.trim_of_visible h.digest.visible
  visible := by
    have hne : e.2.toList ≠ [] := fun hnil => h.digest.1 (String.toList_eq_nil_iff.mp hnil)
    obtain ⟨c, cs, hcs⟩ := List.exists_cons_of_ne_nil hne
    have hc : c ∈ e.2.toList := by simp [hcs]
    exact ⟨c, by simp [hc], h.digest.visible c hc⟩

namespace DigestStore

open Disk

variable {d d' : Disk} {p : Path} {es m : Entries} {b : ByteArray} {s' : DigestStore}

def saveAll (disk : Disk) (s : DigestStore) : Entries → Except StoreError (Disk × DigestStore)
  | [] => .ok (disk, s)
  | e :: es =>
    match save disk s e.1.1 e.1.2 e.2 with
    | ⟨.error err, _, _⟩ => .error err
    | ⟨.ok (), disk, s⟩ => saveAll disk s es

lemma openFlatFile_of_read {r : FlatFile.Reading} (h : d.read p = .ok (.ok b))
    (hb : FlatFile.parse b = (.ok (), r)) :
    (openFlatFile d p).store = .ok (.flatFile p r.entries) := by
  have hexists : d.exists_ p = true := by
    rw [Disk.read] at h
    rw [exists_]
    cases hf : d.find p with
    | error e => simp [hf] at h
    | ok x => rfl
  simp [openFlatFile, hexists, h, hb]

lemma openFlatFile_text {text : String} (h : d.read p = .ok (.ok text.toUTF8)) :
    (openFlatFile d p).store = .ok (.flatFile p (Keyed.merge [] (FlatFile.saidBy text))) := by
  rw [openFlatFile_of_read h (FlatFile.parse_text text), ← FlatFile.entries_parse_text,
    FlatFile.parse_text]

lemma lasting_of_open (h : (openFlatFile d p).store = .ok (.flatFile p m)) :
    FlatFile.Lasting m := by
  rw [openFlatFile] at h
  split at h
  · obtain rfl : [] = m := by simpa using h
    exact ⟨Keyed.distinct_nil, by simp⟩
  · split at h
    · cases h
    · cases h
    split at h
    · next r hr =>
      obtain rfl : r.entries = m := by simpa using h
      exact FlatFile.lasting_of_parse hr
    · cases h

lemma makeParent_ok {kind : String} (h : makeParent kind d p = .ok d') :
    d' = d ∨ ∃ q, d.makeDirectories q = .ok d' := by
  rw [makeParent] at h
  split at h
  · exact .inl (Except.ok.inj h).symm
  · next q _ =>
    cases hq : d.makeDirectories q with
    | error e => simp [hq, Except.mapError] at h
    | ok d₁ =>
      obtain rfl : d₁ = d' := by simpa [hq, Except.mapError] using h
      exact .inr ⟨q, hq⟩

lemma makeParent_grows {kind : String} (hs : d.Sound) (h : makeParent kind d p = .ok d') :
    d'.Sound ∧ d.Grows d' := by
  rcases makeParent_ok h with rfl | ⟨q, hq⟩
  · exact ⟨hs, .refl d'⟩
  · exact makeDirectoriesWithin_grows hs hq

lemma saveFlatFile_filled {r : Disk} (hs : d.Sound) (h : saveFlatFile d p es = (.ok d', r)) :
    d.Filled p (.bytes (FlatFile.render es).toUTF8) d' := by
  rw [saveFlatFile] at h
  split at h
  · cases h
  next d₁ hparent =>
  obtain ⟨hs₁, hg₁⟩ := makeParent_grows hs hparent
  split at h
  · next d₂ hwrite =>
    obtain rfl : d₂ = d' := by simpa using congrArg Prod.fst h
    have hf := writeContent_filled hs₁ hwrite
    exact { hf with grows := hg₁.trans hf.grows }
  · cases h

lemma save_filled {id target digest : String} (hs : d.Sound)
    (h : save d (.flatFile p es) id target digest = ⟨.ok (), d', s'⟩) :
    s' = .flatFile p (Keyed.set (id, target) digest es) ∧
      d.Filled p (.bytes (FlatFile.render (Keyed.set (id, target) digest es)).toUTF8) d' := by
  revert h
  simp only [save]
  split
  · next hsave =>
    intro h
    cases h
    exact ⟨rfl, saveFlatFile_filled hs hsave⟩
  · intro h
    cases h

lemma saveAll_filled {saves : Entries} (hs : d.Sound)
    (h : saveAll d (.flatFile p es) saves = .ok (d', s')) (hne : saves ≠ []) :
    d.Filled p (.bytes (FlatFile.render (Keyed.merge es saves)).toUTF8) d' := by
  induction saves generalizing d es with
  | nil => exact (hne rfl).elim
  | cons e saves ih =>
    rw [saveAll] at h
    split at h
    · cases h
    next d₁ s₁ hsave =>
    obtain ⟨rfl, hfirst⟩ := save_filled hs hsave
    cases saves with
    | nil =>
      obtain rfl := congrArg Prod.fst (Except.ok.inj h)
      exact hfirst
    | cons e' saves =>
      have hrest := ih hfirst.sound h (List.cons_ne_nil e' saves)
      exact { hrest with grows := hfirst.grows.trans hrest.grows }

lemma save_ok {l : Location} {number : Nat} (hf : d.find p = .ok (l, .file number))
    (hp : p.withoutSlashes = p) (hup : p.parent? = some ⟨""⟩) (id target digest : String) :
    save d (.flatFile p es) id target digest =
      ⟨.ok (), d.setContent number
          (.bytes (FlatFile.render (Keyed.set (id, target) digest es)).toUTF8),
        .flatFile p (Keyed.set (id, target) digest es)⟩ := by
  have hparent : makeParent "digest" d p = .ok d := by
    rw [makeParent, hup]
    rfl
  simp only [save, saveFlatFile, hparent, write, writeContent_file hf hp]

lemma saveAll_ok {l : Location} {number : Nat} (hf : d.find p = .ok (l, .file number))
    (hp : p.withoutSlashes = p) (hup : p.parent? = some ⟨""⟩) (m saves : Entries) :
    ∃ d' s', saveAll d (.flatFile p m) saves = .ok (d', s') := by
  induction saves generalizing d m with
  | nil => exact ⟨d, .flatFile p m, rfl⟩
  | cons e saves ih =>
    have hg := grows_setContent d number
    simp only [saveAll, save_ok hf hp hup]
    exact ih ((hg _).find hf) _

theorem reopened_after_saves (hd : d.Sound) :
    (∀ text : String, d.read p = .ok (.ok text.toUTF8) →
      (openFlatFile d p).store = .ok (.flatFile p (Keyed.merge [] (FlatFile.saidBy text)))) ∧
    ∀ (m saves : Entries) (d' : Disk) (s' : DigestStore),
      (openFlatFile d p).store = .ok (.flatFile p m) → (∀ e ∈ saves, OneField e) →
      saveAll d (.flatFile p m) saves = .ok (d', s') →
      (d.isFile p = true ∨ ∀ l, d'.find p ≠ .ok (l, .null)) →
      ∃ es, (openFlatFile d' p).store = .ok (.flatFile p es) ∧
        es.Perm (Keyed.merge m saves) ∧
        ∀ k, Keyed.get? es k = Keyed.get? (Keyed.merge m saves) k := by
  refine ⟨fun text h => openFlatFile_text h, ?_⟩
  intro m saves d' s' hopen hsaves hall hp
  have hm := lasting_of_open hopen
  cases saves with
  | nil =>
    obtain rfl : d = d' := congrArg Prod.fst (Except.ok.inj hall)
    exact ⟨m, hopen, .refl m, fun _ => rfl⟩
  | cons e saves =>
    have hf := saveAll_filled hd hall (List.cons_ne_nil e saves)
    have hread : d'.read p = _ := hf.read
      (hp.elim (hf.grows.not_null ·) id)
    have hl : FlatFile.Lasting (Keyed.merge m (e :: saves)) :=
      hm.merge fun f hmem => (hsaves f hmem).plain
    obtain ⟨r, hparse, hr⟩ := hl.parse_render
    have hperm := List.mergeSort_perm (Keyed.merge m (e :: saves)) FlatFile.precedes
    refine ⟨r.entries, openFlatFile_of_read hread hparse, hr ▸ hperm, fun k => ?_⟩
    rw [hr]
    exact (hl.1.get?_perm hperm.symm k).symm

def ledger : Disk :=
  ((Disk.bare ["work"]).newBody (.bytes "garbage\nid\tt\tcafe \r\n\n".toUTF8) 0o666).2.put
    ["work", "digests"] (.file 0)

lemma ledger_sound : ledger.Sound := by
  refine ((sound_bare _).newBody _ _).put ?_ ?_ ?_ ?_
  · decide
  · decide
  · intro number h
    rw [← Node.file.inj h]
    decide
  · simp

lemma ledger_find : ledger.find ⟨"digests"⟩ = .ok (["work", "digests"], .file 0) := by
  decide +kernel

lemma ledger_read :
    ledger.read ⟨"digests"⟩ = .ok (.ok "garbage\nid\tt\tcafe \r\n\n".toUTF8) := by
  rw [Disk.read, ledger_find]
  rfl

lemma ledger_open : (openFlatFile ledger ⟨"digests"⟩).store =
    .ok (.flatFile ⟨"digests"⟩ [(("id", "t"), "cafe")]) := by
  rw [openFlatFile_text ledger_read]
  decide +kernel

theorem reopened_after_saves_ledger :
    (openFlatFile ledger ⟨"digests"⟩).store = .ok (.flatFile ⟨"digests"⟩
      (Keyed.merge [] (FlatFile.saidBy "garbage\nid\tt\tcafe \r\n\n"))) ∧
    ∃ d' s' es, saveAll ledger (.flatFile ⟨"digests"⟩ [(("id", "t"), "cafe")])
        [(("id", "u"), "beef"), (("id", "u"), "f00d"), (("app", ""), "0")] = .ok (d', s') ∧
      (openFlatFile d' ⟨"digests"⟩).store = .ok (.flatFile ⟨"digests"⟩ es) ∧
      es.Perm [(("id", "t"), "cafe"), (("id", "u"), "f00d"), (("app", ""), "0")] := by
  refine ⟨(reopened_after_saves ledger_sound).1 _ ledger_read, ?_⟩
  obtain ⟨d', s', hall⟩ := saveAll_ok ledger_find (by decide +kernel) (by decide +kernel)
    [(("id", "t"), "cafe")] [(("id", "u"), "beef"), (("id", "u"), "f00d"), (("app", ""), "0")]
  obtain ⟨es, hes, hperm, -⟩ := (reopened_after_saves ledger_sound).2 _ _ d' s' ledger_open
    (by decide +kernel) hall (.inl (by decide +kernel))
  exact ⟨d', s', es, hall, hes, hperm⟩

end DigestStore
end Freshen
