import Freshen.Disk.Change
import Freshen.Proofs.Keys

/-! Writing to a disk. Directories are added and files are filled, and whatever could be found
before is found where it was; what has been written can be read, unless it went to a device. -/

namespace Freshen.Disk

variable {d d' d'' : Disk} {p : Path} {l m : Location} {n : Node} {last : Bool} {s : List Char}
  {ps rest : List (List Char)} {t : String} {r : Progress} {c : Content} {fuel number : Nat}

structure Enters (d : Disk) (l : Location) (s : List Char) : Prop where
  directory : d.node? l = some .directory
  named : Path.isIdle s = false
  notUp : s ≠ ['.', '.']
  short : (String.ofList s).utf8ByteSize ≤ nameLimit

inductive Descends (d : Disk) (last : Bool) : Location → List (List Char) → Progress → Prop
  | arrived (l : Location) : Descends d last l [] (.arrived l)
  | idle {l : Location} {s : List Char} {rest : List (List Char)} {r : Progress} :
      d.node? l = some .directory → Path.isIdle s = true → Descends d last l rest r →
      Descends d last l (s :: rest) r
  | up {l : Location} {rest : List (List Char)} {r : Progress} :
      d.node? l = some .directory → Descends d last l.dropLast rest r →
      Descends d last l (['.', '.'] :: rest) r
  | name {l : Location} {s : List Char} {rest : List (List Char)} {r : Progress} :
      Enters d l s → (∀ t, d.node? (l ++ [String.ofList s]) ≠ some (.link t)) →
      Descends d last (l ++ [String.ofList s]) rest r → Descends d last l (s :: rest) r
  | atLink {l : Location} {s : List Char} {t : String} : Enters d l s → last = false →
      d.node? (l ++ [String.ofList s]) = some (.link t) →
      Descends d last l [s] (.arrived (l ++ [String.ofList s]))
  | linked {l : Location} {s : List Char} {rest : List (List Char)} {t : String} : Enters d l s →
      (rest.isEmpty && !last) = false →
      d.node? (l ++ [String.ofList s]) = some (.link t) →
      Descends d last l (s :: rest) (.linked (startOf l ⟨t⟩) (piecesOf ⟨t⟩ ++ rest))

lemma descends_of_descend (h : d.descend last l ps = .ok r) : d.Descends last l ps r := by
  induction ps generalizing l with
  | nil =>
    rw [descend, Except.ok.injEq] at h
    exact h ▸ .arrived l
  | cons s rest ih =>
    rw [descend] at h
    split at h
    · cases h
    · next hl =>
      by_cases hidle : Path.isIdle s = true
      · rw [if_pos hidle] at h
        exact .idle hl hidle (ih h)
      rw [if_neg hidle] at h
      by_cases hup : s = ['.', '.']
      · rw [if_pos hup] at h
        exact hup ▸ .up hl (ih h)
      rw [if_neg hup] at h
      by_cases hlong : (String.ofList s).utf8ByteSize > nameLimit
      · rw [if_pos hlong] at h
        cases h
      rw [if_neg hlong] at h
      have hin : d.Enters l s := ⟨hl, by simpa using hidle, hup, not_lt.mp hlong⟩
      dsimp only at h
      split at h
      · next t ht =>
        by_cases hstop : (rest.isEmpty && !last) = true
        · rw [if_pos hstop, Except.ok.injEq] at h
          obtain ⟨hrest, hlast⟩ := Bool.and_eq_true_iff.mp hstop
          obtain rfl := List.isEmpty_iff.mp hrest
          exact h ▸ .atLink hin (by simpa using hlast) ht
        · rw [if_neg hstop, Except.ok.injEq] at h
          exact h ▸ .linked hin (by simpa using hstop) ht
      · next hnot => exact .name hin hnot (ih h)
    · cases h

lemma Descends.descend_eq (h : d.Descends last l ps r) : d.descend last l ps = .ok r := by
  induction h with
  | arrived l => rfl
  | idle hl hs _ ih => simp [descend, hl, hs, ih]
  | up hl _ ih => simp [descend, hl, Path.isIdle, ih]
  | name hin hnot _ ih =>
    rw [descend, hin.directory]
    simp only [hin.named, hin.notUp, if_false, not_lt.mpr hin.short, Bool.false_eq_true]
    exact ih
  | atLink hin hlast ht =>
    rw [descend, hin.directory]
    simp [hin.named, hin.notUp, not_lt.mpr hin.short, ht, hlast]
  | linked hin hgo ht =>
    rw [descend, hin.directory]
    simp only [hin.named, hin.notUp, if_false, not_lt.mpr hin.short, Bool.false_eq_true, ht, hgo]

structure Grows (d d' : Disk) : Prop where
  current : d'.current = d.current
  kept : ∀ l n, d.node? l = some n → d'.node? l = some n
  links : ∀ l t, d'.node? l = some (.link t) → d.node? l = some (.link t)

namespace Grows

lemma of_node? (hc : d'.current = d.current) (hn : ∀ l, d'.node? l = d.node? l) : Grows d d' :=
  ⟨hc, fun l _ h => (hn l).trans h, fun l _ h => (hn l).symm.trans h⟩

lemma refl (d : Disk) : Grows d d := of_node? rfl fun _ => rfl

lemma trans (h : Grows d d') (h' : Grows d' d'') : Grows d d'' where
  current := h'.current.trans h.current
  kept l n hn := h'.kept l n (h.kept l n hn)
  links l t hn := h.links l t (h'.links l t hn)

lemma enters (h : Grows d d') (hin : d.Enters l s) : d'.Enters l s :=
  { hin with directory := h.kept _ _ hin.directory }

lemma descends (h : Grows d d') (hr : d.Descends last l ps r) : d'.Descends last l ps r := by
  induction hr with
  | arrived l => exact .arrived l
  | idle hl hs _ ih => exact .idle (h.kept _ _ hl) hs ih
  | up hl _ ih => exact .up (h.kept _ _ hl) ih
  | name hin hnot _ ih => exact .name (h.enters hin) (fun t ht => hnot t (h.links _ t ht)) ih
  | atLink hin hlast ht => exact .atLink (h.enters hin) hlast (h.kept _ _ ht)
  | linked hin hgo ht => exact .linked (h.enters hin) hgo (h.kept _ _ ht)

lemma follow (h : Grows d d') (hm : d.follow last fuel l ps = .ok m) :
    d'.follow last fuel l ps = .ok m := by
  induction fuel generalizing l ps with
  | zero => cases hm
  | succ fuel ih =>
    rw [Disk.follow] at hm ⊢
    cases hr : d.descend last l ps with
    | error e => simp [hr] at hm
    | ok r =>
      rw [(h.descends (descends_of_descend hr)).descend_eq]
      rw [hr] at hm
      cases r with
      | arrived l => exact hm
      | linked l ps => exact ih hm

lemma walk (h : Grows d d') (hl : d.walk last p = .ok l) : d'.walk last p = .ok l := by
  rw [Disk.walk] at hl ⊢
  split at hl
  · cases hl
  · split at hl
    · cases hl
    · split at hl
      · cases hl
      · next he hz hs =>
        rw [if_neg he, if_neg hz, if_neg hs, h.current]
        exact h.follow hl

end Grows

lemma bind_nodeAt_iff {r : Except OsError Location} :
    r.bind d.nodeAt = .ok (l, n) ↔ r = .ok l ∧ d.node? l = some n := by
  cases r with
  | error e => simp [Except.bind]
  | ok m =>
    simp only [Except.bind, nodeAt, Except.ok.injEq]
    constructor
    · intro h
      split at h
      · cases h
      · next n' hn =>
        obtain ⟨rfl, rfl⟩ : m = l ∧ n' = n := by simpa using h
        exact ⟨rfl, hn⟩
    · rintro ⟨rfl, hn⟩
      rw [hn]

lemma find_iff : d.find p = .ok (l, n) ↔ d.locate p = .ok l ∧ d.node? l = some n :=
  bind_nodeAt_iff

lemma findEntry_iff : d.findEntry p = .ok (l, n) ↔ d.walk false p = .ok l ∧ d.node? l = some n :=
  bind_nodeAt_iff

lemma Grows.find (h : Grows d d') (hf : d.find p = .ok (l, n)) : d'.find p = .ok (l, n) := by
  obtain ⟨hl, hn⟩ := find_iff.mp hf
  exact find_iff.mpr ⟨h.walk hl, h.kept l n hn⟩

lemma Grows.not_null (hg : Grows d d') (h : d.isFile p = true) (l : Location) :
    d'.find p ≠ .ok (l, .null) := by
  rw [isFile] at h
  split at h
  · next m number hf =>
    rw [hg.find hf]
    intro hnull
    cases hnull
  · cases h

structure Sound (d : Disk) : Prop where
  up : ∀ l n, d.node? l = some n → d.node? l.dropLast = some .directory
  body : ∀ l number, d.node? l = some (.file number) → number < d.bodies.size

lemma Descends.not_link (h : d.Descends true l ps r) (hs : d.Sound) (hm : r = .arrived m)
    (hl : ps = [] → ∀ t, d.node? l ≠ some (.link t)) : ∀ t, d.node? m ≠ some (.link t) := by
  induction h with
  | arrived l =>
    cases hm
    exact hl rfl
  | idle hd _ _ ih => exact ih hm fun _ t ht => by simp [hd] at ht
  | up hd _ ih => exact ih hm fun _ t ht => by simp [hs.up _ _ hd] at ht
  | name _ hnot _ ih => exact ih hm fun _ => hnot
  | atLink _ hlast _ => cases hlast
  | linked _ _ _ => cases hm

lemma Descends.linked_ne_nil (h : d.Descends last l ps r) (hr : r = .linked m rest) :
    rest ≠ [] := by
  induction h with
  | arrived l => cases hr
  | idle _ _ _ ih | up _ _ ih | name _ _ _ ih => exact ih hr
  | atLink _ _ _ => cases hr
  | linked _ _ _ =>
    cases hr
    simp [piecesOf, Text.pieces_ne_nil]

lemma Sound.follow_not_link (hs : d.Sound) (hps : ps ≠ []) (h : d.follow true fuel l ps = .ok m) :
    ∀ t, d.node? m ≠ some (.link t) := by
  induction fuel generalizing l ps with
  | zero => cases h
  | succ fuel ih =>
    rw [follow] at h
    cases hr : d.descend true l ps with
    | error e => simp [hr] at h
    | ok r =>
      rw [hr] at h
      have hd := descends_of_descend hr
      cases r with
      | arrived l =>
        cases h
        exact hd.not_link hs rfl fun hnil => (hps hnil).elim
      | linked l ps => exact ih (hd.linked_ne_nil rfl) h

lemma Sound.locate_not_link (hs : d.Sound) (h : d.locate p = .ok l) :
    ∀ t, d.node? l ≠ some (.link t) := by
  rw [locate, walk] at h
  split at h
  · cases h
  · split at h
    · cases h
    · split at h
      · cases h
      · exact hs.follow_not_link (Text.pieces_ne_nil _ _) h

lemma node?_put (d : Disk) (hl : l ≠ []) (n : Node) (m : Location) :
    (d.put l n).node? m = if l = m then some n else d.node? m := by
  cases m with
  | nil => simp [node?, hl]
  | cons a m => exact Keyed.get?_set d.nodes l (a :: m) n

lemma ne_nil_of_node? (h : d.node? l = none) : l ≠ [] := by
  rintro rfl
  cases h

lemma grows_put (hl : d.node? l = none) (hn : ∀ t, n ≠ .link t) : Grows d (d.put l n) where
  current := rfl
  kept m k hk := by
    rw [node?_put d (ne_nil_of_node? hl), if_neg, hk]
    rintro rfl
    rw [hl] at hk
    cases hk
  links m t ht := by
    rw [node?_put d (ne_nil_of_node? hl)] at ht
    split at ht
    · exact (hn t (Option.some.inj ht)).elim
    · exact ht

lemma Sound.put (hs : d.Sound) (hl : d.node? l = none)
    (hup : d.node? l.dropLast = some .directory)
    (hn : ∀ number, n = .file number → number < d.bodies.size) (hnl : ∀ t, n ≠ .link t) :
    (d.put l n).Sound where
  up m k hk := by
    rw [node?_put d (ne_nil_of_node? hl)] at hk
    split at hk
    · next hm => exact (grows_put hl hnl).kept _ _ (hm ▸ hup)
    · exact (grows_put hl hnl).kept _ _ (hs.up m k hk)
  body m number hk := by
    rw [node?_put d (ne_nil_of_node? hl)] at hk
    split at hk
    · exact hn number (Option.some.inj hk)
    · exact hs.body m number hk

lemma makeDirectory_grows (hs : d.Sound) (h : d.makeDirectory p = .ok d') :
    d'.Sound ∧ Grows d d' := by
  rw [makeDirectory] at h
  split at h
  · cases h
  split at h
  · cases h
  next hl =>
  split at h
  · next hup =>
    obtain rfl := Except.ok.inj h
    have hn : ∀ t, Node.directory ≠ .link t := fun t ht => by cases ht
    exact ⟨hs.put hl hup (fun _ hk => by cases hk) hn, grows_put hl hn⟩
  · cases h
  · cases h

lemma makeDirectoriesWithin_rel {R : Disk → Disk → Prop} (hrefl : ∀ d, R d d)
    (htrans : ∀ d d' d'', R d d' → R d' d'' → R d d'')
    (hstep : ∀ (d : Disk) (p : Path) (d' : Disk), d.makeDirectory p = .ok d' → R d d')
    (h : makeDirectoriesWithin fuel d p = .ok d') : R d d' := by
  induction fuel generalizing d p d' with
  | zero => exact Except.ok.inj h ▸ hrefl d
  | succ fuel ih =>
    rw [makeDirectoriesWithin] at h
    split at h
    · exact Except.ok.inj h ▸ hrefl d
    split at h
    · next hm => exact hstep d p d' (hm.trans h)
    · split at h
      · cases h
      split at h
      · cases h
      next d₁ hq =>
      have hr := ih hq
      split at h
      · next hm => exact htrans d d₁ d' hr (hstep d₁ p d' (hm.trans h))
      · split at h
        · exact Except.ok.inj h ▸ hr
        · cases h
    · split at h
      · exact Except.ok.inj h ▸ hrefl d
      · cases h

lemma makeDirectoriesWithin_grows (hs : d.Sound) (h : makeDirectoriesWithin fuel d p = .ok d') :
    d'.Sound ∧ Grows d d' := by
  revert hs
  refine makeDirectoriesWithin_rel (R := fun d d' => d.Sound → d'.Sound ∧ Grows d d')
    (fun d hs => ⟨hs, .refl d⟩) ?_ (fun d p d' hm hs => makeDirectory_grows hs hm) h
  intro d d' d'' hd hd' hs
  obtain ⟨hs', hg⟩ := hd hs
  obtain ⟨hs'', hg'⟩ := hd' hs'
  exact ⟨hs'', hg.trans hg'⟩

lemma setContent_node? (d : Disk) (number : Nat) (c : Content) (l : Location) :
    (d.setContent number c).node? l = d.node? l := by
  cases l <;> rfl

lemma Sound.setContent (hs : d.Sound) (number : Nat) (c : Content) :
    (d.setContent number c).Sound where
  up l n h := by
    rw [setContent_node?] at h ⊢
    exact hs.up l n h
  body l k h := by
    rw [setContent_node?] at h
    simpa [Disk.setContent, modifyBody] using hs.body l k h

lemma grows_setContent (d : Disk) (number : Nat) (c : Content) : Grows d (d.setContent number c) :=
  .of_node? rfl (setContent_node? d number c)

lemma content_setContent (hn : number < d.bodies.size) (c : Content) :
    (d.setContent number c).content number = c := by
  simp [content, Disk.setContent, modifyBody, hn, Array.getElem_modify_self]

lemma newBody_node? (d : Disk) (c : Content) (mode : Nat) (l : Location) :
    (d.newBody c mode).2.node? l = d.node? l := by
  cases l <;> rfl

lemma Sound.newBody (hs : d.Sound) (c : Content) (mode : Nat) : (d.newBody c mode).2.Sound where
  up l n h := by
    rw [newBody_node?] at h ⊢
    exact hs.up l n h
  body l k h := by
    rw [newBody_node?] at h
    have hk := hs.body l k h
    simp only [Disk.newBody, Array.size_push]
    omega

structure Filled (d : Disk) (p : Path) (c : Content) (d' : Disk) : Prop where
  sound : d'.Sound
  grows : Grows d d'
  filled : (∃ l, d'.find p = .ok (l, .null)) ∨
    ∃ l number, d'.find p = .ok (l, .file number) ∧ d'.content number = c

lemma Filled.read {b : ByteArray} (h : Filled d p (.bytes b) d')
    (hp : ∀ l, d'.find p ≠ .ok (l, .null)) : d'.read p = .ok (.ok b) := by
  rcases h.filled with ⟨l, hnull⟩ | ⟨l, number, hfile, hc⟩
  · exact (hp l hnull).elim
  · simp [Disk.read, hfile, image?, hc, Content.image]

lemma newFile_filled (hs : d.Sound) (hl : d.locate p = .ok l) (hn : d.node? l = none)
    (hup : d.node? l.dropLast = some .directory) (mode : Nat) (c c₀ : Content) :
    Filled d p c
      (((d.newBody c₀ mode).2.put l (.file d.bodies.size)).setContent d.bodies.size c) := by
  set d₁ := (d.newBody c₀ mode).2 with hd₁
  set d₂ := d₁.put l (.file d.bodies.size) with hd₂
  have hs₁ : d₁.Sound := hs.newBody c₀ mode
  have hg₁ : Grows d d₁ := .of_node? rfl (newBody_node? d c₀ mode)
  have hn₁ : d₁.node? l = none := (newBody_node? d c₀ mode l).trans hn
  have hup₁ : d₁.node? l.dropLast = some .directory := hg₁.kept _ _ hup
  have hsize : d.bodies.size < d₁.bodies.size := by simp [hd₁, newBody]
  have hnl : ∀ t, Node.file d.bodies.size ≠ .link t := fun t ht => by cases ht
  have hs₂ : d₂.Sound := hs₁.put hn₁ hup₁ (fun k hk => Node.file.inj hk ▸ hsize) hnl
  have hg₂ : Grows d d₂ := hg₁.trans (grows_put hn₁ hnl)
  have hn₂ : d₂.node? l = some (.file d.bodies.size) := by
    rw [hd₂, node?_put d₁ (ne_nil_of_node? hn₁), if_pos rfl]
  have hg₃ := grows_setContent d₂ d.bodies.size c
  exact ⟨hs₂.setContent _ c, hg₂.trans hg₃, .inr ⟨l, _,
    hg₃.find (find_iff.mpr ⟨hg₂.walk hl, hn₂⟩), content_setContent hsize c⟩⟩

lemma writeContent_filled (hs : d.Sound) (h : d.writeContent p c = .ok d') : Filled d p c d' := by
  rw [writeContent, openToWrite] at h
  split at h
  · cases h
  next l hplace =>
  have hl : d.locate p = .ok l := by
    rw [placeForFile] at hplace
    split at hplace
    · exact hplace
    · cases hp : d.locate p.withoutSlashes <;> simp [hp, Except.bind] at hplace
  split at h
  · cases h
  · next n hdir hn =>
    obtain rfl := Except.ok.inj h
    cases n with
    | directory => exact (hdir rfl).elim
    | link t => exact (hs.locate_not_link hl t hn).elim
    | null => exact ⟨hs, .refl d, .inl ⟨l, find_iff.mpr ⟨hl, hn⟩⟩⟩
    | file number =>
      have hg := grows_setContent d number c
      exact ⟨hs.setContent number c, hg, .inr ⟨l, number, hg.find (find_iff.mpr ⟨hl, hn⟩),
        content_setContent (hs.body l number hn) c⟩⟩
  · next hn =>
    split at h
    · next hup =>
      obtain rfl := Except.ok.inj h
      exact newFile_filled hs hl hn hup _ c _
    · cases h
    · cases h

lemma writeContent_file (hf : d.find p = .ok (l, .file number)) (hp : p.withoutSlashes = p)
    (c : Content) : d.writeContent p c = .ok (d.setContent number c) := by
  obtain ⟨hl, hn⟩ := find_iff.mp hf
  simp [writeContent, openToWrite, placeForFile, hp, hl, hn, fill, Except.map]

lemma node?_bare (current l : Location) : (bare current).node? l =
    if l = [] ∨ l ∈ [["dev"], ["tmp"]] ++ current.upTo then some .directory
    else if l = ["dev", "null"] then some .null else none := by
  have hdirs : ∀ ls : List Location,
      Keyed.get? (ls.map (·, Node.directory)) l = if l ∈ ls then some .directory else none := by
    intro ls
    induction ls with
    | nil => rfl
    | cons m ls ih =>
      rw [List.map_cons, Keyed.get?_cons, ih]
      by_cases hm : m = l <;> simp [hm, Ne.symm]
  cases l with
  | nil => rfl
  | cons a l =>
    change Keyed.get? (bare current).nodes (a :: l) = _
    rw [bare, Keyed.get?_append, hdirs]
    by_cases hm : a :: l ∈ [["dev"], ["tmp"]] ++ current.upTo
    · simp only [hm, if_true, or_true, Option.some_or]
    · have hnil : ¬ a :: l = [] := by simp
      rw [if_neg hm, if_neg (not_or.mpr ⟨hnil, hm⟩), Option.none_or, Keyed.get?_cons]
      simp [eq_comm]

lemma dropLast_upTo {current : Location} (h : l ∈ current.upTo) :
    l.dropLast = [] ∨ l.dropLast ∈ current.upTo := by
  simp only [Location.upTo, List.mem_map, List.mem_range] at h ⊢
  obtain ⟨i, hi, rfl⟩ := h
  have hdrop : (current.take (i + 1)).dropLast = current.take i := by
    rw [List.dropLast_eq_take, List.take_take, List.length_take]
    congr 1
    omega
  rw [hdrop]
  cases i with
  | zero => exact .inl rfl
  | succ i => exact .inr ⟨i, by omega, rfl⟩

lemma sound_bare (current : Location) : (bare current).Sound where
  up l n h := by
    rw [node?_bare] at h ⊢
    refine if_pos ?_
    split at h
    · next hl =>
      rcases hl with rfl | hl
      · exact .inl rfl
      rcases List.mem_append.mp hl with hl | hl
      · rcases List.mem_pair.mp hl with rfl | rfl <;> exact .inl rfl
      · exact (dropLast_upTo hl).imp_right (List.mem_append_right _)
    · split at h
      · next hl => simp [hl]
      · cases h
  body l number h := by
    rw [node?_bare] at h
    split at h
    · cases h
    · split at h <;> cases h

end Freshen.Disk
