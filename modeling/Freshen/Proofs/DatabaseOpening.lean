import Freshen.DigestStore
import Freshen.Proofs.DatabasePlace
import Freshen.Proofs.Reopening

/-! How a database is opened: what its name asks for, what is found or made where it lies, and which
tables it has afterwards. -/

namespace Freshen

namespace Database

namespace Name

variable {n n' m' : Name} {o v text : String} {cs : List Char} {os : List (String × String)}

structure Narrows (n n' : Name) : Prop where
  file : n'.file = n.file
  immutable : n'.immutable = n.immutable
  access : n'.access = n.access ∨ n'.access = .readOnly ∧ n.access = .create

lemma Narrows.rank_le (h : Narrows n n') : n'.access.rank ≤ n.access.rank := by
  rcases h.access with he | ⟨he', he⟩
  · rw [he]
  · rw [he, he']
    decide

lemma Narrows.withOption (h : Narrows n n') (hm : n'.withOption o v = .ok m') :
    ∃ m, n.withOption o v = .ok m ∧ Narrows m m' := by
  unfold Name.withOption at hm ⊢
  split at hm
  · split at hm
    · cases hm
    · next a _ =>
      split at hm
      · cases hm
      · next hrank =>
        rw [if_neg (by have := h.rank_le; omega)]
        exact ⟨_, rfl, Except.ok.inj hm ▸ ⟨h.file, h.immutable, .inl rfl⟩⟩
  · split at hm
    · next hv =>
      rw [if_pos hv]
      exact ⟨n, rfl, Except.ok.inj hm ▸ h⟩
    · cases hm
  · exact ⟨_, rfl, Except.ok.inj hm ▸ ⟨h.file, rfl, h.access⟩⟩
  · exact ⟨n, rfl, Except.ok.inj hm ▸ h⟩

lemma Narrows.withOptions (h : Narrows n n')
    (hm : os.foldlM (fun n o => n.withOption o.1 o.2) n' = .ok m') :
    ∃ m, os.foldlM (fun n o => n.withOption o.1 o.2) n = .ok m ∧ Narrows m m' := by
  induction os generalizing n n' with
  | nil => exact ⟨n, rfl, Except.ok.inj hm ▸ h⟩
  | cons o os ih =>
    rw [List.foldlM_cons] at hm ⊢
    cases hn' : n'.withOption o.1 o.2 with
    | error e => simp [hn', bind, Except.bind] at hm
    | ok k' =>
      obtain ⟨k, hk, hnarrow⟩ := h.withOption hn'
      rw [hn'] at hm
      rw [hk]
      exact ih hnarrow hm

lemma narrows_of_parse (h : parse .readOnly text = .ok n') :
    ∃ n, parse .create text = .ok n ∧ Narrows n n' := by
  have hplain : ∀ file, Narrows ⟨file, .create, false⟩ ⟨file, .readOnly, false⟩ := fun file =>
    ⟨rfl, rfl, .inr ⟨rfl, rfl⟩⟩
  rw [parse] at h ⊢
  split at h
  · cases h
  next hnul =>
  rw [if_neg hnul]
  split at h
  · next hscheme =>
    rw [if_pos hscheme]
    simp only [ofIdentifier, bind, Except.bind] at h ⊢
    split at h
    · cases h
    next cs hcs =>
    split at h
    · cases h
    next m' hfold =>
    obtain ⟨m, hm, hnarrow⟩ := (hplain _).withOptions hfold
    rw [hm]
    split at h
    · cases h
    exact ⟨m, rfl, Except.ok.inj h ▸ hnarrow⟩
  · next hscheme =>
    rw [if_neg hscheme]
    exact ⟨_, rfl, Except.ok.inj h ▸ hplain text⟩

lemma Narrows.isTransient (h : Narrows n n') : n'.isTransient = n.isTransient := by
  have haccess : n'.access = .memory ↔ n.access = .memory := by
    rcases h.access with he | ⟨he', he⟩
    · rw [he]
    · simp [he, he']
  simp [Name.isTransient, haccess, h.file]

end Name

variable {d : Database}

def version? (d : Database) : Option String := d.meta_.bind (Keyed.get? · versionKey)

def entries (d : Database) : Entries := d.cache.getD []

def prepared (d : Database) : Database :=
  let rows := d.meta_.getD []
  { meta_ := some (if (Keyed.get? rows versionKey).isSome then rows
      else Keyed.set versionKey version rows)
    cache := some d.entries }

structure Complete (d : Database) : Prop where
  versioned : d.version?.isSome
  tabled : d.cache.isSome

lemma withVersion_withTables (d : Database) : d.withTables.withVersion = .ok d.prepared := by
  simp only [withTables, withVersion, prepared, entries]
  split <;> rfl

lemma version?_prepared (d : Database) :
    d.prepared.version? = some (d.version?.getD version) := by
  cases hm : d.meta_ with
  | none => simp [prepared, version?, hm, Keyed.get?_set]
  | some rows =>
    cases hv : Keyed.get? rows versionKey with
    | none => simp [prepared, version?, hm, hv, Keyed.get?_set]
    | some v => simp [prepared, version?, hm, hv]

lemma Complete.version?_eq (h : d.Complete) (hv : d.version?.getD version = version) :
    d.version? = some version := by
  obtain ⟨v, hv'⟩ := Option.isSome_iff_exists.mp h.versioned
  rw [hv', Option.getD_some] at hv
  rw [hv', hv]

lemma select_ok (h : d.cache.isSome) (id target : String) :
    d.select id target = .ok (Keyed.get? d.entries (id, target)) := by
  obtain ⟨rows, hrows⟩ := Option.isSome_iff_exists.mp h
  simp [select, entries, hrows]

lemma checkVersion_ok_iff : d.checkVersion = .ok () ↔ d.version? = some version := by
  cases hm : d.meta_ with
  | none => simp [checkVersion, version?, hm]
  | some rows =>
    cases hv : Keyed.get? rows versionKey with
    | none => simp [checkVersion, version?, hm, hv]
    | some v => by_cases h : v = version <;> simp [checkVersion, version?, hm, hv, h]

open Disk

def place? (disk : Disk) (p : Path) : Option Location :=
  match Name.parse .create p.text with
  | .ok n => if n.isTransient then none else placeOf? disk n.file
  | .error _ => none

lemma place?_eq {disk : Disk} {p : Path} {n : Name} (hn : Name.parse .create p.text = .ok n)
    (ht : n.isTransient = false) : place? disk p = placeOf? disk n.file := by
  rw [place?, hn]
  simp [ht]

lemma place?_kept {disk disk' : Disk} {p : Path} {l : Location} (hd : disk.WellNamed)
    (hd' : disk'.WellNamed) (hg : Grows disk disk') (h : place? disk' p = some l) :
    place? disk p = some l := by
  rw [place?] at h ⊢
  split at h
  · split at h
    · cases h
    · next hplain =>
      rw [if_neg hplain]
      exact placeOf?_kept hd hd' hg h
  · cases h

def databaseAt? (disk : Disk) (l : Location) : Option Database :=
  match disk.node? l with
  | some (.file k) => (Connection.ofContent (disk.content k)).toOption
  | _ => none

lemma databaseAt?_eq_some_iff {disk : Disk} {l : Location} : databaseAt? disk l = some d ↔
    ∃ i, disk.node? l = some (.file i) ∧ Connection.ofContent (disk.content i) = .ok d := by
  rw [databaseAt?]
  split
  · next i hi =>
    simp only [hi, Option.some.injEq, Node.file.injEq, exists_eq_left']
    cases Connection.ofContent (disk.content i) <;> simp [Except.toOption]
  · next hno =>
    refine iff_of_false (by simp) ?_
    rintro ⟨i, hi, -⟩
    exact hno i hi

namespace Connection

variable {disk disk' : Disk} {p : Path} {n : Name} {l : Location} {node : Node} {w : Bool}
  {c c' : Connection} {access : Access} {k : Nat} {d d' : Database}

lemma connect_cases (h : connect disk access p = .ok (c, disk')) :
    ∃ n, Name.parse access p.text = .ok n ∧
      (n.isTransient = true ∧ c = .transient {} ∧ disk' = disk ∨
        n.isTransient = false ∧
          ∃ l, placeOf? disk n.file = some l ∧ openAt disk p n l = .ok (c, disk')) := by
  simp only [connect, bind, Except.bind] at h
  split at h
  · cases h
  next n hn =>
  refine ⟨n, hn, ?_⟩
  split at h
  · next htransient =>
    cases h
    exact .inl ⟨htransient, rfl, rfl⟩
  · next hplain =>
    split at h
    · cases h
    · next l hl => exact .inr ⟨by simpa using hplain, l, hl, h⟩

lemma connect_of_place (hn : Name.parse access p.text = .ok n) (ht : n.isTransient = false)
    (hl : placeOf? disk n.file = some l) : connect disk access p = openAt disk p n l := by
  simp only [connect, hn, bind, Except.bind, ht, hl]
  rfl

lemma openAt_write (hn : n.access ≠ .readOnly) (h : openAt disk p n l = .ok (c, disk')) :
    ∃ node, disk.openToWrite l.path = .ok (node, disk') ∧ c = .onDisk node l (!n.immutable) := by
  rw [openAt, if_neg hn] at h
  split at h
  · split at h
    · next ho =>
      cases h
      exact ⟨_, ho, rfl⟩
    · cases h
  · split at h
    · next ho =>
      cases h
      exact ⟨_, ho, rfl⟩
    · cases h
  · cases h

lemma openAt_opens (hd : disk.WellNamed) (hl : placeOf? disk n.file = some l)
    (h : openAt disk p n l = .ok (c, disk')) :
    ∃ node, c = .onDisk node l (n.access ≠ .readOnly && !n.immutable) ∧
      Opens disk l node disk' ∧ (n.access = .readOnly → disk' = disk) ∧
      (n.access ≠ .readOnly → Fits l.path) := by
  by_cases haccess : n.access = .readOnly
  · rw [openAt, if_pos haccess] at h
    split at h
    · cases h
    · next node hdir hnode =>
      cases h
      exact ⟨node, by simp [haccess], .there hnode hdir, fun _ => rfl,
        fun hne => (hne haccess).elim⟩
    · cases h
  · obtain ⟨node, ho, rfl⟩ := openAt_write haccess h
    obtain ⟨hfits, hopens⟩ := openToWrite_opens (placeOf?_clear hd hl) (placeOf?_some hl).1 ho
    exact ⟨node, by simp [haccess], hopens, fun hro => (haccess hro).elim, fun _ => hfits⟩

lemma write_file (hk : disk.node? l = some (.file k)) (d : Database) :
    write disk (.onDisk (.file k) l true) d =
      .ok (.onDisk (.file k) l true, disk.setContent k (.database d)) := by
  simp [write, hk]

lemma write_ok (h : write disk (.onDisk node l w) d = .ok (c', disk')) :
    w = true ∧ disk.node? l = some node ∧ ∃ k, node = .file k := by
  unfold write at h
  dsimp only at h
  split at h
  · cases h
  next hw =>
  split at h
  · cases h
  next hnode =>
  split at h
  · exact ⟨by simpa using hw, not_not.mp hnode, _, rfl⟩
  · cases h

end Connection

end Database

namespace Disk

variable {d : Disk} {k : Nat}

lemma setContent_setContent (d : Disk) (k : Nat) (a b : Content) :
    (d.setContent k a).setContent k b = d.setContent k b := by
  simp only [setContent, modifyBody]
  congr 1
  apply Array.ext
  · simp
  · intro i hi _
    by_cases hk : k = i <;> simp [Array.getElem_modify, hk]

end Disk

namespace DigestStore

open Database Disk

variable {disk disk' : Disk} {p : Path} {n : Name} {l : Location} {node : Node} {w : Bool}
  {c c' : Connection} {k : Nat} {d d' : Database}

lemma prepareTables_file (hk : disk.node? l = some (.file k)) (hsize : k < disk.bodies.size)
    (hd : Connection.ofContent (disk.content k) = .ok d) :
    prepareTables disk (.onDisk (.file k) l true) =
      .ok (.onDisk (.file k) l true, disk.setContent k (.database d.prepared)) := by
  have hread : Connection.read disk (.onDisk (.file k) l true) = .ok d := hd
  simp only [prepareTables, hread, Except.mapError, bind, Except.bind]
  by_cases htables : d.withTables = d
  · have hversion := withVersion_withTables d
    rw [htables] at hversion
    simp only [htables, if_true, pure, Except.pure, hread, hversion,
      Connection.write_file hk]
  · have hk' : (disk.setContent k (.database d.withTables)).node? l = some (.file k) :=
      (setContent_node? disk k _ l).trans hk
    have hread' : Connection.read (disk.setContent k (.database d.withTables))
        (.onDisk (.file k) l true) = .ok d.withTables := by
      rw [Connection.read, content_setContent hsize]
      rfl
    simp only [htables, if_false, Connection.write_file hk, hread', withVersion_withTables,
      Connection.write_file hk', setContent_setContent]

lemma prepareTables_ok (h : prepareTables disk (.onDisk node l w) = .ok (c', disk')) :
    ∃ k d, node = .file k ∧ w = true ∧ disk.node? l = some (.file k) ∧
      Connection.ofContent (disk.content k) = .ok d := by
  have hfile : ∀ {d : Database} {c' : Connection} {disk' : Disk},
      Connection.write disk (.onDisk node l w) d = .ok (c', disk') →
      ∀ d', Connection.read disk (.onDisk node l w) = .ok d' →
      ∃ k d, node = .file k ∧ w = true ∧ disk.node? l = some (.file k) ∧
        Connection.ofContent (disk.content k) = .ok d := by
    intro d c' disk' hwrite d' hread
    obtain ⟨hw, hnode, k, rfl⟩ := Connection.write_ok hwrite
    exact ⟨k, d', rfl, hw, hnode, hread⟩
  simp only [prepareTables, bind, Except.bind] at h
  cases hread : Connection.read disk (.onDisk node l w) with
  | error e => simp [hread, Except.mapError] at h
  | ok d =>
    simp only [hread, Except.mapError] at h
    by_cases htables : d.withTables = d
    · have hversion := withVersion_withTables d
      rw [htables] at hversion
      simp only [htables, if_true, pure, Except.pure, hread, hversion] at h
      split at h
      · cases h
      · next hwrite => exact hfile hwrite d hread
    · simp only [htables, if_false] at h
      cases hwrite : Connection.write disk (.onDisk node l w) d.withTables with
      | error e => simp [hwrite] at h
      | ok written => exact hfile hwrite d hread

lemma error_of_mapError {α ε : Type} {f : ε → StoreError} {x : Except ε α} {e : StoreError}
    (h : x.mapError f = .error e) : ∃ e', e = f e' := by
  cases x with
  | ok _ => cases h
  | error e' => exact ⟨e', (Except.error.inj h).symm⟩

lemma error_of_bind {α β : Type} {x : Except StoreError α} {f : α → Except StoreError β}
    {e : StoreError} (h : x >>= f = .error e) : x = .error e ∨ ∃ a, f a = .error e := by
  cases x with
  | error e' =>
    cases h
    exact .inl rfl
  | ok a => exact .inr ⟨a, h⟩

lemma prepareTables_error {e : StoreError} (h : prepareTables disk c = .error e) :
    ∃ e', e = .makingTables e' ∨ e = .recordingVersion e' := by
  have hrecord {c : Connection} {disk : Disk} (h : (do
      let tables ← (c.read disk).mapError StoreError.recordingVersion
      let versioned ← tables.withVersion.mapError .recordingVersion
      (c.write disk versioned).mapError .recordingVersion) = .error e) :
      ∃ e', e = .recordingVersion e' := by
    rcases error_of_bind h with h | ⟨tables, h⟩
    · exact error_of_mapError h
    rcases error_of_bind h with h | ⟨versioned, h⟩
    · exact error_of_mapError h
    · exact error_of_mapError h
  rcases error_of_bind h with h | ⟨d, h⟩
  · exact (error_of_mapError h).imp fun _ => .inl
  dsimp only at h
  split at h
  · exact (hrecord h).imp fun _ => .inr
  rcases error_of_bind h with h | ⟨made, h⟩
  · exact (error_of_mapError h).imp fun _ => .inl
  · exact (hrecord h).imp fun _ => .inr

lemma checkVersion_of_read (h : c.read disk = .ok d) :
    checkVersion disk c = d.checkVersion.map fun _ => .database c := by
  simp only [checkVersion, h, Except.mapError, bind, Except.bind]
  cases d.checkVersion <;> rfl

lemma prepare_onDisk (hs : disk.Sound) (node : Node) (l : Location) (w : Bool) :
    (∃ e, (∀ v, e ≠ .otherVersion v) ∧
      prepare disk (.onDisk node l w) = ⟨.error e, disk, []⟩) ∨
    ∃ k d, node = .file k ∧ w = true ∧ disk.node? l = some (.file k) ∧
      Connection.ofContent (disk.content k) = .ok d ∧
      prepare disk (.onDisk node l w) =
        ⟨d.prepared.checkVersion.map fun _ => .database (.onDisk node l w),
          disk.setContent k (.database d.prepared), []⟩ := by
  cases hp : prepareTables disk (.onDisk node l w) with
  | error e =>
    refine .inl ⟨e, fun v hv => ?_, by simp [prepare, hp]⟩
    obtain ⟨e', he | he⟩ := prepareTables_error hp
    · cases he.symm.trans hv
    · cases he.symm.trans hv
  | ok made =>
    obtain ⟨k, d, rfl, rfl, hk, hd⟩ := prepareTables_ok hp
    refine .inr ⟨k, d, rfl, rfl, hk, hd, ?_⟩
    have hsize := hs.body l k hk
    have hread : Connection.read (disk.setContent k (.database d.prepared))
        (.onDisk (.file k) l true) = .ok d.prepared := by
      rw [Connection.read, content_setContent hsize]
      rfl
    simp only [prepare, prepareTables_file hk hsize hd, checkVersion_of_read hread]

structure Arrives (disk : Disk) (p : Path) (l : Location) (node : Node) (disk' : Disk) : Prop where
  place : place? disk p = some l
  spares : Spares disk disk'
  wellNamed : disk'.WellNamed
  there : disk'.node? l = some node
  before : disk.node? l = some node ∨
    disk.node? l = none ∧ ∃ k, node = .file k ∧ disk'.content k = .bytes ⟨#[]⟩

lemma makeParent_widens {kind : String} (hd : disk.WellNamed)
    (h : makeParent kind disk p = .ok disk') : disk'.WellNamed ∧ Widens disk disk' := by
  rcases makeParent_ok h with rfl | ⟨q, hq⟩
  · exact ⟨hd, .refl disk'⟩
  · exact makeDirectories_widens hd hq

lemma makeParent_error {kind : String} {e : StoreError} (h : makeParent kind disk p = .error e) :
    ∃ q e', e = .makingDirectory kind q e' := by
  rw [makeParent] at h
  split at h
  · cases h
  · next q _ => exact ⟨q, error_of_mapError h⟩

lemma openDatabase_cases (hd : disk.WellNamed) (p : Path) :
    ((∃ e, (∀ v, e ≠ .otherVersion v) ∧ (openDatabase disk p).store = .error e) ∧
      Widens disk (openDatabase disk p).disk ∧ (openDatabase disk p).disk.WellNamed) ∨
    (∃ n disk', Name.parse .create p.text = .ok n ∧ n.isTransient = true ∧
      openDatabase disk p = prepare disk' (.transient {})) ∨
    ∃ l node w disk', Arrives disk p l node disk' ∧ (w = true → Fits l.path) ∧
      openDatabase disk p = prepare disk' (.onDisk node l w) := by
  rw [openDatabase]
  split
  · next e hparent =>
    obtain ⟨q, e', rfl⟩ := makeParent_error hparent
    exact .inl ⟨⟨_, by simp, rfl⟩, .refl disk, hd⟩
  next d₁ hparent =>
  obtain ⟨hd₁, hwidens⟩ := makeParent_widens hd hparent
  split
  · exact .inl ⟨⟨_, by simp, rfl⟩, hwidens, hd₁⟩
  next c d₂ hconnect =>
  obtain ⟨n, hn, ⟨htransient, rfl, rfl⟩ | ⟨hplain, l, hl, hopen⟩⟩ :=
    Connection.connect_cases hconnect
  · exact .inr (.inl ⟨n, _, hn, htransient, rfl⟩)
  obtain ⟨node, rfl, hopens, -, hfits⟩ := Connection.openAt_opens hd₁ hl hopen
  refine .inr (.inr ⟨l, node, _, d₂, ⟨?_, ?_, ?_, ?_, ?_⟩, ?_, rfl⟩)
  · rw [place?_eq hn hplain]
    exact placeOf?_kept hd hd₁ hwidens.grows hl
  · exact hwidens.trans_spares hopens.spares
  · exact hopens.wellNamed hd₁
  · exact hopens.node?
  · exact hwidens.before hopens
  · intro hw
    exact hfits (by simpa using (Bool.and_eq_true_iff.mp hw).1)

lemma openToRead_ok {s : DigestStore} (hs : (openToRead disk p).store = .ok s) :
    ∃ c disk' d, Connection.connect disk .readOnly p = .ok (c, disk') ∧
      (openToRead disk p).disk = disk' ∧ s = .database c ∧ c.read disk' = .ok d ∧
      d.version? = some version := by
  rw [openToRead] at hs ⊢
  cases hc : Connection.connect disk .readOnly p with
  | error e =>
    rw [hc] at hs
    cases hs
  | ok opened =>
    obtain ⟨c, disk'⟩ := opened
    rw [hc] at hs
    cases hread : c.read disk' with
    | error e => simp [checkVersion, hread, Except.mapError, bind, Except.bind] at hs
    | ok d =>
      simp only [checkVersion_of_read hread] at hs
      cases hv : d.checkVersion with
      | error e => simp [hv, Except.map] at hs
      | ok _ =>
        rw [hv] at hs
        exact ⟨c, disk', d, rfl, rfl, (Except.ok.inj hs).symm, hread,
          checkVersion_ok_iff.mp hv⟩

lemma openToRead_found {s : DigestStore} (hd : disk.WellNamed)
    (hs : (openToRead disk p).store = .ok s) :
    ∃ n l k d, Name.parse .readOnly p.text = .ok n ∧ place? disk p = some l ∧
      disk.node? l = some (.file k) ∧ Connection.ofContent (disk.content k) = .ok d ∧
      d.version? = some version ∧ (openToRead disk p).disk = disk ∧
      s = .database (.onDisk (.file k) l (n.access ≠ .readOnly && !n.immutable)) := by
  have hblank : ∀ {d : Database}, (.ok {} : Except DatabaseError Database) = .ok d →
      d.version? ≠ some version := by
    rintro d ⟨⟩ hv
    cases hv
  obtain ⟨c, disk', d, hconnect, hdisk, rfl, hread, hversion⟩ := openToRead_ok hs
  obtain ⟨n', hn', hcase⟩ := Connection.connect_cases hconnect
  obtain ⟨n, hn, hnarrow⟩ := Name.narrows_of_parse hn'
  rcases hcase with ⟨-, rfl, rfl⟩ | ⟨hplain, l, hl, hopen⟩
  · exact (hblank hread hversion).elim
  obtain ⟨node, rfl, hopens, -⟩ := Connection.openAt_opens hd hl hopen
  rw [hnarrow.file, ← place?_eq hn (hnarrow.isTransient.symm.trans hplain)] at hl
  cases hopens with
  | there hnode _ =>
    cases node with
    | file k => exact ⟨n', l, k, d, hn', hl, hnode, hread, hversion, hdisk, rfl⟩
    | directory | link _ | null => exact (hblank hread hversion).elim
  | made _ _ _ =>
    rw [Connection.read, addFile_content] at hread
    exact (hblank hread hversion).elim

lemma load_file (hdb : Connection.ofContent (disk.content k) = .ok d)
    (hc : d.cache.isSome) (id target : String) :
    load disk (.database (.onDisk (.file k) l w)) id target =
      .ok (Keyed.get? d.entries (id, target)) := by
  simp only [load, Connection.read, hdb, select_ok hc, Except.mapError]

end DigestStore
end Freshen
