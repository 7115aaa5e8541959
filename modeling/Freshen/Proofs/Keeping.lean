import Freshen.Proofs.DatabaseOpening
import Freshen.Proofs.DryRun

/-! A database that is opened again and again, to be written or only to be read, beside a store in
memory that is given the digests it has taken. Whatever the order, the two know the same. -/

namespace Freshen

open Database Disk

structure Keeper where
  disk : Disk
  store : Option DigestStore := none
  toRead : Bool := false

namespace Keeper

inductive Use
  | opening
  | openingToRead
  | saving (id target digest : String)
  | loading (id target : String)
  deriving DecidableEq, Repr

inductive Reply
  | opened (r : Except StoreError Unit)
  | saved (r : Except StoreError Unit)
  | loaded (r : Except StoreError (Option String))
  deriving DecidableEq

def take (k : Keeper) (o : Opening) (toRead : Bool) : Keeper × Option Reply :=
  match o.store with
  | .ok s => (⟨o.disk, some s, toRead⟩, some (.opened (.ok ())))
  | .error e => ({ k with disk := o.disk }, some (.opened (.error e)))

def use (p : Path) (k : Keeper) : Use → Keeper × Option Reply
  | .opening => k.take (DigestStore.openDatabase k.disk p) false
  | .openingToRead => k.take (DigestStore.openToRead k.disk p) true
  | .saving id target digest =>
    match k.store with
    | none => (k, none)
    | some s =>
      let r := s.save k.disk id target digest
      ({ k with disk := r.disk, store := some r.store }, some (.saved r.result))
  | .loading id target =>
    match k.store with
    | none => (k, none)
    | some s => (k, some (.loaded (s.load k.disk id target)))

def remember (m : DigestStore) : Use → Option Reply → DigestStore
  | .saving id target digest, some (.saved (.ok ())) => (m.save default id target digest).store
  | _, _ => m

def attend (p : Path) (k : Keeper) (m : DigestStore) : List Use → Keeper × DigestStore
  | [] => (k, m)
  | u :: us => attend p (k.use p u).1 (remember m u (k.use p u).2) us

end Keeper

namespace Database

structure OfFile (p : Path) : Prop where
  lasting : ∀ n, Name.parse .create p.text = .ok n → n.isTransient = false
  asked : ∀ n, Name.parse .readOnly p.text = .ok n → n.access = .readOnly

lemma OfFile.leavesDisk {p : Path} (h : OfFile p) (disk : Disk) : LeavesDisk disk p :=
  leavesDisk_of_access h.asked

lemma ofFile_of_path {p : Path} (h : Name.scheme.toList.isPrefixOf p.text.toList = false)
    (hne : p.text ≠ "") (hmemory : p.text ≠ ":memory:") : OfFile p where
  lasting n hn := by
    rw [Name.parse_path h hn]
    simp [Name.isTransient, hne, hmemory]
  asked n hn := (Name.parse_path h hn).symm ▸ rfl

inductive Holds (disk : Disk) (l : Location) : Entries → Prop
  | absent : disk.node? l = none → Holds disk l []
  | database {i : Nat} {d : Database} {es : Entries} : disk.node? l = some (.file i) →
      Connection.ofContent (disk.content i) = .ok d → d.version? = some version →
      d.cache = some es → Holds disk l es

def entriesAt (disk : Disk) (l : Location) : Entries :=
  ((databaseAt? disk l).map entries).getD []

end Database

namespace Disk

variable {d d' : Disk} {l : Location}

inductive AddsAt (d d' : Disk) (l : Location) : Prop
  | nothing : d'.node? l = d.node? l → AddsAt d d' l
  | directory : d.node? l = none → d'.node? l = some .directory → AddsAt d d' l
  | file {i : Nat} : d.node? l = none → d'.node? l = some (.file i) →
      d'.content i = .bytes ⟨#[]⟩ → AddsAt d d' l

lemma Widens.addsAt (h : Widens d d') (l : Location) : AddsAt d d' l := by
  by_cases hdir : d'.node? l = some .directory
  · rcases h.added l _ hdir with hsame | ⟨hnone, -⟩
    · exact .nothing (hdir.trans hsame.symm)
    · exact .directory hnone hdir
  · exact .nothing (h.node?_eq hdir)

end Disk

lemma DigestStore.Arrives.addsAt {disk disk' : Disk} {p : Path} {l : Location} {node : Node}
    (h : DigestStore.Arrives disk p l node disk') : AddsAt disk disk' l := by
  rcases h.before with hb | ⟨hnone, i, rfl, hcontent⟩
  · exact .nothing (h.there.trans hb.symm)
  · exact .file hnone h.there hcontent

namespace Keeper

variable {disk disk' : Disk} {p : Path} {k : Keeper} {l : Location} {es : Entries} {i : Nat}
  {d : Database}

/-- What is where the database lies. A failed opening may have made a directory or an empty file
there; what is open is always that database. -/
inductive Rests (k : Keeper) (l : Location) : Entries → Prop
  | missing : k.disk.node? l = none ∨ k.disk.node? l = some .directory → k.store = none →
      Rests k l []
  | blank {i : Nat} : k.disk.node? l = some (.file i) →
      Connection.ofContent (k.disk.content i) = .ok {} → k.store = none → Rests k l []
  | database {i : Nat} {d : Database} {es : Entries} : k.disk.node? l = some (.file i) →
      Connection.ofContent (k.disk.content i) = .ok d → d.version? = some version →
      d.cache = some es →
      (∀ s, k.store = some s → s = .database (.onDisk (.file i) l (!k.toRead))) → Rests k l es

structure Keeps (disk : Disk) (p : Path) (k : Keeper) (es : Entries) : Prop where
  wellNamed : k.disk.WellNamed
  grows : Grows disk k.disk
  rests : ∀ l, place? disk p = some l → Rests k l es
  unplaced : place? disk p = none → k.store = none

lemma Rests.move (h : Rests k l es) (hd : k.disk.Sound) (hs : Spares k.disk disk')
    (ha : AddsAt k.disk disk' l) : Rests { k with disk := disk' } l es := by
  have hkept : ∀ {i d}, k.disk.node? l = some (.file i) →
      Connection.ofContent (k.disk.content i) = .ok d →
      disk'.node? l = some (.file i) ∧ Connection.ofContent (disk'.content i) = .ok d := by
    intro i d hi hdb
    rw [hs.contents i (hd.body l i hi)]
    exact ⟨hs.kept l _ hi, hdb⟩
  cases h with
  | missing hnone hstore =>
    cases ha with
    | nothing he => exact .missing (by rwa [he]) hstore
    | directory _ hdir => exact .missing (.inr hdir) hstore
    | file _ hi hcontent => exact .blank hi (by rw [hcontent]; rfl) hstore
  | blank hi hdb hstore =>
    obtain ⟨hi', hdb'⟩ := hkept hi hdb
    exact .blank hi' hdb' hstore
  | database hi hdb hv hc hstore =>
    obtain ⟨hi', hdb'⟩ := hkept hi hdb
    exact .database hi' hdb' hv hc hstore

lemma Rests.entriesAt (h : Rests k l es) : Database.entriesAt k.disk l = es := by
  rw [Database.entriesAt]
  cases h with
  | missing hn _ => rcases hn with hn | hn <;> simp [databaseAt?, hn]
  | blank hi hdb _ =>
    rw [databaseAt?_eq_some_iff.mpr ⟨_, hi, hdb⟩]
    rfl
  | database hi hdb _ hc _ =>
    rw [databaseAt?_eq_some_iff.mpr ⟨_, hi, hdb⟩]
    simp [entries, hc]

lemma Rests.prepared (h : Rests k l es) (hi : k.disk.node? l = some (.file i))
    (hdb : Connection.ofContent (k.disk.content i) = .ok d) :
    d.prepared.version? = some version ∧ d.entries = es := by
  have hsame : ∀ {j d'}, k.disk.node? l = some (.file j) →
      Connection.ofContent (k.disk.content j) = .ok d' → d' = d := by
    intro j d' hj hd'
    obtain rfl : j = i := Node.file.inj (Option.some.inj (hj.symm.trans hi))
    exact Except.ok.inj (hd'.symm.trans hdb)
  rw [version?_prepared]
  cases h with
  | missing hn _ => rcases hn with hn | hn <;> simp [hn] at hi
  | blank hj hd' _ =>
    obtain rfl := hsame hj hd'
    exact ⟨rfl, rfl⟩
  | database hj hd' hv hc _ =>
    obtain rfl := hsame hj hd'
    exact ⟨by rw [hv]; rfl, by simp [entries, hc]⟩

lemma Keeps.move (h : Keeps disk p k es) (hw : disk'.WellNamed) (hs : Spares k.disk disk')
    (ha : ∀ l, place? disk p = some l → AddsAt k.disk disk' l) :
    Keeps disk p { k with disk := disk' } es where
  wellNamed := hw
  grows := h.grows.trans hs.toGrows
  rests l hl := (h.rests l hl).move h.wellNamed.toSound hs (ha l hl)
  unplaced := h.unplaced

lemma use_opening_error {e : StoreError}
    (h : (DigestStore.openDatabase k.disk p).store = .error e) :
    k.use p .opening = ({ k with disk := (DigestStore.openDatabase k.disk p).disk },
      some (.opened (.error e))) := by
  simp [use, take, h]

lemma Keeps.opening (h : Keeps disk p k es) (hd : disk.WellNamed) (hp : OfFile p) :
    Keeps disk p (k.use p .opening).1 es := by
  rcases DigestStore.openDatabase_cases h.wellNamed p with ⟨⟨e, -, he⟩, hwidens, hw⟩ |
    ⟨n, disk', hn, ht, -⟩ | ⟨l, node, w, disk', ha, -, ho⟩
  · rw [use_opening_error he]
    exact h.move hw hwidens.spares fun l _ => hwidens.addsAt l
  · rw [hp.lasting n hn] at ht
    cases ht
  have hl : place? disk p = some l := place?_kept hd h.wellNamed h.grows ha.place
  have hmoved : Keeps disk p { k with disk := disk' } es := by
    refine h.move ha.wellNamed ha.spares fun m hm => ?_
    obtain rfl : l = m := Option.some.inj (hl.symm.trans hm)
    exact ha.addsAt
  rcases DigestStore.prepare_onDisk ha.wellNamed.toSound node l w with
    ⟨e, -, he⟩ | ⟨i, d, rfl, rfl, hi, hdb, hprepared⟩
  · rw [use_opening_error (by rw [ho, he])]
    rw [ho, he]
    exact hmoved
  obtain ⟨hv, hes⟩ := (hmoved.rests l hl).prepared hi hdb
  have hsize := ha.wellNamed.body l i hi
  rw [use, ho, hprepared, checkVersion_ok_iff.mpr hv]
  refine ⟨ha.wellNamed.setContent i _, hmoved.grows.trans (grows_setContent disk' i _),
    fun m hm => ?_, fun hnone => by simp [hl] at hnone⟩
  obtain rfl : l = m := Option.some.inj (hl.symm.trans hm)
  refine .database (d := d.prepared) ((setContent_node? disk' i _ l).trans hi) ?_ hv ?_ ?_
  · change Connection.ofContent ((disk'.setContent i (.database d.prepared)).content i) = _
    rw [content_setContent hsize]
    rfl
  · rw [← hes]
    rfl
  · rintro s ⟨⟩
    rfl

lemma Keeps.openingToRead (h : Keeps disk p k es) (hd : disk.WellNamed) (hp : OfFile p) :
    Keeps disk p (k.use p .openingToRead).1 es := by
  have hdisk := DigestStore.openToRead_disk (hp.leavesDisk k.disk)
  cases ho : (DigestStore.openToRead k.disk p).store with
  | error e => simpa [use, take, ho, hdisk] using h
  | ok s =>
    obtain ⟨n, l, i, d, hn, hl, hi, hdb, hv, -, rfl⟩ := DigestStore.openToRead_found h.wellNamed ho
    have hl' : place? disk p = some l := place?_kept hd h.wellNamed h.grows hl
    have hkeeper : (k.use p .openingToRead).1 =
        ⟨k.disk, some (.database (.onDisk (.file i) l false)), true⟩ := by
      simp [use, take, ho, hdisk, hp.asked n hn]
    rw [hkeeper]
    refine ⟨h.wellNamed, h.grows, fun m hm => ?_, fun hnone => by simp [hl'] at hnone⟩
    obtain rfl : l = m := Option.some.inj (hl'.symm.trans hm)
    cases h.rests l hl' with
    | missing hn _ => rcases hn with hn | hn <;> simp [hn] at hi
    | blank hj hdb' _ =>
      obtain rfl := Node.file.inj (Option.some.inj (hj.symm.trans hi))
      obtain rfl : {} = d := Except.ok.inj (hdb'.symm.trans hdb)
      cases hv
    | database hj hdb' hv' hc _ =>
      obtain rfl := Node.file.inj (Option.some.inj (hj.symm.trans hi))
      refine .database hj hdb' hv' hc ?_
      rintro s ⟨⟩
      rfl

lemma Keeps.held {s : DigestStore} (h : Keeps disk p k es) (hs : k.store = some s) :
    ∃ l i d, place? disk p = some l ∧ k.disk.node? l = some (.file i) ∧
      Connection.ofContent (k.disk.content i) = .ok d ∧ d.version? = some version ∧
      d.cache = some es ∧ s = .database (.onDisk (.file i) l (!k.toRead)) := by
  cases hl : place? disk p with
  | none =>
    rw [h.unplaced hl] at hs
    cases hs
  | some l =>
    cases h.rests l hl with
    | missing _ hnone | blank _ _ hnone =>
      rw [hnone] at hs
      cases hs
    | database hi hdb hv hc hstore => exact ⟨l, _, _, rfl, hi, hdb, hv, hc, hstore s hs⟩

lemma Keeps.loading {s : DigestStore} (h : Keeps disk p k es) (hs : k.store = some s)
    (id target : String) : s.load k.disk id target = .ok (Keyed.get? es (id, target)) := by
  obtain ⟨l, i, d, -, -, hdb, -, hc, rfl⟩ := h.held hs
  have hentries : d.entries = es := by simp [entries, hc]
  rw [← hentries]
  exact DigestStore.load_file hdb (by simp [hc]) id target

lemma Keeps.refused {s : DigestStore} (h : Keeps disk p k es) (hs : k.store = some s)
    (hr : k.toRead = true) (id target digest : String) :
    s.save k.disk id target digest = ⟨.error (.storing target .readOnly), k.disk, s⟩ := by
  obtain ⟨l, i, d, -, -, hdb, -, hc, rfl⟩ := h.held hs
  simp [DigestStore.save, DigestStore.saveRow, Connection.read, hdb, replace, hc, hr,
    Connection.write, bind, Except.bind]

lemma use_saving {s : DigestStore} (hs : k.store = some s) (id target digest : String) :
    k.use p (.saving id target digest) =
      ({ k with
          disk := (s.save k.disk id target digest).disk
          store := some (s.save k.disk id target digest).store },
        some (.saved (s.save k.disk id target digest).result)) := by
  simp only [Keeper.use, hs]

lemma Keeps.use_refused {s : DigestStore} (h : Keeps disk p k es) (hs : k.store = some s)
    (hr : k.toRead = true) (id target digest : String) :
    k.use p (.saving id target digest) =
      (k, some (.saved (.error (.storing target .readOnly)))) := by
  rw [use_saving hs, h.refused hs hr, ← hs]

lemma Keeps.saved {s : DigestStore} (h : Keeps disk p k es) (hs : k.store = some s)
    (hr : k.toRead = false) (id target digest : String) :
    (s.save k.disk id target digest).result = .ok () ∧
      Keeps disk p { k with
        disk := (s.save k.disk id target digest).disk
        store := some (s.save k.disk id target digest).store }
        (Keyed.set (id, target) digest es) := by
  obtain ⟨l, i, d, hl, hi, hdb, hv, hc, rfl⟩ := h.held hs
  set d' : Database := { d with cache := some (Keyed.set (id, target) digest es) } with hd'
  have hsave : DigestStore.save k.disk (.database (.onDisk (.file i) l (!k.toRead))) id target
      digest = ⟨.ok (), k.disk.setContent i (.database d'),
        .database (.onDisk (.file i) l (!k.toRead))⟩ := by
    simp [DigestStore.save, DigestStore.saveRow, Connection.read, hdb, replace, hc, hr,
      Connection.write, hi, bind, Except.bind, hd']
  have hsize := h.wellNamed.body l i hi
  rw [hsave]
  refine ⟨rfl, h.wellNamed.setContent i _, h.grows.trans (grows_setContent k.disk i _),
    fun m hm => ?_, fun hnone => by simp [hl] at hnone⟩
  obtain rfl : l = m := Option.some.inj (hl.symm.trans hm)
  refine .database (d := d') ((setContent_node? k.disk i _ l).trans hi) ?_ hv rfl ?_
  · rw [content_setContent hsize]
    rfl
  · rintro s ⟨⟩
    rfl

lemma Keeps.use (h : Keeps disk p k es) (hd : disk.WellNamed) (hp : OfFile p) (u : Use) :
    ∃ es', remember (.memory es) u (k.use p u).2 = .memory es' ∧
      Keeps disk p (k.use p u).1 es' := by
  cases u with
  | opening => exact ⟨es, rfl, h.opening hd hp⟩
  | openingToRead => exact ⟨es, rfl, h.openingToRead hd hp⟩
  | loading id target =>
    cases hs : k.store with
    | none => exact ⟨es, rfl, by simpa [Keeper.use, hs] using h⟩
    | some s => exact ⟨es, rfl, by simpa [Keeper.use, hs] using h⟩
  | saving id target digest =>
    cases hs : k.store with
    | none => exact ⟨es, by simp [Keeper.use, hs, remember], by simpa [Keeper.use, hs] using h⟩
    | some s =>
      by_cases hr : k.toRead = true
      · rw [h.use_refused hs hr]
        exact ⟨es, rfl, h⟩
      · obtain ⟨hok, hkeeps⟩ := h.saved hs (by simpa using hr) id target digest
        rw [use_saving hs, hok]
        exact ⟨Keyed.set (id, target) digest es, rfl, hkeeps⟩

lemma Keeps.attend (h : Keeps disk p k es) (hd : disk.WellNamed) (hp : OfFile p)
    (us : List Use) : ∃ es', (attend p k (.memory es) us).2 = .memory es' ∧
      Keeps disk p (attend p k (.memory es) us).1 es' := by
  induction us generalizing k es with
  | nil => exact ⟨es, rfl, h⟩
  | cons u us ih =>
    obtain ⟨es', hm, hkeeps⟩ := h.use hd hp u
    rw [Keeper.attend, hm]
    exact ih hkeeps

lemma Keeps.reopened {n : Name} (h : Keeps disk p k es) (hd : disk.WellNamed) (hp : OfFile p)
    (hl : place? k.disk p = some l) (hdb : databaseAt? k.disk l = some d) (hc : d.Complete)
    (hn : Name.parse .readOnly p.text = .ok n) :
    (k.use p .openingToRead).2 = some (.opened (.ok ())) := by
  obtain ⟨i, hi, hread⟩ := databaseAt?_eq_some_iff.mp hdb
  obtain ⟨n', hn', hnarrow⟩ := Name.narrows_of_parse hn
  have hplain := hp.lasting n' hn'
  have hl' : placeOf? k.disk n.file = some l := by rw [hnarrow.file, ← place?_eq hn' hplain, hl]
  have hopen : Connection.openAt k.disk p n l = .ok (.onDisk (.file i) l false, k.disk) := by
    simp [Connection.openAt, hp.asked n hn, hi]
  obtain ⟨hv, -⟩ := (h.rests l (place?_kept hd h.wellNamed h.grows hl)).prepared hi hread
  rw [version?_prepared] at hv
  have hchecked := checkVersion_ok_iff.mpr (hc.version?_eq (Option.some.inj hv))
  have hread' : Connection.read k.disk (.onDisk (.file i) l false) = .ok d := hread
  rw [Keeper.use, DigestStore.openToRead,
    Connection.connect_of_place hn (hnarrow.isTransient.trans hplain) hl', hopen]
  simp only [take, DigestStore.checkVersion_of_read hread', hchecked]
  rfl

/-- A database that was on the disk, with somebody who has opened it and a store in memory: the two
know the same, and whatever is done next they are treated alike. -/
structure Tallies (disk : Disk) (p : Path) (k : Keeper) (m : DigestStore) : Prop where
  entries : ∀ l, place? disk p = some l → m = .memory (entriesAt k.disk l)
  loads : k.store.isSome → ∀ id target,
    (k.use p (.loading id target)).2 = some (.loaded (m.load k.disk id target))
  saves : k.store.isSome → k.toRead = false → ∀ id target digest,
    (k.use p (.saving id target digest)).2 = some (.saved (.ok ()))
  refuses : k.store.isSome → k.toRead = true → ∀ id target digest,
    ∃ e, k.use p (.saving id target digest) = (k, some (.saved (.error e)))
  opens : ∀ u, u = .opening ∨ u = .openingToRead → ∀ l, place? disk p = some l →
    entriesAt (k.use p u).1.disk l = entriesAt k.disk l
  stays : ∀ u e, (k.use p u).2 = some (.opened (.error e)) →
    (k.use p u).1.store = k.store ∧ (k.use p u).1.toRead = k.toRead
  reopens : ∀ l n d, place? k.disk p = some l → databaseAt? k.disk l = some d → d.Complete →
    Name.parse .readOnly p.text = .ok n →
    (k.use p .openingToRead).2 = some (.opened (.ok ()))

lemma keeps_of_holds (hd : disk.WellNamed)
    (hes : ∀ l, place? disk p = some l → Holds disk l es) : Keeps disk p { disk } es where
  wellNamed := hd
  grows := .refl disk
  rests l hl := by
    cases hes l hl with
    | absent hnone => exact .missing (.inl hnone) rfl
    | database hi hdb hv hc => exact .database hi hdb hv hc (by simp)
  unplaced _ := rfl

lemma take_error {o : Opening} {r : Bool} {e : StoreError}
    (h : (k.take o r).2 = some (.opened (.error e))) :
    (k.take o r).1.store = k.store ∧ (k.take o r).1.toRead = k.toRead := by
  rw [take] at h ⊢
  split at h
  · cases h
  · exact ⟨rfl, rfl⟩

lemma Keeps.tallies (h : Keeps disk p k es) (hd : disk.WellNamed) (hp : OfFile p) :
    Tallies disk p k (.memory es) where
  entries l hl := by rw [(h.rests l hl).entriesAt]
  loads hs id target := by
    obtain ⟨s, hs⟩ := Option.isSome_iff_exists.mp hs
    simp only [Keeper.use, hs, h.loading hs]
    rfl
  saves hs hr id target digest := by
    obtain ⟨s, hs⟩ := Option.isSome_iff_exists.mp hs
    rw [use_saving hs, (h.saved hs hr id target digest).1]
  refuses hs hr id target digest := by
    obtain ⟨s, hs⟩ := Option.isSome_iff_exists.mp hs
    exact ⟨_, h.use_refused hs hr id target digest⟩
  opens u hu l hl := by
    have hkeeps : Keeps disk p (k.use p u).1 es := by
      rcases hu with rfl | rfl
      · exact h.opening hd hp
      · exact h.openingToRead hd hp
    rw [(h.rests l hl).entriesAt, (hkeeps.rests l hl).entriesAt]
  stays u e he := by
    cases u with
    | opening => exact take_error he
    | openingToRead => exact take_error he
    | saving id target digest =>
      rw [Keeper.use] at he
      split at he <;> cases he
    | loading id target =>
      rw [Keeper.use] at he
      split at he <;> cases he
  reopens l n d hl hdb hc hn := h.reopened hd hp hl hdb hc hn

/-- However often a database is opened, to be written or only to be read, and whatever is saved and
loaded in between, it has the digests that a store in memory has, which began with the same digests
and was given what could be saved. -/
theorem kept_as_in_memory (hd : disk.WellNamed) (hp : OfFile p)
    (hes : ∀ l, place? disk p = some l → Holds disk l es) (us : List Use) :
    Tallies disk p (attend p { disk } (.memory es) us).1 (attend p { disk } (.memory es) us).2 := by
  obtain ⟨es', hm, hkeeps⟩ := (keeps_of_holds hd hes).attend hd hp us
  rw [hm]
  exact hkeeps.tallies hd hp

def visits : List Use :=
  [.openingToRead, .opening, .saving "a" "t" "00", .openingToRead, .saving "a" "t" "ff", .opening,
    .saving "b" "t" "01", .saving "a" "t" "02", .openingToRead]

theorem kept_as_in_memory_made :
    (bare ["work"]).WellNamed ∧ OfFile ⟨".hashmake/cache.db"⟩ ∧
    (∀ l, place? (bare ["work"]) ⟨".hashmake/cache.db"⟩ = some l → Holds (bare ["work"]) l []) ∧
    Tallies (bare ["work"]) ⟨".hashmake/cache.db"⟩
      (attend ⟨".hashmake/cache.db"⟩ { disk := bare ["work"] } (.memory []) visits).1
      (.memory [(("a", "t"), "02"), (("b", "t"), "01")]) ∧
    ((attend ⟨".hashmake/cache.db"⟩ { disk := bare ["work"] } (.memory []) visits).1.use
      ⟨".hashmake/cache.db"⟩ (.loading "a" "t")).2 = some (.loaded (.ok (some "02"))) := by
  have hd : (bare ["work"]).WellNamed := by
    refine wellNamed_of_nodes ?_ ?_ <;> decide +kernel
  have hp : OfFile ⟨".hashmake/cache.db"⟩ := ofFile_of_path (by decide) (by decide) (by decide)
  have hes : ∀ l, place? (bare ["work"]) ⟨".hashmake/cache.db"⟩ = some l →
      Holds (bare ["work"]) l [] := by
    have hplace : place? (bare ["work"]) ⟨".hashmake/cache.db"⟩ =
        some ["work", ".hashmake", "cache.db"] := by decide +kernel
    intro l hl
    obtain rfl := Option.some.inj (hplace.symm.trans hl)
    exact .absent (by decide +kernel)
  have hm : (attend ⟨".hashmake/cache.db"⟩ { disk := bare ["work"] } (.memory []) visits).2 =
      .memory [(("a", "t"), "02"), (("b", "t"), "01")] := by decide +kernel
  have htallies := kept_as_in_memory hd hp hes visits
  rw [hm] at htallies
  exact ⟨hd, hp, hes, htallies, by decide +kernel⟩

end Keeper
end Freshen
