import Freshen.Backend
import Freshen.Database.Connection
import Freshen.FlatFile
/-! Stores of digests by build and target: in memory, in a flat text file, in a database. -/

namespace Freshen

inductive DigestStore
  | memory (entries : Entries)
  | flatFile (path : Path) (entries : Entries)
  | database (c : Database.Connection)
  deriving DecidableEq, Inhabited

structure Opening where
  store : Except StoreError DigestStore
  disk : Disk
  notices : List Notice := []

namespace DigestStore

def empty : DigestStore := .memory []

def makeParent (kind : String) (disk : Disk) (p : Path) : Except StoreError Disk :=
  match p.parent? with
  | none => .ok disk
  | some q => (disk.makeDirectories q).mapError (.makingDirectory kind q)

def openFlatFile (disk : Disk) (p : Path) : Opening :=
  if !disk.exists_ p then ⟨.ok (.flatFile p []), disk, []⟩
  else match disk.read p with
  | .error e => ⟨.error (.openingFile p e), disk, []⟩
  | .ok (.error e) => ⟨.error (.reading e), disk, []⟩
  | .ok (.ok bytes) =>
    match FlatFile.parse bytes with
    | (.ok (), r) => ⟨.ok (.flatFile p r.entries), disk, r.notices⟩
    | (.error e, r) => ⟨.error (.reading e), disk, r.notices⟩

/-- Missing tables are made before the version is recorded, and that before it is checked. -/
def prepareTables (disk : Disk) (c : Database.Connection) :
    Except StoreError (Database.Connection × Disk) := do
  let d ← (c.read disk).mapError .makingTables
  let tables := d.withTables
  let (c, disk) ← if tables = d then pure (c, disk)
    else (c.write disk tables).mapError .makingTables
  let tables ← (c.read disk).mapError .recordingVersion
  let versioned ← tables.withVersion.mapError .recordingVersion
  (c.write disk versioned).mapError .recordingVersion

def checkVersion (disk : Disk) (c : Database.Connection) : Except StoreError DigestStore := do
  let d ← (c.read disk).mapError .database
  d.checkVersion
  return .database c

def prepare (disk : Disk) (c : Database.Connection) : Opening :=
  match prepareTables disk c with
  | .error e => ⟨.error e, disk, []⟩
  | .ok (c, disk) => ⟨checkVersion disk c, disk, []⟩

def openTransient : Except StoreError DigestStore :=
  (prepare default (.transient {})).store

def openDatabase (disk : Disk) (p : Path) : Opening :=
  match makeParent "cache" disk p with
  | .error e => ⟨.error e, disk, []⟩
  | .ok disk =>
    match Database.Connection.connect disk .create p with
    | .error e => ⟨.error (.openingDatabase p e), disk, []⟩
    | .ok (c, disk) => prepare disk c

def openToRead (disk : Disk) (p : Path) : Opening :=
  match Database.Connection.connect disk .readOnly p with
  | .error e => ⟨.error (.openingDatabase p e), disk, []⟩
  | .ok (c, disk) => ⟨checkVersion disk c, disk, []⟩

def openDatabaseReadOnly (disk : Disk) (p : Path) : Except StoreError DigestStore :=
  (openToRead disk p).store

def load (disk : Disk) (s : DigestStore) (id target : String) :
    Except StoreError (Option String) :=
  match s with
  | memory es | flatFile _ es => .ok (Keyed.get? es (id, target))
  | database c =>
    match c.read disk with
    | .error e => .error (.lookingUp target e)
    | .ok d => (d.select id target).mapError (.lookingUp target)

structure Saving where
  result : Except StoreError Unit
  disk : Disk
  store : DigestStore

def saveFlatFile (disk : Disk) (p : Path) (es : Entries) : Except StoreError Disk × Disk :=
  match makeParent "digest" disk p with
  | .error e => (.error e, disk)
  | .ok disk =>
    match disk.write p (FlatFile.render es).toUTF8 with
    | .ok disk => (.ok disk, disk)
    | .error e => (.error (.creatingFile p e), disk)

def saveRow (disk : Disk) (c : Database.Connection) (id target digest : String) :
    Except DatabaseError (Database.Connection × Disk) := do
  c.write disk (← (← c.read disk).replace id target digest)

def save (disk : Disk) (s : DigestStore) (id target digest : String) : Saving :=
  match s with
  | memory es => ⟨.ok (), disk, .memory (Keyed.set (id, target) digest es)⟩
  | flatFile p es =>
    let es := Keyed.set (id, target) digest es
    match saveFlatFile disk p es with
    | (.ok disk, _) => ⟨.ok (), disk, .flatFile p es⟩
    | (.error e, disk) => ⟨.error e, disk, .flatFile p es⟩
  | database c =>
    match saveRow disk c id target digest with
    | .error e => ⟨.error (.storing target e), disk, s⟩
    | .ok (c, disk) => ⟨.ok (), disk, .database c⟩

def openAt (disk : Disk) (b : Backend) (location : Option Path) : Opening :=
  match b, location with
  | .database, some p => openDatabase disk p
  | .flatFile, some p => openFlatFile disk p
  | _, _ => ⟨.ok empty, disk, []⟩

/-- Makes nothing: a store that is not there reads as empty. -/
def openReadOnlyAt (disk : Disk) (b : Backend) (location : Option Path) : Opening :=
  match b, location with
  | .database, some p =>
    if disk.exists_ p then openToRead disk p else ⟨.ok empty, disk, []⟩
  | .flatFile, some p =>
    if disk.exists_ p then openFlatFile disk p else ⟨.ok empty, disk, []⟩
  | _, _ => ⟨.ok empty, disk, []⟩

end DigestStore
end Freshen
