import Freshen.Database.Name
import Freshen.Disk
/-! Databases on a disk. Their paths are cleared of dots before anybody follows them, and what has
been opened stays open when its name is gone. A file has in it what was committed last; no writer
has left a journal beside it from which it would have to be recovered. -/

namespace Freshen.Database

/-- The way to a file: two dots take back the name before them, whatever that name leads to, and
links are followed. -/
def clearPath (d : Disk) (l : Location) : List (List Char) → Option Disk.Progress
  | [] => some (.arrived l)
  | s :: rest =>
    if Path.isIdle s then clearPath d l rest
    else if s = ['.', '.'] then clearPath d l.dropLast rest
    else
      let m := l ++ [String.ofList s]
      match d.findEntry (Location.path m) with
      | .error .notFound => clearPath d m rest
      | .error _ => none
      | .ok (_, .link t) => some (.linked (Disk.startOf l ⟨t⟩) (Disk.piecesOf ⟨t⟩ ++ rest))
      | .ok _ => clearPath d m rest

def followClear (d : Disk) : Nat → Location → List (List Char) → Option Location
  | 0, _, _ => none
  | n + 1, l, pieces =>
    match clearPath d l pieces with
    | none => none
    | some (.arrived l) => some l
    | some (.linked l pieces) => followClear d n l pieces

def linkLimit : Nat := 200

def pathLimit : Nat := 504

def placeOf? (d : Disk) (file : String) : Option Location :=
  match followClear d (linkLimit + 1) (Disk.startOf d.current ⟨file⟩) (Disk.piecesOf ⟨file⟩) with
  | none | some [] => none
  | some l => if (Location.path l).text.utf8ByteSize > pathLimit then none else some l

inductive Connection
  | onDisk (node : Node) (place : Location) (writable : Bool)
  | transient (d : Database)
  deriving DecidableEq, Inhabited

namespace Connection

def openAt (disk : Disk) (p : Path) (n : Name) (l : Location) :
    Except DatabaseError (Connection × Disk) :=
  if n.access = .readOnly then
    match disk.node? l with
    | some .directory => .error .unreadable
    | some node => .ok (.onDisk node l false, disk)
    | none => .error (.cannotOpen p)
  else
    match disk.node? l, n.access with
    | none, .create | some _, _ =>
      match disk.openToWrite (Location.path l) with
      | .ok (node, disk) => .ok (.onDisk node l (!n.immutable), disk)
      | .error _ => .error (.cannotOpen p)
    | none, _ => .error (.cannotOpen p)

def connect (disk : Disk) (access : Access) (p : Path) :
    Except DatabaseError (Connection × Disk) := do
  let n ← Name.parse access p.text
  if n.isTransient then return (.transient {}, disk)
  match placeOf? disk n.file with
  | none => throw (.cannotOpen p)
  | some l => openAt disk p n l

def ofContent : Content → Except DatabaseError Database
  | .database d => .ok d
  | .bytes b => if b.size ≤ 1 then .ok {} else .error .notDatabase

def read (disk : Disk) : Connection → Except DatabaseError Database
  | transient d => .ok d
  | onDisk (.file number) _ _ => ofContent (disk.content number)
  | onDisk _ _ _ => .ok {}

/-- Nothing is written to a file that is no longer where it was opened. -/
def write (disk : Disk) (c : Connection) (d : Database) :
    Except DatabaseError (Connection × Disk) :=
  match c with
  | transient _ => .ok (.transient d, disk)
  | onDisk node place writable =>
    if !writable then .error .readOnly
    else if disk.node? place ≠ some node then .error .moved
    else match node with
    | .file number => .ok (c, disk.setContent number (.database d))
    | _ => .error .unflushed

end Connection

def at? (disk : Disk) (p : Path) : Option Database :=
  ((Connection.connect disk .readOnly p).bind fun (c, disk) => c.read disk).toOption

end Freshen.Database
