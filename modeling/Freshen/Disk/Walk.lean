import Freshen.Disk.Node
/-! Following paths through a disk. They begin at the current directory unless they are absolute;
two dots lead to the directory above, and links lead where they say. -/

namespace Freshen.Disk

inductive Progress
  | arrived (l : Location)
  | linked (l : Location) (pieces : List (List Char))
  deriving DecidableEq, Repr

def nameLimit : Nat := 255

def pathLimit : Nat := 4096

def linkLimit : Nat := 40

def startOf (current : Location) (p : Path) : Location := if p.isAbsolute then [] else current

def piecesOf (p : Path) : List (List Char) := Text.pieces '/' p.text.toList

def descend (d : Disk) (last : Bool) (l : Location) : List (List Char) → Except OsError Progress
  | [] => .ok (.arrived l)
  | s :: rest =>
    match d.node? l with
    | none => .error .notFound
    | some .directory =>
      if Path.isIdle s then descend d last l rest
      else if s = ['.', '.'] then descend d last l.dropLast rest
      else if (String.ofList s).utf8ByteSize > nameLimit then .error .nameTooLong
      else
        let m := l ++ [String.ofList s]
        match d.node? m with
        | some (.link t) =>
          if rest.isEmpty && !last then .ok (.arrived m)
          else .ok (.linked (startOf l ⟨t⟩) (piecesOf ⟨t⟩ ++ rest))
        | _ => descend d last m rest
    | some _ => .error .notDirectory

/-- The number is one more than the links that may still be followed. -/
def follow (d : Disk) (last : Bool) :
    Nat → Location → List (List Char) → Except OsError Location
  | 0, _, _ => .error .tooManyLinks
  | n + 1, l, pieces =>
    match d.descend last l pieces with
    | .error e => .error e
    | .ok (.arrived l) => .ok l
    | .ok (.linked l pieces) => follow d last n l pieces

def walk (d : Disk) (last : Bool) (p : Path) : Except OsError Location :=
  if p.text = "" then .error .notFound
  else if '\x00' ∈ p.text.toList then .error .nulInPath
  else if p.text.utf8ByteSize ≥ pathLimit then .error .nameTooLong
  else d.follow last (linkLimit + 1) (startOf d.current p) (piecesOf p)

def locate (d : Disk) (p : Path) : Except OsError Location := d.walk true p

def nodeAt (d : Disk) (l : Location) : Except OsError (Location × Node) :=
  match d.node? l with
  | none => .error .notFound
  | some n => .ok (l, n)

def find (d : Disk) (p : Path) : Except OsError (Location × Node) := (d.locate p).bind d.nodeAt

def findEntry (d : Disk) (p : Path) : Except OsError (Location × Node) :=
  (d.walk false p).bind d.nodeAt

def exists_ (d : Disk) (p : Path) : Bool := (d.find p).toOption.isSome

def isFile (d : Disk) (p : Path) : Bool :=
  match d.find p with
  | .ok (_, .file _) => true
  | _ => false

def isDirectory (d : Disk) (p : Path) : Bool :=
  match d.find p with
  | .ok (_, .directory) => true
  | _ => false

def fileAt? (d : Disk) (p : Path) : Option FileBody :=
  match d.find p with
  | .ok (_, .file n) => d.bodies[n]?
  | _ => none

def read (d : Disk) (p : Path) : Except OsError (Except OsError ByteArray) :=
  match d.find p with
  | .error e => .error e
  | .ok (_, n) =>
    match d.image? n with
    | some b => .ok (.ok b)
    | none => .ok (.error .isDirectory)

def readAll (d : Disk) (p : Path) : Except OsError ByteArray :=
  match d.read p with
  | .error e => .error e
  | .ok r => r

def canonical (d : Disk) (p : Path) : Except OsError Path :=
  match d.find p with
  | .error e => .error e
  | .ok (l, _) => .ok l.path

def namesAt (d : Disk) (l : Location) : List String :=
  (d.nodes.filterMap fun e => if e.1.dropLast = l then e.1.getLast? else none).mergeSort
    fun a b => (compare a b).isLE

def namesIn (d : Disk) (p : Path) : List String :=
  match d.find p with
  | .ok (l, .directory) => d.namesAt l
  | _ => []

theorem find_ok {d : Disk} {p : Path} {l : Location} {n : Node} (h : d.find p = .ok (l, n)) :
    d.node? l = some n := by
  simp only [find, Except.bind] at h
  split at h
  · cases h
  · simp only [nodeAt] at h
    split at h
    · cases h
    · cases h; assumption

end Freshen.Disk
