import Freshen.Disk.Walk
/-! Making, changing, moving and removing what is on a disk. -/

namespace Freshen.Disk

def placeForFile (d : Disk) (p : Path) : Except OsError Location :=
  if p.withoutSlashes = p then d.locate p
  else (d.locate p.withoutSlashes).bind fun _ => .error .isDirectory

def openToWrite (d : Disk) (p : Path) : Except OsError (Node × Disk) :=
  match d.placeForFile p with
  | .error e => .error e
  | .ok l =>
    match d.node? l with
    | some .directory => .error .isDirectory
    | some n => .ok (n, d)
    | none =>
      match d.node? l.dropLast with
      | some .directory =>
        let (number, d) := d.newBody (.bytes ⟨#[]⟩) 0o666
        .ok (.file number, d.put l (.file number))
      | some _ => .error .notDirectory
      | none => .error .notFound

def fill (d : Disk) (n : Node) (c : Content) : Disk :=
  match n with
  | .file number => d.setContent number c
  | _ => d

def writeContent (d : Disk) (p : Path) (c : Content) : Except OsError Disk :=
  (d.openToWrite p).map fun (n, d) => d.fill n c

def write (d : Disk) (p : Path) (b : ByteArray) : Except OsError Disk := d.writeContent p (.bytes b)

def makeDirectory (d : Disk) (p : Path) : Except OsError Disk :=
  match d.walk false p.withoutSlashes with
  | .error e => .error e
  | .ok l =>
    match d.node? l with
    | some _ => .error .alreadyExists
    | none =>
      match d.node? l.dropLast with
      | some .directory => .ok (d.put l .directory)
      | some _ => .error .notDirectory
      | none => .error .notFound

def makeDirectoriesWithin : Nat → Disk → Path → Except OsError Disk
  | 0, d, _ => .ok d
  | n + 1, d, p =>
    if p.text = "" then .ok d
    else match d.makeDirectory p with
    | .ok d => .ok d
    | .error .notFound =>
      match p.parent? with
      | none => .error .notFound
      | some q =>
        match makeDirectoriesWithin n d q with
        | .error e => .error e
        | .ok d =>
          match d.makeDirectory p with
          | .ok d => .ok d
          | .error e => if d.isDirectory p then .ok d else .error e
    | .error e => if d.isDirectory p then .ok d else .error e

def makeDirectories (d : Disk) (p : Path) : Except OsError Disk :=
  makeDirectoriesWithin (p.text.length + 1) d p

def makeLink (d : Disk) (target : String) (p : Path) : Except OsError Disk :=
  if target = "" then .error .notFound
  else match d.walk false p with
  | .error e => .error e
  | .ok l => if (d.node? l).isSome then .error .alreadyExists else .ok (d.put l (.link target))

def addName (d : Disk) (n : Node) (p : Path) : Except OsError Disk :=
  match d.walk false p with
  | .error e => .error e
  | .ok l => if (d.node? l).isSome then .error .alreadyExists else .ok (d.put l n)

def removeFile (d : Disk) (p : Path) : Except OsError Disk :=
  match d.findEntry p with
  | .error e => .error e
  | .ok (_, .directory) => .error .isDirectory
  | .ok (l, _) => .ok (d.erase l)

def clear (d : Disk) (l : Location) : Disk :=
  { d with nodes := d.nodes.filter fun e => !l.isPrefixOf e.1 }

def removeDirectory (d : Disk) (p : Path) : Except OsError Disk :=
  match d.findEntry p with
  | .error e => .error e
  | .ok (l, .directory) => if (d.namesAt l).isEmpty then .ok (d.erase l) else .error .notEmpty
  | .ok _ => .error .notDirectory

def move (d : Disk) (source target : Location) : Disk :=
  if source = target then d
  else
    let moved := (d.nodes.filter fun e => source.isPrefixOf e.1).map
      fun e => (target ++ e.1.drop source.length, e.2)
    let rest := (d.clear source).clear target
    { rest with nodes := rest.nodes ++ moved }

def copyBody (d : Disk) (keepTime : Bool) (number : Nat) (l : Location) : Disk :=
  match d.bodies[number]? with
  | none => d
  | some b =>
    let time := if keepTime then b.time else d.clock
    let mode := if keepTime then b.mode else b.mode &&& (0o777 - d.mask)
    { d with bodies := d.bodies.push { b with time, mode } }.put l (.file d.bodies.size)

def copyTree (d : Disk) (keepTime : Bool) (source target : Location) : Disk :=
  (d.nodes.filter fun e => source.isPrefixOf e.1).foldl (fun d e =>
    let l := target ++ e.1.drop source.length
    match e.2, d.node? l with
    | .directory, some .directory => d
    | .file n, _ => d.copyBody keepTime n l
    | n, _ => d.put l n) d

end Freshen.Disk
