import Freshen.Program
/-! The command line. The current directory is read as a whole, the program runs on what was read,
and what it changed is written back. -/

namespace Freshen.Outer

def content (bytes : ByteArray) : Content :=
  match Database.ofImage? bytes with
  | some d => .database d
  | none => .bytes bytes

def moment (t : IO.FS.SystemTime) : Int := t.sec * 1000000000 + t.nsec.toNat

def bodyOf (path : String) (time : Int) : IO FileBody := do
  let bytes ← IO.FS.readBinFile path
  let isScript := bytes.data.toList.take 2 = [35, 33]
  return ⟨content bytes, if isScript then 0o755 else 0o644, time⟩

partial def addBelow (d : Disk) (l : Location) (entries : Array IO.FS.DirEntry) : IO Disk := do
  let mut d := d
  for e in entries do
    let at_ := l ++ [e.fileName]
    let about ← e.path.symlinkMetadata
    match about.type with
    | .dir => d ← addBelow (d.put at_ .directory) at_ (← e.path.readDir)
    | .file =>
      let body ← bodyOf e.path.toString (moment about.modified)
      d := { d with bodies := d.bodies.push body }.put at_ (.file d.bodies.size)
    | .symlink =>
      if ← e.path.pathExists then
        d := d.put at_ (.link (← IO.FS.realPath e.path).toString)
    | .other => pure ()
  return d

def readDisk : IO Disk := do
  let here ← IO.currentDir
  let l := ((Path.mk here.toString).components.filter (· ≠ .root)).map (·.text)
  let d ← addBelow (Shell.furnished (Disk.bare l)) l (← here.readDir)
  return { d with clock := d.bodies.foldl (fun t b => max t (b.time + 1)) d.clock }

def rights (mode : Nat) : IO.AccessRight :=
  ⟨mode &&& 4 != 0, mode &&& 2 != 0, mode &&& 1 != 0⟩

def writeFile (path : String) (b : FileBody) : IO Unit := do
  IO.FS.writeBinFile path b.content.image
  IO.setAccessRights path ⟨rights (b.mode / 64), rights (b.mode / 8), rights b.mode⟩

def writeNode (d : Disk) (l : Location) : Node → IO Unit
  | .directory => IO.FS.createDirAll l.path.text
  | .file n => writeFile l.path.text (d.bodies.getD n default)
  | .link _ =>
    match d.fileAt? l.path with
    | some b => writeFile l.path.text b
    | none => pure ()
  | .null => pure ()

def state (d : Disk) (l : Location) : Option (Node × Option FileBody) :=
  (d.node? l).map fun n => match n with
    | .file k => (.file 0, d.bodies[k]?)
    | n => (n, none)

def writeChanges (before after : Disk) : IO Unit := do
  for e in before.nodes.reverse do
    match e.2, after.node? e.1 with
    | .directory, some .directory => pure ()
    | .directory, _ => IO.FS.removeDirAll e.1.path.text
    | _, none | _, some .directory => IO.FS.removeFile e.1.path.text
    | _, _ => pure ()
  for e in after.nodes do
    if state before e.1 ≠ state after e.1 then writeNode after e.1 e.2

def environment : IO Environment := do
  let searchPath := match ← IO.getEnv "HASHMAKE_INCLUDE_PATH" with
    | some p => (Text.pieces ':' p.toList).map String.ofList
    | none => []
  return { searchPath, logLevel := ← IO.getEnv "HASHMAKE_LOG" }

end Freshen.Outer

def main (words : List String) : IO UInt32 := do
  let disk ← Freshen.Outer.readDisk
  let e := Freshen.Program.run disk (← Freshen.Outer.environment) words
  Freshen.Outer.writeChanges disk e.disk
  IO.print e.out
  IO.eprint e.err
  return e.code.toUInt32
