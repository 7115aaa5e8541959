import Freshen.Database.Image
import Freshen.Files
/-! What a disk is made of: a tree of names, and the files that the names lead to. A file may have
several names, or none while somebody still has it open. -/

namespace Freshen

inductive Content
  | bytes (b : ByteArray)
  | database (d : Database)
  deriving Inhabited

def Content.image : Content → ByteArray
  | .bytes b => b
  | .database d => d.image

instance : DecidableEq Content
  | .bytes a, .bytes b =>
    if h : a.data = b.data then isTrue (congrArg Content.bytes (ByteArray.ext h))
    else isFalse fun e => h (congrArg ByteArray.data (Content.bytes.inj e))
  | .database c, .database d =>
    if h : c = d then isTrue (congrArg Content.database h)
    else isFalse fun e => h (Content.database.inj e)
  | .bytes _, .database _ | .database _, .bytes _ => isFalse nofun

structure FileBody where
  content : Content := .bytes ⟨#[]⟩
  mode : Nat
  time : Int
  deriving DecidableEq, Inhabited

namespace FileBody

def isExecutable (f : FileBody) : Bool := f.mode &&& 0o111 != 0

end FileBody

inductive Node
  | directory
  | file (number : Nat)
  | link (target : String)
  | null
  deriving DecidableEq, Inhabited, Repr

abbrev Location := List String

namespace Location

def path (l : Location) : Path := ⟨"/" ++ "/".intercalate l⟩

def upTo (l : Location) : List Location := (List.range l.length).map fun i => l.take (i + 1)

end Location

structure Disk where
  nodes : List (Location × Node)
  bodies : Array FileBody := #[]
  current : Location
  clock : Int := 1767225600 * 1000000000
  mask : Nat := 0o022
  deriving DecidableEq, Inhabited

namespace Disk

def bare (current : Location) : Disk where
  nodes := (([["dev"], ["tmp"]] ++ current.upTo).map (·, .directory)) ++ [(["dev", "null"], .null)]
  current := current

def node? (d : Disk) : Location → Option Node
  | [] => some .directory
  | l => Keyed.get? d.nodes l

def put (d : Disk) (l : Location) (n : Node) : Disk := { d with nodes := Keyed.set l n d.nodes }

def erase (d : Disk) (l : Location) : Disk := { d with nodes := Keyed.erase l d.nodes }

def content (d : Disk) (number : Nat) : Content :=
  ((d.bodies[number]?).map (·.content)).getD (.bytes ⟨#[]⟩)

def image? (d : Disk) : Node → Option ByteArray
  | .file n => some (d.content n).image
  | .null => some ⟨#[]⟩
  | .directory | .link _ => none

def modifyBody (d : Disk) (number : Nat) (f : FileBody → FileBody) : Disk :=
  { d with bodies := d.bodies.modify number f }

def setContent (d : Disk) (number : Nat) (c : Content) : Disk :=
  d.modifyBody number fun b => { b with content := c, time := d.clock }

def newBody (d : Disk) (c : Content) (mode : Nat) : Nat × Disk :=
  (d.bodies.size, { d with bodies := d.bodies.push ⟨c, mode &&& (0o777 - d.mask), d.clock⟩ })

theorem node?_mem {d : Disk} {l : Location} {n : Node} (h : d.node? l = some n)
    (hn : n ≠ .directory) : l ∈ d.nodes.map (·.1) := by
  cases l with
  | nil => simp only [node?, Option.some.injEq] at h; exact absurd h.symm hn
  | cons a l => exact Keyed.mem_keys_of_get? h

end Disk
end Freshen
