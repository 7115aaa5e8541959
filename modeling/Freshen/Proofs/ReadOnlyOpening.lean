import Freshen.Proofs.DatabaseOpening

/-! A store that is opened to be read beside one that is opened to be written. They know the same
digests, unless something has to be made or recorded before the digests can be read. -/

namespace Freshen.DigestStore

open Database Disk

variable {disk : Disk} {p : Path} {n : Name} {l : Location} {k : Nat} {d : Database}
  {s : DigestStore} {b : Backend} {location : Option Path}

def lying? (disk : Disk) (p : Path) : Option Database :=
  (place? disk p).bind (databaseAt? disk)

/-- What is at a path can be read without making anything: a database of this version with a table
of digests, under a name that may be opened to be read, or nothing that holds any digests. -/
structure Readable (disk : Disk) (p : Path) : Prop where
  present : disk.exists_ p = true → (∃ n, Name.parse .readOnly p.text = .ok n) ∧
    ∃ d, lying? disk p = some d ∧ d.version? = some version ∧ d.cache.isSome
  absent : disk.exists_ p = false → ∀ d, lying? disk p = some d → d.entries = []

def blank : Disk :=
  (((Disk.bare ["work"]).newBody (.bytes ⟨#[]⟩) 0o666).2.put ["work", ".hashmake"] .directory).put
    ["work", ".hashmake", "cache.db"] (.file 0)

end Freshen.DigestStore
