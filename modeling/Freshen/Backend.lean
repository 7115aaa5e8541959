import Freshen.Path
import Freshen.Text.Lower
/-! The kinds of digest stores, their names and their places. -/

namespace Freshen

inductive Backend
  | database
  | flatFile
  | memory
  deriving DecidableEq, Repr

namespace Backend

def name : Backend → String
  | database => "sqlite"
  | flatFile => "file"
  | memory => "memory"

def ofName? (s : String) : Option Backend :=
  [database, flatFile, memory].find? (·.name = s)

structure UnknownBackend where
  name : String
  deriving DecidableEq, Repr

def UnknownBackend.message (e : UnknownBackend) : String :=
  s!"invalid cache_backend: {e.name} (expected \"sqlite\", \"file\" or \"memory\")"

def parse (s : String) : Except UnknownBackend Backend :=
  let s := Text.lower (Text.trim s)
  match ofName? s with
  | some b => .ok b
  | none => .error ⟨s⟩

def defaultPath? : Backend → Option String
  | database => some ".hashmake/cache.db"
  | flatFile => some ".hashmake/digests"
  | memory => none

def location (b : Backend) (root : Path) (path : Option String) : Option Path :=
  (path <|> b.defaultPath?).map root.join

end Backend

end Freshen
