import Freshen.Keyed
import Freshen.StoreError
/-! The tables of a digest database and the statements that are run on it. A table has the primary
key that it is created with: `meta` has one row for a key, `cache` one for a build and a target. -/

namespace Freshen

abbrev Entries := List ((String × String) × String)

structure Database where
  meta_ : Option (List (String × String)) := none
  cache : Option Entries := none
  deriving DecidableEq, Repr, Inhabited

namespace Database

def versionKey : String := "schema_version"
def version : String := "1"

def withTables (d : Database) : Database :=
  { meta_ := some (d.meta_.getD []), cache := some (d.cache.getD []) }

def withVersion (d : Database) : Except DatabaseError Database :=
  match d.meta_ with
  | none => .error (.noTable "meta")
  | some rows =>
    .ok (if (Keyed.get? rows versionKey).isSome then d
      else { d with meta_ := some (Keyed.set versionKey version rows) })

def checkVersion (d : Database) : Except StoreError Unit :=
  match d.meta_ with
  | none => .error (.database (.noTable "meta"))
  | some rows =>
    match Keyed.get? rows versionKey with
    | none => .error .noVersion
    | some v => if v = version then .ok () else .error (.otherVersion v)

def select (d : Database) (id target : String) : Except DatabaseError (Option String) :=
  match d.cache with
  | none => .error (.noTable "cache")
  | some rows => .ok (Keyed.get? rows (id, target))

def replace (d : Database) (id target digest : String) : Except DatabaseError Database :=
  match d.cache with
  | none => .error (.noTable "cache")
  | some rows => .ok { d with cache := some (Keyed.set (id, target) digest rows) }

end Database
end Freshen
