import Freshen.Files
/-! What can go wrong with a digest store. -/

namespace Freshen

inductive DatabaseError
  | nulInName (position : Nat)
  | badAuthority (text : String)
  | noSuch (option value : String)
  | notAllowed (value : String)
  | cannotOpen (p : Path)
  | unreadable
  | notDatabase
  | noTable (name : String)
  | readOnly
  | moved
  | unflushed
  deriving DecidableEq

namespace DatabaseError

def text : DatabaseError → String
  | nulInName n => s!"nul byte found in provided data at position: {n}"
  | badAuthority t => s!"invalid uri authority: {t}"
  | noSuch option value => s!"no such {option}: {value}"
  | notAllowed value => s!"access mode not allowed: {value}"
  | cannotOpen p => s!"unable to open database file: {p.text}"
  | unreadable | unflushed => "disk I/O error"
  | notDatabase => "file is not a database"
  | noTable name => s!"no such table: {name}"
  | readOnly | moved => "attempt to write a readonly database"

def code? : DatabaseError → Option (Nat × String)
  | nulInName _ => none
  | badAuthority _ | noSuch .. | noTable _ => some (1, "SQL error or missing database")
  | notAllowed _ => some (3, "Access permission denied")
  | readOnly => some (8, "Attempt to write a readonly database")
  | cannotOpen _ => some (14, "Unable to open the database file")
  | notDatabase => some (26, "File opened that is not a database file")
  | unreadable => some (266, "Error reading from disk")
  | moved => some (1032, "Database cannot be modified because database file has moved")
  | unflushed => some (1034, "Error flushing data to persistent storage (fsync)")

def message (e : DatabaseError) : String :=
  match e.code? with
  | some (n, meaning) => s!"{e.text}: Error code {n}: {meaning}"
  | none => e.text ++ ": " ++ e.text

end DatabaseError

inductive StoreError
  | refused (reason : String)
  | makingDirectory (kind : String) (p : Path) (cause : OsError)
  | openingDatabase (p : Path) (cause : DatabaseError)
  | makingTables (cause : DatabaseError)
  | recordingVersion (cause : DatabaseError)
  | database (cause : DatabaseError)
  | otherVersion (found : String)
  | noVersion
  | lookingUp (target : String) (cause : DatabaseError)
  | storing (target : String) (cause : DatabaseError)
  | openingFile (p : Path) (cause : OsError)
  | reading (cause : OsError)
  | creatingFile (p : Path) (cause : OsError)
  deriving DecidableEq

namespace StoreError

def trail : StoreError → Trail
  | refused reason => [reason]
  | makingDirectory kind p cause => [s!"creating {kind} directory at " ++ p.quoted, cause.message]
  | openingDatabase p cause => ["failed to open cache database at " ++ p.text, cause.message]
  | makingTables cause => ["failed to initialize cache schema", cause.message]
  | recordingVersion cause => ["failed to record cache schema version", cause.message]
  | database cause => [cause.message]
  | otherVersion found => [s!"incompatible cache schema version {found} (expected 1)"]
  | noVersion => ["cache database has no schema version"]
  | lookingUp t cause => [s!"looking up cached digest for '{t}'", cause.message]
  | storing t cause => [s!"storing digest for '{t}'", cause.message]
  | openingFile p cause => ["opening digest file at " ++ p.quoted, cause.message]
  | reading cause => [cause.message]
  | creatingFile p cause => ["creating digest file at " ++ p.quoted, cause.message]

end StoreError
end Freshen
