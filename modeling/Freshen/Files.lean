import Freshen.Digest
import Freshen.Keyed
import Freshen.Path
import Freshen.Text.Quoted
import Freshen.Text.Utf8
/-! Files to be read: what a build asks about them, and a set of files held in memory. -/

namespace Freshen

inductive OsError
  | notPermitted
  | notFound
  | argumentsTooLong
  | badFormat
  | permissionDenied
  | alreadyExists
  | notDirectory
  | isDirectory
  | invalidArgument
  | nameTooLong
  | notEmpty
  | tooManyLinks
  | nulInPath
  | nulInArgument
  | notText
  deriving DecidableEq, Repr

namespace OsError

def text : OsError → String
  | notPermitted => "Operation not permitted"
  | notFound => "No such file or directory"
  | argumentsTooLong => "Argument list too long"
  | badFormat => "Exec format error"
  | permissionDenied => "Permission denied"
  | alreadyExists => "File exists"
  | notDirectory => "Not a directory"
  | isDirectory => "Is a directory"
  | invalidArgument => "Invalid argument"
  | nameTooLong => "File name too long"
  | notEmpty => "Directory not empty"
  | tooManyLinks => "Too many levels of symbolic links"
  | nulInPath => "file name contained an unexpected NUL byte"
  | nulInArgument => "nul byte found in provided data"
  | notText => "stream did not contain valid UTF-8"

def number? : OsError → Option Nat
  | notPermitted => some 1
  | notFound => some 2
  | argumentsTooLong => some 7
  | badFormat => some 8
  | permissionDenied => some 13
  | alreadyExists => some 17
  | notDirectory => some 20
  | isDirectory => some 21
  | invalidArgument => some 22
  | nameTooLong => some 36
  | notEmpty => some 39
  | tooManyLinks => some 40
  | nulInPath | nulInArgument | notText => none

def message (e : OsError) : String :=
  match e.number? with
  | some n => e.text ++ s!" (os error {n})"
  | none => e.text

end OsError

abbrev Trail := List String

namespace Trail

def message (t : Trail) : String := ": ".intercalate t

def headline (t : Trail) : String := t.head?.getD ""

end Trail

namespace Path

def quoted (p : Path) : String := Text.quoted p.text

end Path

inductive FileError
  | absent (p : Path)
  | notText (d : Text.Utf8.Defect)
  | opening (p : Path) (cause : OsError)
  | reading (p : Path) (cause : OsError)
  | resolving (p : Path) (cause : OsError)
  deriving DecidableEq

namespace FileError

def trail : FileError → Trail
  | absent p => ["File not found: " ++ p.quoted]
  | notText d => ["Invalid UTF-8: " ++ d.message]
  | opening p cause => ["opening file " ++ p.quoted, cause.message]
  | reading p cause => ["reading file " ++ p.quoted, cause.message]
  | resolving p cause => ["canonicalizing " ++ p.quoted, cause.message]

end FileError

inductive DigestError
  | opening (p : Path) (cause : FileError)
  | reading (p : Path) (cause : OsError)
  deriving DecidableEq

namespace DigestError

def trail : DigestError → Trail
  | opening p cause => ("opening file for hashing: " ++ p.quoted) :: cause.trail
  | reading p cause => ["hashing file " ++ p.quoted, cause.message]

end DigestError

/-- What can be asked about files. A file that can be read as text is one of `paths` under its
canonical name, so there are finitely many of them. -/
structure Files where
  isFile : Path → Bool
  isPresent : Path → Bool
  openRead : Path → Except FileError (Except OsError ByteArray)
  readText : Path → Except FileError String
  canonical : Path → Except FileError Path
  paths : List Path
  listed : ∀ p s, readText p = .ok s → (canonical p).toOption.getD p ∈ paths

namespace Files

def nameOf (f : Files) (p : Path) : Path := (f.canonical p).toOption.getD p

theorem nameOf_mem_paths {f : Files} {p : Path} {s : String} (h : f.readText p = .ok s) :
    f.nameOf p ∈ f.paths := f.listed p s h

def digest (f : Files) (p : Path) : Except DigestError Digest :=
  match f.openRead p with
  | .error e => .error (.opening p e)
  | .ok (.error e) => .error (.reading p e)
  | .ok (.ok bytes) => .ok (fingerprintReads (reads bytes))

end Files

structure FileSet where
  entries : List (Path × ByteArray) := []
  deriving Inhabited

namespace FileSet

def get? (s : FileSet) (p : Path) : Option ByteArray := Keyed.get? s.entries p.plain

def insert (s : FileSet) (p : Path) (bytes : ByteArray) : FileSet :=
  ⟨Keyed.set p.plain bytes s.entries⟩

def erase (s : FileSet) (p : Path) : FileSet := ⟨Keyed.erase p.plain s.entries⟩

def readText (s : FileSet) (p : Path) : Except FileError String :=
  match s.get? p with
  | none => .error (.absent p)
  | some bytes =>
    match String.fromUTF8? bytes with
    | some text => .ok text
    | none => .error (.notText ((Text.Utf8.defect bytes).getD ⟨0, none⟩))

theorem listed (s : FileSet) (p : Path) (t : String) (h : s.readText p = .ok t) :
    p.plain ∈ s.entries.map (·.1) := by
  simp only [readText] at h
  split at h
  · cases h
  · next h' => exact Keyed.mem_keys_of_get? h'

def files (s : FileSet) : Files where
  isFile p := (s.get? p).isSome
  isPresent p := s.entries.any (·.1.startsWith p.plain)
  openRead p := match s.get? p with
    | some bytes => .ok (.ok bytes)
    | none => .error (.absent p)
  readText := s.readText
  canonical p := .ok p.plain
  paths := s.entries.map (·.1)
  listed := s.listed

end FileSet

structure Sources where
  files : Files
  root : Path

namespace Sources

def pathOf (s : Sources) (target : String) : Path := s.root.join target

def fileExists (s : Sources) (target : String) : Bool := s.files.isFile (s.pathOf target)

end Sources

def projectRoot (current : Path) (description : Path) : Path :=
  match description.parent? with
  | some p => if p.text = "" then current else p
  | none => current

end Freshen
