import Freshen.StoreError
/-! Names of databases: paths, or paths written as resource identifiers with options. -/

namespace Freshen.Database

inductive Access
  | readOnly
  | readWrite
  | create
  | memory
  deriving DecidableEq, Repr

namespace Access

def rank : Access → Nat
  | readOnly => 1
  | readWrite => 2
  | create => 6
  | memory => 128

def ofName? : String → Option Access
  | "ro" => some readOnly
  | "rw" => some readWrite
  | "rwc" => some create
  | "memory" => some memory
  | _ => none

def demand : Access → Nat
  | memory => 0
  | a => a.rank

end Access

structure Name where
  file : String
  access : Access
  immutable : Bool := false
  deriving DecidableEq, Repr

namespace Name

def scheme : String := "file:"

def hexValue? (b : UInt8) : Option UInt8 :=
  if 48 ≤ b && b ≤ 57 then some (b - 48)
  else if 65 ≤ b && b ≤ 70 then some (b - 55)
  else if 97 ≤ b && b ≤ 102 then some (b - 87)
  else none

def decoded : List UInt8 → List UInt8
  | 37 :: a :: b :: r =>
    match hexValue? a, hexValue? b with
    | some x, some y => if x = 0 && y = 0 then [] else (x * 16 + y) :: decoded r
    | _, _ => 37 :: decoded (a :: b :: r)
  | b :: r => b :: decoded r
  | [] => []

def decodedText (cs : List Char) : String :=
  Text.Utf8.lenient ⟨(decoded (String.ofList cs).toUTF8.data.toList).toArray⟩

def options (cs : List Char) : List (String × String) :=
  (Text.pieces '&' cs).filterMap fun o =>
    let name := decodedText (o.takeWhile (· ≠ '='))
    if name = "" then none else some (name, decodedText ((o.dropWhile (· ≠ '=')).drop 1))

def isTrue (value : String) : Bool :=
  if value.toList.head?.any Char.isDigit then
    (value.toList.takeWhile Char.isDigit).any (· ≠ '0')
  else ["yes", "true", "on"].contains value.toLower

def fileSystems : List String := ["unix", "unix-none", "unix-dotfile", "unix-excl"]

def withOption (n : Name) (option value : String) : Except DatabaseError Name :=
  match option with
  | "mode" =>
    match Access.ofName? value with
    | none => .error (.noSuch "access mode" value)
    | some a =>
      if n.access.rank < a.demand then .error (.notAllowed value) else .ok { n with access := a }
  | "cache" =>
    if value = "shared" || value = "private" then .ok n else .error (.noSuch "cache mode" value)
  | "immutable" => .ok { n with immutable := isTrue value }
  | _ => .ok n

def checkFileSystem (options : List (String × String)) : Except DatabaseError Unit :=
  match (options.filter (·.1 = "vfs")).getLast? with
  | none => .ok ()
  | some (_, v) => if fileSystems.contains v then .ok () else .error (.noSuch "vfs" v)

def withoutAuthority : List Char → Except DatabaseError (List Char)
  | '/' :: '/' :: r =>
    let machine := String.ofList (r.takeWhile (· ≠ '/'))
    if machine = "" || machine = "localhost" then .ok (r.dropWhile (· ≠ '/'))
    else .error (.badAuthority machine)
  | r => .ok r

def ofIdentifier (access : Access) (cs : List Char) : Except DatabaseError Name := do
  let cs := (← withoutAuthority cs).takeWhile (· ≠ '#')
  let os := options ((cs.dropWhile (· ≠ '?')).drop 1)
  let name : Name := ⟨decodedText (cs.takeWhile (· ≠ '?')), access, false⟩
  let name ← os.foldlM (fun n o => n.withOption o.1 o.2) name
  checkFileSystem os
  return name

def parse (access : Access) (text : String) : Except DatabaseError Name :=
  let cs := text.toList
  if '\x00' ∈ cs then
    .error (.nulInName (String.ofList (cs.takeWhile (· ≠ '\x00'))).utf8ByteSize)
  else if scheme.toList.isPrefixOf cs then ofIdentifier access (cs.drop scheme.length)
  else .ok ⟨text, access, false⟩

def isTransient (n : Name) : Bool :=
  n.access = .memory || n.file = "" || n.file = ":memory:"

end Name
end Freshen.Database
