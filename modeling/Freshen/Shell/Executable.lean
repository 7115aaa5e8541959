import Freshen.Disk
/-! What can be executed. A file holds a program of the system, or it is a script whose first line
names its interpreter. -/

namespace Freshen.Shell

inductive Executable
  | program (name : String)
  | script (interpreter : String) (argument : Option String)
  | plain
  deriving DecidableEq, Repr

namespace Executable

def mark : List UInt8 := [127, 69, 76, 70]

def image (name : String) : ByteArray := ⟨mark.toArray ++ name.toUTF8.data⟩

def isBlank (c : Char) : Bool := c = ' ' || c = '\t'

def trimmed (cs : List Char) : List Char :=
  ((cs.dropWhile isBlank).reverse.dropWhile isBlank).reverse

def ofFirstLine (line : List Char) : Executable :=
  let line := trimmed line
  let name := line.takeWhile (!isBlank ·)
  let rest := trimmed (line.drop name.length)
  if name.isEmpty then .plain
  else .script (String.ofList name) (if rest.isEmpty then none else some (String.ofList rest))

def ofBytes (b : ByteArray) : Executable :=
  match (b.data.extract 0 256).toList with
  | 35 :: 33 :: r =>
    ofFirstLine (Text.Utf8.lenient ⟨(r.takeWhile (· ≠ 10)).toArray⟩).toList
  | bs =>
    if mark.isPrefixOf bs then
      .program (Text.Utf8.lenient ⟨(bs.drop mark.length).toArray⟩)
    else .plain

def atPath (d : Disk) (path : String) : Except OsError Executable :=
  match d.find ⟨path⟩ with
  | .error e => .error e
  | .ok (_, .file n) =>
    match d.bodies[n]? with
    | some b => if b.isExecutable then .ok (ofBytes b.content.image) else .error .permissionDenied
    | none => .error .notFound
  | .ok _ => .error .permissionDenied

structure Start where
  program : String
  name : String
  args : List String
  deriving DecidableEq, Repr

def interpreterLimit : Nat := 5

def resolve (d : Disk) : Nat → String → String → List String → Except OsError Start
  | 0, _, _, _ => .error .tooManyLinks
  | n + 1, path, name, args =>
    match atPath d path with
    | .error e => .error e
    | .ok (.program p) => .ok ⟨p, name, args⟩
    | .ok (.script i argument) => resolve d n i i (argument.toList ++ path :: args)
    | .ok .plain => .error .badFormat

def wordLimit : Nat := 131072

def isTooLong (words : List String) : Bool := words.any fun w => wordLimit ≤ w.utf8ByteSize

def ofPath (d : Disk) (path name : String) (args environment : List String) :
    Except OsError Start :=
  if isTooLong (name :: args) || isTooLong environment then .error .argumentsTooLong
  else resolve d interpreterLimit path name args

def usualPlaces : String :=
  "/usr/local/sbin:/usr/local/bin:/usr/sbin:/usr/bin:/sbin:/bin"

def candidates (places name : String) : List String :=
  (Text.pieces ':' places.toList).map fun p =>
    if p.isEmpty then name
    else String.ofList (if p.getLast? = some '/' then p else p ++ ['/']) ++ name

def hasSlash (name : String) : Bool := name.toList.contains '/'

def findWithin (d : Disk) (refused : Option OsError) : List String → Except OsError String
  | [] => .error (refused.getD .notFound)
  | p :: ps =>
    match atPath d p with
    | .ok _ => .ok p
    | .error .notFound | .error .notDirectory => findWithin d refused ps
    | .error .permissionDenied => findWithin d (some .permissionDenied) ps
    | .error e => .error e

def find (d : Disk) (places name : String) : Except OsError String :=
  if name = "" then .error .notFound
  else if hasSlash name then .ok name
  else findWithin d none (candidates places name)

end Executable

def programNames : List String :=
  ["[", "arch", "awk", "b2sum", "base32", "base64", "basename", "bash", "cat", "chmod", "cksum",
    "cmp", "comm", "cp", "cut", "dash", "date", "dd", "diff", "dirname", "echo", "egrep", "env",
    "expand", "expr", "factor", "false", "fgrep", "find", "fold", "grep", "groups", "head",
    "hostname", "id", "install", "join", "kill", "link", "ln", "logname", "ls", "mawk", "md5sum",
    "mkdir", "mktemp", "mv", "nice", "nl", "nohup", "nproc", "od", "paste", "printenv", "printf",
    "pwd", "readlink", "realpath", "rev", "rm", "rmdir", "sed", "seq", "sh", "sha1sum",
    "sha224sum", "sha256sum", "sha384sum", "sha512sum", "shuf", "sleep", "sort", "split", "stat",
    "sum", "sync", "tac", "tail", "tee", "test", "timeout", "touch", "tr", "true", "truncate",
    "tsort", "tty", "uname", "unexpand", "uniq", "unlink", "users", "wc", "which", "whoami",
    "xargs", "yes"]

def furnished (d : Disk) : Disk :=
  let folders : List Location :=
    [["bin"], ["etc"], ["home"], ["root"], ["usr"], ["usr", "bin"], ["usr", "local"],
      ["usr", "local", "bin"], ["usr", "sbin"], ["sbin"], ["var"]]
  let d := folders.foldl (fun d l => d.put l .directory) d
  (programNames).foldl (fun d name =>
    let d := { d with bodies := d.bodies.push ⟨.bytes (Executable.image name), 0o755, d.clock⟩ }
    let n := Node.file (d.bodies.size - 1)
    (d.put ["bin", name] n).put ["usr", "bin", name] n) d

end Freshen.Shell
