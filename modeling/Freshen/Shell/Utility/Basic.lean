import Freshen.Shell.Condition
import Freshen.Shell.Printf
/-! What all small programs have in common: each takes arguments and what is piped into it, and
leaves output, complaints, a status and a changed disk. -/

namespace Freshen.Shell

structure Call where
  name : String
  disk : Disk
  args : List String
  input : Bytes := []
  output : Option Nat := none
  source : Option Nat := none

structure Result where
  disk : Disk
  status : Nat := 0
  out : Bytes := []
  complaints : List String := []
  marks : List Nat := []
  isDirect : Bool := false
  tookInput : Bool := false
  isSated : Bool := false
  taken : Option Nat := none
  isEndless : Bool := false
  lasts : Int := 0

namespace Utility

def unchanged (c : Call) : Result := { disk := c.disk }

def printing (c : Call) (out : Bytes) : Result := { disk := c.disk, out }

def complain (c : Call) (r : Result) (status : Nat) (complaint : String) : Result :=
  { r with
    status
    complaints := r.complaints ++ [c.name ++ ": " ++ complaint]
    marks := r.marks ++ [r.out.length] }

def failing (c : Call) (status : Nat) (complaint : String) : Result :=
  complain c (unchanged c) status complaint

def reading (r : Result) : Result := { r with tookInput := true }

def padLeft (width : Nat) (s : String) : String :=
  String.ofList (List.replicate (width - s.length) ' ') ++ s

def quoted (s : String) : String := "'" ++ s ++ "'"

def shown (file : String) : String :=
  let isSpecial (c : Char) : Bool := " !\"$&()*;<=>[^\x60|'\\\t\n".toList.contains c
  if file = "" || file.startsWith "#" || file.startsWith "~" || file.toList.any isSpecial then
    if !file.toList.contains '\'' then quoted file
    else "\"" ++ file ++ "\""
  else file

def advice (c : Call) : String := "Try " ++ quoted (c.name ++ " --help") ++ " for more information."

def misuse (c : Call) (status : Nat) (complaint : String) : Result :=
  let r := failing c status complaint
  { r with complaints := r.complaints ++ [advice c] }

def missingOperand (c : Call) : Result := misuse c 1 "missing operand"

def extraOperand (c : Call) (operand : String) : Result :=
  misuse c 1 ("extra operand " ++ quoted operand)

structure Arguments where
  flags : List Char := []
  values : List (Char × String) := []
  operands : List String := []

namespace Arguments

inductive Fault
  | unknown (option : Char)
  | valueMissing (option : Char)
  | unrecognized (word : String)
  | longValueMissing (word : String)
  | valueRefused (word : String)
  | ambiguous (word : String) (choices : List String)
  deriving DecidableEq, Repr

def Fault.message : Fault → String
  | unknown o => "invalid option -- " ++ quoted o.toString
  | valueMissing o => "option requires an argument -- " ++ quoted o.toString
  | unrecognized w => "unrecognized option " ++ quoted ("--" ++ w)
  | longValueMissing w => "option " ++ quoted ("--" ++ w) ++ " requires an argument"
  | valueRefused w => "option " ++ quoted ("--" ++ w) ++ " doesn't allow an argument"
  | ambiguous w choices =>
    "option " ++ quoted ("--" ++ w) ++ " is ambiguous; possibilities: " ++
      " ".intercalate (choices.map fun c => quoted ("--" ++ c))

def has (a : Arguments) (c : Char) : Bool := a.flags.contains c

def lastOf (a : Arguments) (cs : List Char) : Option Char := a.flags.find? cs.contains

def value? (a : Arguments) (c : Char) : Option String := Keyed.get? a.values c

def allValues (a : Arguments) (c : Char) : List String :=
  ((a.values.filter (·.1 = c)).map (·.2)).reverse

structure Menu where
  known : List Char
  valued : List Char := []
  long : List (String × Char) := []
  optional : List Char := []

def letters (m : Menu) (a : Arguments) (next : List String) :
    List Char → Except Fault (Arguments × List String)
  | [] => .ok (a, next)
  | c :: cs =>
    if m.valued.contains c then
      match cs, next with
      | [], v :: next => .ok ({ a with values := (c, v) :: a.values }, next)
      | [], [] => .error (.valueMissing c)
      | cs, next => .ok ({ a with values := (c, String.ofList cs) :: a.values }, next)
    else if m.optional.contains c then
      .ok ({ a with values := (c, String.ofList cs) :: a.values }, next)
    else if m.known.contains c then letters m { a with flags := c :: a.flags } next cs
    else .error (.unknown c)

def longOption (m : Menu) (a : Arguments) (next : List String) (word : List Char) :
    Except Fault (Arguments × List String) :=
  let name := String.ofList (word.takeWhile (· ≠ '='))
  let value? := match word.dropWhile (· ≠ '=') with
    | [] => none
    | _ :: v => some (String.ofList v)
  let usable := m.long.filter fun e => (m.known ++ m.valued ++ m.optional).contains e.2
  let choices : List (String × Char) := match usable.filter (·.1 = name) with
    | [] => usable.filter (·.1.startsWith name)
    | es => es
  match choices with
  | [] => .error (.unrecognized name)
  | (full, c) :: more =>
    if more.any (·.2 ≠ c) then .error (.ambiguous name (choices.map (·.1)))
    else if m.valued.contains c then
      match value?, next with
      | some v, next => .ok ({ a with values := (c, v) :: a.values }, next)
      | none, v :: next => .ok ({ a with values := (c, v) :: a.values }, next)
      | none, [] => .error (.longValueMissing full)
    else if m.optional.contains c then
      .ok ({ a with values := (c, value?.getD "") :: a.values }, next)
    else if value?.isSome then .error (.valueRefused full)
    else .ok ({ a with flags := c :: a.flags }, next)

def parseWithin (m : Menu) : Nat → Arguments → List String → Except Fault Arguments
  | 0, a, _ => .ok a
  | _ + 1, a, [] => .ok a
  | n + 1, a, w :: ws =>
    match w.toList with
    | ['-', '-'] => .ok { a with operands := a.operands ++ ws }
    | '-' :: '-' :: cs =>
      match longOption m a ws cs with
      | .ok (a, ws) => parseWithin m n a ws
      | .error f => .error f
    | '-' :: c :: cs =>
      match letters m a ws (c :: cs) with
      | .ok (a, ws) => parseWithin m n a ws
      | .error f => .error f
    | _ => parseWithin m n { a with operands := a.operands ++ [w] } ws

def parse (m : Menu) (args : List String) : Except Fault Arguments :=
  parseWithin m (args.length + 1) {} args

end Arguments

def longNames (name : String) : List (String × Char) :=
  match ((name.splitOn "/").getLastD name) with
  | "cat" => [("number", 'n'), ("number-nonblank", 'b'), ("squeeze-blank", 's'),
      ("show-ends", 'E'), ("show-tabs", 'T'), ("show-all", 'A'), ("show-nonprinting", 'v')]
  | "cp" => [("recursive", 'r'), ("force", 'f'), ("archive", 'a'), ("verbose", 'v'),
      ("no-clobber", 'n'), ("link", 'l'), ("symbolic-link", 's'), ("dereference", 'L'),
      ("no-dereference", 'P'), ("update", 'u'), ("preserve", 'p'), ("target-directory", 't'),
      ("no-target-directory", 'T'), ("remove-destination", 'x')]
  | "mv" => [("force", 'f'), ("verbose", 'v'), ("no-clobber", 'n'), ("update", 'u'),
      ("target-directory", 't'), ("no-target-directory", 'T'), ("interactive", 'i')]
  | "ln" => [("symbolic", 's'), ("force", 'f'), ("no-dereference", 'n'), ("verbose", 'v'),
      ("relative", 'r'), ("no-target-directory", 'T'), ("target-directory", 't')]
  | "rm" => [("force", 'f'), ("recursive", 'r'), ("verbose", 'v'), ("dir", 'd')]
  | "mkdir" => [("parents", 'p'), ("verbose", 'v'), ("mode", 'm')]
  | "rmdir" => [("parents", 'p'), ("verbose", 'v'), ("ignore-fail-on-non-empty", 'i')]
  | "touch" => [("no-create", 'c'), ("date", 'd'), ("reference", 'r'), ("no-dereference", 'h')]
  | "chmod" => [("recursive", 'R'), ("verbose", 'v'), ("changes", 'c'), ("silent", 'f'),
      ("quiet", 'f'), ("reference", '=')]
  | "ls" => [("all", 'a'), ("almost-all", 'A'), ("recursive", 'R'), ("reverse", 'r'),
      ("directory", 'd'), ("classify", 'F'), ("size", 's'), ("inode", 'i')]
  | "readlink" | "realpath" => [("canonicalize", 'f'), ("canonicalize-existing", 'e'),
      ("canonicalize-missing", 'm'), ("no-newline", 'n'), ("strip", 's'), ("no-symlinks", 's'),
      ("quiet", 'q'), ("zero", 'z'), ("relative-to", '>')]
  | "basename" => [("multiple", 'a'), ("suffix", 's'), ("zero", 'z')]
  | "dirname" => [("zero", 'z')]
  | "grep" => [("quiet", 'q'), ("silent", 'q'), ("ignore-case", 'i'),
      ("invert-match", 'v'), ("count", 'c'), ("line-number", 'n'), ("extended-regexp", 'E'),
      ("fixed-strings", 'F'), ("basic-regexp", 'G'), ("perl-regexp", 'P'), ("regexp", 'e'),
      ("file", 'f'), ("only-matching", 'o'), ("word-regexp", 'w'), ("line-regexp", 'x'),
      ("files-with-matches", 'l'), ("files-without-match", 'L'), ("no-messages", 's'),
      ("max-count", 'm'), ("no-filename", 'h'), ("with-filename", 'H'), ("recursive", 'r'),
      ("dereference-recursive", 'R'), ("after-context", 'A'), ("before-context", 'B'),
      ("context", 'C'), ("text", 'a'), ("byte-offset", 'b'), ("null-data", 'z'), ("null", 'Z'),
      ("initial-tab", 'T'), ("binary", 'U'), ("line-buffered", '|'), ("include", '+'),
      ("exclude", '-'), ("exclude-dir", '/'), ("label", '%'), ("color", '?'), ("colour", '?'),
      ("group-separator", '~'), ("no-group-separator", '>'), ("binary-files", '&'),
      ("directories", 'd'), ("devices", 'D'), ("version", 'V')]
  | "sed" => [("quiet", 'n'), ("silent", 'n'), ("expression", 'e'), ("file", 'f'),
      ("regexp-extended", 'E'), ("separate", 's'), ("in-place", 'i'), ("null-data", 'z'),
      ("unbuffered", 'u'), ("line-length", 'l'), ("posix", 'p'), ("binary", 'b'),
      ("follow-symlinks", 'F'), ("sandbox", 'S'), ("debug", 'D')]
  | "head" | "tail" => [("lines", 'n'), ("bytes", 'c'), ("quiet", 'q'), ("silent", 'q'),
      ("verbose", 'v'), ("follow", 'f'), ("zero-terminated", 'z')]
  | "sort" => [("reverse", 'r'), ("numeric-sort", 'n'), ("unique", 'u'), ("stable", 's'),
      ("key", 'k'), ("field-separator", 't'), ("output", 'o'), ("check", '?'),
      ("ignore-case", 'f'), ("ignore-leading-blanks", 'b'), ("version-sort", 'V'),
      ("general-numeric-sort", 'g'), ("human-numeric-sort", 'h'), ("month-sort", 'M'),
      ("merge", 'm'), ("zero-terminated", 'z'), ("dictionary-order", 'd'),
      ("ignore-nonprinting", 'i'), ("random-sort", 'R'), ("buffer-size", 'S'),
      ("temporary-directory", 'T'), ("sort", '>'), ("parallel", '|'), ("batch-size", '/')]
  | "uniq" => [("count", 'c'), ("repeated", 'd'), ("unique", 'u'), ("ignore-case", 'i'),
      ("skip-fields", 'f'), ("skip-chars", 's'), ("check-chars", 'w'), ("zero-terminated", 'z'),
      ("all-repeated", '>'), ("group", '|')]
  | "cut" => [("delimiter", 'd'), ("fields", 'f'), ("characters", 'c'), ("bytes", 'b'),
      ("only-delimited", 's'), ("complement", '!'), ("output-delimiter", '>'),
      ("zero-terminated", 'z')]
  | "tr" => [("delete", 'd'), ("squeeze-repeats", 's'), ("complement", 'c'),
      ("truncate-set1", 't')]
  | "wc" => [("lines", 'l'), ("words", 'w'), ("bytes", 'c'), ("chars", 'm'),
      ("max-line-length", 'L')]
  | "tee" => [("append", 'a'), ("ignore-interrupts", 'i')]
  | "seq" => [("separator", 's'), ("equal-width", 'w'), ("format", 'f')]
  | "diff" => [("brief", 'q'), ("unified", '!'), ("context", '/'), ("recursive", 'r'),
      ("ignore-case", 'i'), ("ignore-all-space", 'w'), ("ignore-space-change", 'b'),
      ("ignore-blank-lines", 'B'), ("ignore-trailing-space", 'Z'), ("ignore-tab-expansion", 'E'),
      ("report-identical-files", 's'), ("new-file", 'N'), ("text", 'a'), ("label", 'L'),
      ("ed", 'e'), ("exclude", 'x'), ("ignore-matching-lines", 'I'), ("minimal", 'd'),
      ("speed-large-files", 'H'), ("strip-trailing-cr", 'R'), ("expand-tabs", 't'),
      ("show-c-function", 'p'), ("color", '?'), ("width", 'W')]
  | "cmp" => [("silent", 's'), ("quiet", 's'), ("verbose", 'l'), ("print-bytes", 'b'),
      ("bytes", 'n'), ("ignore-initial", 'i')]
  | "comm" => [("output-delimiter", '>'), ("nocheck-order", 'o'), ("check-order", 'O'),
      ("total", '+'), ("zero-terminated", 'z')]
  | "join" => [("header", 'h'), ("nocheck-order", 'n'), ("check-order", 'O'),
      ("ignore-case", 'i'), ("zero-terminated", 'z')]
  | "paste" => [("delimiters", 'd'), ("serial", 's'), ("zero-terminated", 'z')]
  | "fold" => [("width", 'w'), ("spaces", 's'), ("bytes", 'b')]
  | "expand" => [("tabs", 't'), ("initial", 'i')]
  | "unexpand" => [("tabs", 't'), ("all", 'a'), ("first-only", 'f')]
  | "nl" => [("body-numbering", 'b'), ("number-width", 'w'), ("number-separator", 's'),
      ("number-format", 'n'), ("starting-line-number", 'v'), ("line-increment", 'i'),
      ("header-numbering", 'h'), ("footer-numbering", 'f'), ("section-delimiter", 'd'),
      ("join-blank-lines", 'l'), ("no-renumber", 'p')]
  | "tac" => [("separator", 's'), ("before", 'b'), ("regex", 'r')]
  | "stat" => [("format", 'c'), ("dereference", 'L'), ("printf", '%')]
  | "date" => [("date", 'd'), ("utc", 'u'), ("universal", 'u'), ("reference", 'r')]
  | "mktemp" => [("directory", 'd'), ("dry-run", 'u'), ("quiet", 'q'), ("tmpdir", 'p')]
  | "truncate" => [("size", 's'), ("no-create", 'c'), ("reference", 'r')]
  | "base64" | "base32" => [("decode", 'd'), ("wrap", 'w'), ("ignore-garbage", 'i')]
  | "md5sum" | "sha1sum" | "sha224sum" | "sha256sum" | "sha384sum" | "sha512sum" | "b2sum" |
    "cksum" =>
    [("check", 'c'), ("binary", 'b'), ("text", 't'), ("quiet", '|'), ("status", '%'),
      ("tag", '>'), ("zero", 'z'), ("strict", '!'), ("warn", 'w'), ("ignore-missing", '~'),
      ("length", 'l'), ("algorithm", 'a'), ("untagged", '='), ("debug", '^')]
  | "sum" => [("sysv", 's')]
  | "install" => [("directory", 'd'), ("mode", 'm'), ("verbose", 'v'),
      ("target-directory", 't')]
  | "split" => [("lines", 'l'), ("bytes", 'b'), ("line-bytes", 'C'), ("number", 'n'),
      ("numeric-suffixes", '#'), ("hex-suffixes", '&'), ("suffix-length", 'a'),
      ("additional-suffix", '+'), ("verbose", '!'), ("elide-empty-files", 'e'),
      ("separator", 't'), ("unbuffered", 'u')]
  | "shuf" => [("echo", 'e'), ("input-range", 'i'), ("head-count", 'n'), ("repeat", 'r'),
      ("output", 'o'), ("zero-terminated", 'z'), ("random-source", '?')]
  | "factor" => [("exponents", 'h')]
  | "uname" => [("all", 'a'), ("kernel-name", 's'), ("nodename", 'n'), ("kernel-release", 'r'),
      ("kernel-version", 'v'), ("machine", 'm'), ("processor", 'p'), ("hardware-platform", 'i'),
      ("operating-system", 'o')]
  | "id" => [("user", 'u'), ("group", 'g'), ("groups", 'G'), ("name", 'n'), ("real", 'r'),
      ("zero", 'z')]
  | "nproc" => [("all", 'a'), ("ignore", 'i')]
  | "tty" => [("silent", 's'), ("quiet", 's')]
  | _ => []

def withArgumentsOr (status : Nat) (known valued : List Char) (c : Call)
    (run : Arguments → Result) : Result :=
  match Arguments.parse { known, valued, long := longNames c.name } c.args with
  | .ok a => run a
  | .error f => misuse c status f.message

def withArguments (known valued : List Char) (c : Call) (run : Arguments → Result) : Result :=
  withArgumentsOr 1 known valued c run

def contents (c : Call) (file : String) : Except OsError Bytes :=
  if file = "-" || file = "/dev/stdin" then .ok c.input
  else (c.disk.readAll ⟨file⟩).map (·.data.toList)

def write (d : Disk) (file : String) (bs : Bytes) : Except OsError Disk :=
  d.write ⟨file⟩ ⟨bs.toArray⟩

def readsInput (files : List String) : Bool := files.isEmpty || files.contains "-"

def inputs (c : Call) (files : List String) : List (String × Except OsError Bytes) :=
  (if files.isEmpty then ["-"] else files).map fun f => (f, contents c f)

def eachFile (c : Call) (files : List String) (fault : String → OsError → String)
    (f : Bytes → Bytes) : Result :=
  (inputs c files).foldl (fun r e =>
    match e.2 with
    | .ok bs => { r with out := r.out ++ f bs }
    | .error x => complain c r 1 (fault e.1 x))
    { disk := c.disk, tookInput := readsInput files }

def plainFault (file : String) (e : OsError) : String := s!"{shown file}: {e.text}"

def filtering (c : Call) (files : List String) (f : Bytes → Bytes) : Result :=
  let r := eachFile c files plainFault id
  { r with out := f r.out }

def rows (mark : UInt8) (bs : Bytes) : List Bytes :=
  let ps := Text.pieces mark bs
  if ps.getLast? = some [] then ps.dropLast else ps

def closed (mark : UInt8) (ls : List Bytes) : Bytes := ls.flatMap (· ++ [mark])

def lines (bs : Bytes) : List Bytes := rows 10 bs

def unlines (ls : List Bytes) : Bytes := closed 10 ls

def fullRows (mark : UInt8) (bs : Bytes) : List Bytes :=
  let ps := Text.pieces mark bs
  (ps.dropLast.map (· ++ [mark])) ++ (ps.getLast?.filter (!·.isEmpty)).toList

def fullLines (bs : Bytes) : List Bytes := fullRows 10 bs

def Arguments.mark (a : Arguments) : UInt8 := if a.has 'z' then 0 else 10

def refused (c : Call) (status : Nat) (value option : String) (choices : List (List String)) :
    Result :=
  let r := failing c status ("invalid argument " ++ quoted value ++ " for " ++ quoted option)
  let choice (names : List String) : String := "  - " ++ ", ".intercalate (names.map quoted)
  { r with
    complaints := r.complaints ++ ["Valid arguments are:"] ++ choices.map choice ++ [advice c] }

end Utility
end Freshen.Shell
