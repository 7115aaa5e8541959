import Freshen.Disk
import Freshen.Shell.Arithmetic
/-! Conditions on texts, numbers and files, as `test` takes them from its arguments. -/

namespace Freshen.Shell.Condition

inductive Fault
  | illegalNumber (s : String)
  | argumentExpected (operator : Option String)
  | unexpectedOperator (s : String)
  | closingParenthesis
  | unaryExpected (s : String)
  | binaryExpected (s : String)
  | tooMany
  deriving DecidableEq, Repr

namespace Fault

def message (d : Dialect) : Fault → String
  | illegalNumber s =>
    match d with
    | .dash => s!"Illegal number: {s}"
    | .bash => s!"{s}: integer expression expected"
  | argumentExpected (some o) =>
    if d = .dash then s!"{o}: argument expected" else "argument expected"
  | argumentExpected none => "argument expected"
  | unexpectedOperator s => s!"{s}: unexpected operator"
  | closingParenthesis => if d = .dash then "closing paren expected" else "\x60)' expected"
  | unaryExpected s => s!"{s}: unary operator expected"
  | binaryExpected s => s!"{s}: binary operator expected"
  | tooMany => "too many arguments"

end Fault

structure Setting where
  dialect : Dialect
  disk : Disk
  isSet : String → Bool := fun _ => false
  isOn : String → Bool := fun _ => false

def integer (s : String) : Except Fault Int :=
  let cs := ((s.toList.dropWhile isBlank).reverse.dropWhile isBlank).reverse
  let (sign, ds) : Int × List Char := match cs with
    | '-' :: ds => (-1, ds)
    | '+' :: ds => (1, ds)
    | ds => (1, ds)
  let v := sign * (Lexeme.inBase 10 ds : Int)
  if ds.isEmpty || !ds.all Char.isDigit || Arithmetic.saturated v ≠ v then .error (.illegalNumber s)
  else .ok v

def size (d : Disk) (p : Path) : Nat := ((d.readAll p).toOption.map (·.size)).getD 0

def isLink (d : Disk) (p : Path) : Bool :=
  match d.findEntry p with
  | .ok (_, .link _) => true
  | _ => false

def isExecutable (d : Disk) (p : Path) : Bool :=
  d.isDirectory p || (d.fileAt? p).any (·.isExecutable)

def isDevice (d : Disk) (p : Path) : Bool :=
  match d.find p with
  | .ok (_, .null) => true
  | _ => false

def unary? (s : Setting) (o arg : String) : Option Bool :=
  let p : Path := ⟨arg⟩
  let d := s.disk
  match o with
  | "-n" => some (arg ≠ "")
  | "-z" => some (arg = "")
  | "-e" | "-r" | "-w" | "-O" | "-G" => some (d.exists_ p)
  | "-f" => some (d.isFile p)
  | "-d" => some (d.isDirectory p)
  | "-x" => some (isExecutable d p)
  | "-s" => some (d.isDirectory p || size d p > 0)
  | "-c" => some (isDevice d p)
  | "-h" | "-L" => some (isLink d p)
  | "-b" | "-p" | "-S" | "-t" | "-u" | "-g" | "-k" => some false
  | _ =>
    if s.dialect = .dash then none
    else match o with
    | "-a" => some (d.exists_ p)
    | "-v" => some (s.isSet arg)
    | "-o" => some (s.isOn arg)
    | "-N" | "-R" => some false
    | _ => none

def isBinary (d : Dialect) (o : String) : Bool :=
  ["=", "!=", "<", ">", "-eq", "-ne", "-lt", "-le", "-gt", "-ge", "-ef", "-nt", "-ot"].contains o ||
    (d = .bash && o = "==")

def isSameFile (d : Disk) (a b : Path) : Bool :=
  match d.find a, d.find b with
  | .ok (_, .file m), .ok (_, .file n) => m = n
  | .ok (l, _), .ok (m, _) => l = m
  | _, _ => false

def timeOf? (d : Disk) (p : Path) : Option Int :=
  match d.find p with
  | .ok (_, .file n) => some ((d.bodies[n]?.map (·.time)).getD 0)
  | .ok _ => some 0
  | .error _ => none

def isNewer (s : Setting) (a b : Path) : Bool :=
  match timeOf? s.disk a, timeOf? s.disk b with
  | some x, some y => y < x
  | some _, none => s.dialect = .bash
  | none, _ => false

def binary (s : Setting) (a o b : String) : Except Fault Bool :=
  let compared (f : Int → Int → Bool) := do return f (← integer a) (← integer b)
  match o with
  | "=" | "==" => .ok (a = b)
  | "!=" => .ok (a ≠ b)
  | "<" => .ok (a < b)
  | ">" => .ok (b < a)
  | "-eq" => compared (· == ·)
  | "-ne" => compared (· != ·)
  | "-lt" => compared (· < ·)
  | "-le" => compared (· ≤ ·)
  | "-gt" => compared (· > ·)
  | "-ge" => compared (· ≥ ·)
  | "-ef" => .ok (isSameFile s.disk ⟨a⟩ ⟨b⟩)
  | "-nt" => .ok (isNewer s ⟨a⟩ ⟨b⟩)
  | "-ot" => .ok (isNewer s ⟨b⟩ ⟨a⟩)
  | o => .error (.unexpectedOperator o)

mutual

def either (s : Setting) : Nat → List String → Except Fault (Bool × List String)
  | 0, _ => .error (.argumentExpected none)
  | n + 1, args => do
    let (a, rest) ← both s n args
    match rest with
    | "-o" :: rest =>
      let (b, rest) ← either s n rest
      return (a || b, rest)
    | rest => return (a, rest)

def both (s : Setting) : Nat → List String → Except Fault (Bool × List String)
  | 0, _ => .error (.argumentExpected none)
  | n + 1, args => do
    let (a, rest) ← primary s n args
    match rest with
    | "-a" :: rest =>
      let (b, rest) ← both s n rest
      return (a && b, rest)
    | rest => return (a, rest)

def primary (s : Setting) : Nat → List String → Except Fault (Bool × List String)
  | 0, _ => .error (.argumentExpected none)
  | n + 1, args =>
    match args with
    | [] => if s.dialect = .dash then .ok (false, []) else .error (.argumentExpected none)
    | [a] => .ok (a ≠ "", [])
    | a :: o :: rest =>
      match isBinary s.dialect o, rest with
      | true, b :: rest => do return (← binary s a o b, rest)
      | true, [] => .error (.argumentExpected (some o))
      | false, _ =>
        if a = "!" then do
          let (b, rest) ← primary s n (o :: rest)
          return (!b, rest)
        else if a = "(" then do
          let (b, rest) ← either s n (o :: rest)
          match rest with
          | ")" :: rest => return (b, rest)
          | _ => .error .closingParenthesis
        else match unary? s a o with
        | some b => .ok (b, rest)
        | none => .ok (a ≠ "", o :: rest)

end

def two (s : Setting) (a b : String) : Except Fault Bool :=
  if a = "!" then .ok (b = "")
  else match unary? s a b with
  | some v => .ok v
  | none => .error (.unaryExpected a)

def three (s : Setting) (a o b : String) : Except Fault Bool :=
  if isBinary s.dialect o then binary s a o b
  else if o = "-a" then .ok (a ≠ "" && b ≠ "")
  else if o = "-o" then .ok (a ≠ "" || b ≠ "")
  else if a = "!" then (two s o b).map not
  else if a = "(" && b = ")" then .ok (o ≠ "")
  else .error (.binaryExpected o)

def byCount? (s : Setting) : List String → Option (Except Fault Bool)
  | [a] => some (.ok (a ≠ ""))
  | [a, b] => some (two s a b)
  | [a, o, b] => some (three s a o b)
  | ["!", a, o, b] => some ((three s a o b).map not)
  | ["(", a, b, ")"] => some (two s a b)
  | _ => none

def holds (s : Setting) (args : List String) : Except Fault Bool := do
  if args.isEmpty then return false
  let general : Except Fault Bool := do
    let (b, rest) ← either s (4 * args.length + 4) args
    if rest.isEmpty then return b
    else throw (if s.dialect = .bash then .tooMany
      else .unexpectedOperator ((args.take (args.length - rest.length)).getLastD ""))
  match s.dialect with
  | .dash => general
  | .bash => (byCount? s args).getD general

end Freshen.Shell.Condition
