import Freshen.Shell.Awk.Value
import Freshen.Shell.Regular
/-! Programs that go through records: patterns, what is done where they apply, and functions. -/

namespace Freshen.Shell.Awk

inductive Name
  | shared (number : Nat)
  | own (number : Nat)
  deriving DecidableEq, Repr

inductive Builtin
  | length
  | index
  | substring
  | split
  | substitute
  | substituteAll
  | format
  | match_
  | upper
  | lower
  | sine
  | cosine
  | arcTangent
  | exponential
  | logarithm
  | whole
  | root
  | random
  | seed
  | close
  | system
  | flush
  | timeText
  | timeOf
  | time
  deriving DecidableEq, Repr

mutual

inductive Target
  | variable_ (x : Name)
  | fieldCount
  | field (number : Expr)
  | element (table : Name) (key : Expr)

inductive Expr
  | number (x : Float)
  | text (bs : Bytes)
  | regular (r : Regular)
  | value (t : Target)
  | tuple (es : List Expr)
  | assign (t : Target) (e : Expr)
  | update (t : Target) (o : Arithmetic) (e : Expr)
  | bump (t : Target) (difference : Float)
  | arithmetic (o : Arithmetic) (a b : Expr)
  | comparison (o : Comparison) (a b : Expr)
  | joined (a b : Expr)
  | negative (e : Expr)
  | numeric (e : Expr)
  | not (e : Expr)
  | both (a b : Expr)
  | either (a b : Expr)
  | choice (c a b : Expr)
  | resembles (a pattern : Expr)
  | contains (key : Expr) (table : Name)
  | call (function : Nat) (args : List Expr)
  | builtin (f : Builtin) (args : List Expr)
  | record (target : Option Target)
  | recordOfFile (file : Expr) (target : Option Target)
  | recordOfCommand (command : Expr) (target : Option Target)

end

inductive Sink
  | file (appends : Bool)
  | command
  deriving DecidableEq, Repr

inductive Statement
  | nothing
  | evaluate (e : Expr)
  | print (args : List Expr) (sink : Option (Sink × Expr))
  | printFormat (args : List Expr) (sink : Option (Sink × Expr))
  | block (ss : List Statement)
  | ifElse (c : Expr) (a b : Statement)
  | while (c : Option Expr) (after s : Statement)
  | doWhile (s : Statement) (c : Expr)
  | forKeys (x : Target) (table : Name) (s : Statement)
  | next
  | nextFile
  | break
  | continue
  | exit (e : Option Expr)
  | return (e : Option Expr)
  | delete (table : Name) (key : Option Expr)

inductive Pattern
  | atStart
  | atEnd
  | always
  | when (e : Expr)
  | range (number : Nat) (first last : Expr)

structure Rule where
  pattern : Pattern
  action : Statement

structure Function where
  name : String
  parameters : List Bool
  body : Statement

structure Program where
  rules : List Rule := []
  functions : Array Function := #[]
  shared : Array (String × Bool) := #[]

def usualVariables : List String :=
  ["NR", "FNR", "FS", "OFS", "ORS", "RS", "FILENAME", "SUBSEP", "RSTART", "RLENGTH", "CONVFMT",
    "OFMT", "ARGC", "ARGV", "ENVIRON"]

namespace Variable

def recordNumber : Nat := 0
def fileRecordNumber : Nat := 1
def fieldSeparator : Nat := 2
def outputFieldSeparator : Nat := 3
def outputRecordSeparator : Nat := 4
def recordSeparator : Nat := 5
def fileName : Nat := 6
def keySeparator : Nat := 7
def matchStart : Nat := 8
def matchLength : Nat := 9
def conversionFormat : Nat := 10
def outputFormat : Nat := 11
def argumentCount : Nat := 12
def arguments : Nat := 13
def environment : Nat := 14

end Variable

def usualTables : List Nat := [Variable.arguments, Variable.environment]

end Freshen.Shell.Awk
