import Freshen.Database
import Freshen.Notice
import Freshen.Text.Lines
/-! A flat file of digests: a line for each entry, its three parts separated by tabs. -/

namespace Freshen.FlatFile

def entry? (line : String) : Option ((String × String) × String) :=
  match Text.pieces '\t' line.toList with
  | id :: target :: digest :: more =>
    some ((String.ofList id, String.ofList target),
      Text.trim (String.ofList (Text.joined '\t' (digest :: more))))
  | _ => none

structure Reading where
  entries : Entries := []
  notices : List Notice := []
  deriving DecidableEq

def Reading.line (r : Reading) (line : String) : Reading :=
  if Text.allBlank line then r
  else match entry? line with
  | some e => { r with entries := Keyed.set e.1 e.2 r.entries }
  | none => { r with notices := r.notices ++ [.malformedLine line] }

def parseLines (r : Reading) : List (List UInt8) → Except OsError Unit × Reading
  | [] => (.ok (), r)
  | l :: ls =>
    match Text.ofBytes? l with
    | none => (.error .notText, r)
    | some line => parseLines (r.line line) ls

def parse (bytes : ByteArray) : Except OsError Unit × Reading :=
  parseLines {} (Text.rawLines bytes.data.toList)

def entryLine (e : (String × String) × String) : String :=
  e.1.1 ++ "\t" ++ e.1.2 ++ "\t" ++ e.2 ++ "\n"

def precedes (a b : (String × String) × String) : Bool :=
  compareLex (compareOn (·.1.1)) (compareOn (·.1.2)) a b |>.isLE

def render (entries : Entries) : String :=
  String.join ((entries.mergeSort precedes).map entryLine)

end Freshen.FlatFile
