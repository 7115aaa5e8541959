import Freshen.Text.Pieces
/-! Bytes as lines of text. -/

namespace Freshen.Text

def lineFeed : UInt8 := 10
def carriageReturn : UInt8 := 13

def rawLines (bytes : List UInt8) : List (List UInt8) :=
  let ps := pieces lineFeed bytes
  let ended := ps.dropLast.map fun l => if l.getLast? = some carriageReturn then l.dropLast else l
  match ps.getLast? with
  | some [] | none => ended
  | some l => ended ++ [l]

def ofBytes? (line : List UInt8) : Option String := String.fromUTF8? ⟨line.toArray⟩

def leadingLines (bytes : List UInt8) : List String :=
  (((rawLines bytes).map ofBytes?).takeWhile Option.isSome).filterMap id

end Freshen.Text
