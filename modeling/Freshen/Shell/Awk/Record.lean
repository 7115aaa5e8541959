import Freshen.Shell.Awk.Value
import Freshen.Shell.Regular
import Freshen.Text.Pieces
/-! Records and their fields. A record is cut into fields when they are asked for, and put together
from them again after one of them was changed. -/

namespace Freshen.Shell.Awk

inductive Separator
  | blanks
  | byte (b : UInt8)
  | nothing
  | matching (r : Regular)
  deriving DecidableEq, Repr

namespace Separator

def words : Nat → Bytes → List Bytes
  | 0, _ => []
  | n + 1, bs =>
    let bs := bs.dropWhile Value.isBlank
    if bs.isEmpty then []
    else
      let w := bs.takeWhile (!Value.isBlank ·)
      w :: words n (bs.drop w.length)

def between (before : Bytes) : List (Bytes × Regular.Found) → Bytes → List Bytes
  | [], last => [before ++ last]
  | (skipped, f) :: fs, last =>
    if f.matched.isEmpty then between (before ++ skipped) fs last
    else (before ++ skipped) :: between [] fs last

def split (s : Separator) (bs : Bytes) : List Bytes :=
  if bs.isEmpty then []
  else match s with
  | blanks => words bs.length bs
  | byte b => Text.pieces b bs
  | nothing => bs.map ([·])
  | matching r =>
    let (fs, last) := r.cuts bs
    between [] fs last

end Separator

structure Record where
  text : Bytes := []
  fields : Option (Array Value) := none
  separator : Separator := .blanks
  isStale : Bool := false

namespace Record

def parts (r : Record) : Array Value :=
  r.fields.getD ((r.separator.split r.text).map Value.ofInput).toArray

def count (r : Record) : Nat := r.parts.size

def divided (r : Record) : Record := { r with fields := some r.parts }

def field (r : Record) (i : Nat) : Value := r.parts.getD i .unset

def resized (r : Record) (n : Nat) : Record :=
  let old := r.parts
  let more := Array.replicate (n - old.size) (Value.text [])
  { r with fields := some ((old.extract 0 n) ++ more), isStale := true }

def setField (r : Record) (i : Nat) (v : Value) : Record :=
  let r := if r.count ≤ i then r.resized (i + 1) else r
  { r with fields := some (r.parts.set! i v), isStale := true }

def whole (r : Record) (separator : Bytes) (write : Value → Bytes) : Record :=
  if r.isStale then
    { r with
      text := List.intercalate separator (r.parts.toList.map write)
      isStale := false }
  else r

end Record

inductive Ending
  | byte (b : UInt8)
  | gap
  | matching (r : Regular)
  deriving DecidableEq, Repr

namespace Ending

def upToGap : Nat → Bytes → Bytes → Option (Bytes × Bytes)
  | 0, _, _ | _ + 1, _, [] => none
  | _ + 1, acc, 10 :: 10 :: r => some (acc.reverse, (10 :: r).dropWhile (· = 10))
  | n + 1, acc, b :: r => upToGap n (b :: acc) r

def first? (e : Ending) (bs : Bytes) : Option (Bytes × Bytes) :=
  match e with
  | byte b =>
    let t := bs.takeWhile (· ≠ b)
    match bs.drop t.length with
    | _ :: r => some (t, r)
    | [] => none
  | gap => upToGap (bs.length + 1) [] (bs.dropWhile (· = 10))
  | matching r =>
    match (r.find? none bs).filter (!·.matched.isEmpty) with
    | some f => some (f.skipped, f.after.rest)
    | none => none

def last? (e : Ending) (bs : Bytes) : Option Bytes :=
  let bs := match e with
    | gap =>
      let bs := bs.dropWhile (· = 10)
      (bs.reverse.dropWhile (· = 10)).reverse
    | _ => bs
  if bs.isEmpty then none else some bs

def needsAll : Ending → Bool
  | byte _ => false
  | _ => true

end Ending
end Freshen.Shell.Awk
