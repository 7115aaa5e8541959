import Freshen.Shell.Checksum.Block
/-! Bytes as digits that can be printed: whole groups of bytes become whole groups of digits, and
what is missing at the end is marked. -/

namespace Freshen.Shell

open Checksum (ofHighFirst parts)

structure Radix where
  digits : List UInt8
  bits : Nat
  steps : List Nat
  readsParts : Bool

namespace Radix

def capitals : List UInt8 := (List.range 26).map fun i => (65 + i).toUInt8

def small : List UInt8 := capitals.map (· + 32)

def numerals : List UInt8 := (List.range 10).map fun i => (48 + i).toUInt8

def sixBits : Radix where
  digits := capitals ++ small ++ numerals ++ [43, 47]
  bits := 6
  steps := [2, 1, 1]
  readsParts := true

def fiveBits : Radix where
  digits := capitals ++ (numerals.drop 2).take 6
  bits := 5
  steps := [2, 2, 1, 2, 1]
  readsParts := false

def filler : UInt8 := 61

def groupLength (r : Radix) : Nat := r.steps.foldl (· + ·) 0

def isDigit (r : Radix) (b : UInt8) : Bool := r.digits.contains b

def value (r : Radix) (b : UInt8) : Nat := r.digits.idxOf b

def encodeGroup (r : Radix) (bs : Bytes) : Bytes :=
  let count := (8 * bs.length + r.bits - 1) / r.bits
  let whole := ofHighFirst (bs ++ List.replicate (r.steps.length - bs.length) 0)
  let base := Nat.pow 2 r.bits
  let digit (i : Nat) : UInt8 :=
    r.digits.getD (whole / Nat.pow base (r.groupLength - 1 - i) % base) filler
  (List.range count).map digit ++ List.replicate (r.groupLength - count) filler

def encode (r : Radix) (bs : Bytes) : Bytes :=
  (parts r.steps.length (bs.length / r.steps.length + 1) bs).flatMap r.encodeGroup

/-- The bytes of a group as far as it can be read, and whether that is all of it. `n` is the number
that the digits so far stand for, and `count` is how many there are. -/
def decodeSteps (r : Radix) (n count : Nat) (made : Nat) : List Nat → Bytes → Bytes × Bool
  | [], ds => ([], ds.isEmpty)
  | k :: ks, ds =>
    if 0 < made && ds.head? = some filler then
      ([], ds.all (· = filler) && ds.length = (k :: ks).foldl (· + ·) 0)
    else
      let taken := ds.take k
      if taken.length < k || !taken.all r.isDigit then ([], false)
      else
        let n := taken.foldl (fun n d => n * Nat.pow 2 r.bits + r.value d) n
        let count := count + k
        let byte := n / Nat.pow 2 (count * r.bits - 8 * (made + 1)) % 256
        let (more, isWhole) := decodeSteps r n count (made + 1) ks (ds.drop k)
        (byte.toUInt8 :: more, isWhole)

def decodeGroup (r : Radix) (ds : Bytes) : Bytes × Bool :=
  if ds.length < r.groupLength && !r.readsParts then ([], false)
  else r.decodeSteps 0 0 0 r.steps ds

def decodeGroups (r : Radix) : List Bytes → Bytes × Bool
  | [] => ([], true)
  | g :: gs =>
    match r.decodeGroup g with
    | (bs, false) => (bs, false)
    | (bs, true) =>
      let (more, isWhole) := decodeGroups r gs
      (bs ++ more, isWhole)

def decode (r : Radix) (ds : Bytes) : Bytes × Bool :=
  let ds := ds.filter (· ≠ 10)
  r.decodeGroups (parts r.groupLength (ds.length / r.groupLength + 1) ds)

end Radix

end Freshen.Shell
