import Freshen.Shell.Checksum.Block
/-! The MD5 sum: four rounds of sixteen steps on four words of 32 bits, the lowest byte first. -/

namespace Freshen.Shell.Checksum.Md5

structure State where
  a : UInt32
  b : UInt32
  c : UInt32
  d : UInt32

def initial : State := ⟨0x67452301, 0xEFCDAB89, 0x98BADCFE, 0x10325476⟩

def rotateLeft (x n : UInt32) : UInt32 := (x <<< n) ||| (x >>> (32 - n))

def constant (i : Nat) : UInt32 := ((Float.ofNat (i + 1)).sin.abs * 4294967296.0).toUInt32

def shifts : List (List UInt32) :=
  [[7, 12, 17, 22], [5, 9, 14, 20], [4, 11, 16, 23], [6, 10, 15, 21]]

def mixture (s : State) (i : Nat) : UInt32 × Nat :=
  match i / 16 with
  | 0 => ((s.b &&& s.c) ||| (~~~s.b &&& s.d), i)
  | 1 => ((s.d &&& s.b) ||| (~~~s.d &&& s.c), (5 * i + 1) % 16)
  | 2 => (s.b ^^^ s.c ^^^ s.d, (3 * i + 5) % 16)
  | _ => (s.c ^^^ (s.b ||| ~~~s.d), 7 * i % 16)

def step (words : Array UInt32) (s : State) (i : Nat) : State :=
  let (f, k) := mixture s i
  let x := f + s.a + constant i + words.getD k 0
  let n := (shifts.getD (i / 16) []).getD (i % 4) 0
  ⟨s.d, s.b + rotateLeft x n, s.b, s.c⟩

def compress (s : State) (block : Bytes) : State :=
  let words := ((parts 4 16 block).map fun w => (ofLowFirst w).toUInt32).toArray
  let t := (List.range 64).foldl (step words) s
  ⟨s.a + t.a, s.b + t.b, s.c + t.c, s.d + t.d⟩

def sum (bs : Bytes) : Bytes :=
  let s := (blocks 64 (padded 64 (lowFirst 8) bs)).foldl compress initial
  [s.a, s.b, s.c, s.d].flatMap fun x => lowFirst 4 x.toNat

end Freshen.Shell.Checksum.Md5
