import Freshen.Shell.Checksum.Block
/-! The SHA-1 sum: eighty steps on five words of 32 bits, the highest byte first. -/

namespace Freshen.Shell.Checksum.Sha1

structure State where
  a : UInt32
  b : UInt32
  c : UInt32
  d : UInt32
  e : UInt32

def initial : State := ⟨0x67452301, 0xEFCDAB89, 0x98BADCFE, 0x10325476, 0xC3D2E1F0⟩

def rotateLeft (x n : UInt32) : UInt32 := (x <<< n) ||| (x >>> (32 - n))

def mixture (s : State) (i : Nat) : UInt32 :=
  match i / 20 with
  | 0 => ((s.b &&& s.c) ||| (~~~s.b &&& s.d)) + 0x5A827999
  | 1 => (s.b ^^^ s.c ^^^ s.d) + 0x6ED9EBA1
  | 2 => ((s.b &&& s.c) ||| (s.b &&& s.d) ||| (s.c &&& s.d)) + 0x8F1BBCDC
  | _ => (s.b ^^^ s.c ^^^ s.d) + 0xCA62C1D6

def step (s : State) (i : Nat) (w : UInt32) : State :=
  ⟨rotateLeft s.a 5 + mixture s i + s.e + w, s.a, rotateLeft s.b 30, s.c, s.d⟩

def schedule (block : Bytes) : Array UInt32 :=
  let words := ((parts 4 16 block).map fun w => (ofHighFirst w).toUInt32).toArray
  (List.range 64).foldl (fun ws i =>
    let back (k : Nat) : UInt32 := ws.getD (16 + i - k) 0
    ws.push (rotateLeft (back 3 ^^^ back 8 ^^^ back 14 ^^^ back 16) 1)) words

def compress (s : State) (block : Bytes) : State :=
  let ws := schedule block
  let t := (List.range 80).foldl (fun t i => step t i (ws.getD i 0)) s
  ⟨s.a + t.a, s.b + t.b, s.c + t.c, s.d + t.d, s.e + t.e⟩

def sum (bs : Bytes) : Bytes :=
  let s := (blocks 64 (padded 64 (highFirst 8) bs)).foldl compress initial
  [s.a, s.b, s.c, s.d, s.e].flatMap fun x => highFirst 4 x.toNat

end Freshen.Shell.Checksum.Sha1
