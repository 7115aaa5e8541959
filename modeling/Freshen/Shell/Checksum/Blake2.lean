import Freshen.Shell.Checksum.Sha2
/-! The BLAKE2b sum: twelve rounds on sixteen words of 64 bits, the lowest byte first. -/

namespace Freshen.Shell.Checksum.Blake2

def initial : Vector UInt64 8 :=
  .ofFn fun i => ((Sha2.full.initial.getD i.val 0).toUInt64)

def order : List (List Nat) :=
  [[0, 1, 2, 3, 4, 5, 6, 7, 8, 9, 10, 11, 12, 13, 14, 15],
    [14, 10, 4, 8, 9, 15, 13, 6, 1, 12, 0, 2, 11, 7, 5, 3],
    [11, 8, 12, 0, 5, 2, 15, 13, 10, 14, 3, 6, 7, 1, 9, 4],
    [7, 9, 3, 1, 13, 12, 11, 14, 2, 6, 5, 10, 4, 0, 15, 8],
    [9, 0, 5, 7, 2, 4, 10, 15, 14, 1, 11, 12, 6, 8, 3, 13],
    [2, 12, 6, 10, 0, 11, 8, 3, 4, 13, 7, 5, 15, 14, 1, 9],
    [12, 5, 1, 15, 14, 13, 4, 10, 0, 7, 6, 3, 9, 2, 8, 11],
    [13, 11, 7, 14, 12, 1, 3, 9, 5, 0, 15, 4, 8, 6, 2, 10],
    [6, 15, 14, 9, 11, 3, 0, 8, 12, 2, 13, 7, 1, 4, 10, 5],
    [10, 2, 8, 4, 7, 6, 1, 5, 15, 11, 9, 14, 3, 12, 13, 0]]

def rotateRight (x n : UInt64) : UInt64 := (x >>> n) ||| (x <<< (64 - n))

def word {n : Nat} (s : Vector UInt64 n) (i : Nat) : UInt64 := s.toArray.getD i 0

def mix (s : Vector UInt64 16) (a b c d : Nat) (x y : UInt64) : Vector UInt64 16 :=
  let s := s.setIfInBounds a (word s a + word s b + x)
  let s := s.setIfInBounds d (rotateRight (word s d ^^^ word s a) 32)
  let s := s.setIfInBounds c (word s c + word s d)
  let s := s.setIfInBounds b (rotateRight (word s b ^^^ word s c) 24)
  let s := s.setIfInBounds a (word s a + word s b + y)
  let s := s.setIfInBounds d (rotateRight (word s d ^^^ word s a) 16)
  let s := s.setIfInBounds c (word s c + word s d)
  s.setIfInBounds b (rotateRight (word s b ^^^ word s c) 63)

def round (words : Array UInt64) (s : Vector UInt64 16) (i : Nat) : Vector UInt64 16 :=
  let places := order.getD (i % 10) []
  let chosen (k : Nat) : UInt64 := words.getD (places.getD k 0) 0
  let s := mix s 0 4 8 12 (chosen 0) (chosen 1)
  let s := mix s 1 5 9 13 (chosen 2) (chosen 3)
  let s := mix s 2 6 10 14 (chosen 4) (chosen 5)
  let s := mix s 3 7 11 15 (chosen 6) (chosen 7)
  let s := mix s 0 5 10 15 (chosen 8) (chosen 9)
  let s := mix s 1 6 11 12 (chosen 10) (chosen 11)
  let s := mix s 2 7 8 13 (chosen 12) (chosen 13)
  mix s 3 4 9 14 (chosen 14) (chosen 15)

def compress (chain : Vector UInt64 8) (block : Bytes) (count : Nat) (isLast : Bool) :
    Vector UInt64 8 :=
  let words := ((parts 8 16 (block ++ List.replicate (128 - block.length) 0)).map fun w =>
    (ofLowFirst w).toUInt64).toArray
  let s : Vector UInt64 16 := chain ++ initial
  let s := s.setIfInBounds 12 (word s 12 ^^^ count.toUInt64)
  let s := if isLast then s.setIfInBounds 14 (~~~ word s 14) else s
  let s := (List.range 12).foldl (round words) s
  Vector.ofFn fun i => word chain i ^^^ word s i ^^^ word s (i + 8)

def sum (length : Nat) (bs : Bytes) : Bytes :=
  let start := initial.setIfInBounds 0 (word initial 0 ^^^ 0x01010000 ^^^ length.toUInt64)
  let bodies := match blocks 128 bs with
    | [] => [[]]
    | bodies => bodies
  let (chain, _) := bodies.foldl (fun (chain, count) block =>
    let count := count + block.length
    (compress chain block count (count = bs.length), count)) (start, 0)
  (chain.toList.flatMap fun x => lowFirst 8 x.toNat).take length

end Freshen.Shell.Checksum.Blake2
