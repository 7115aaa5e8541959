import Freshen.Shell.Checksum.Block
/-! The SHA-2 sums: one compression of eight words, with words of 32 or of 64 bits. Their constants
are the fractions of the roots of the first primes. -/

namespace Freshen.Shell.Checksum.Sha2

def root (power bits n : Nat) : Nat :=
  (List.range bits).reverse.foldl (fun r i =>
    let s := r + Nat.pow 2 i
    if Nat.pow s power ≤ n then s else r) 0

def fraction (power bits p : Nat) : Nat :=
  root power (bits + 5) (p * Nat.pow 2 (power * bits)) % Nat.pow 2 bits

def isPrime (p : Nat) : Bool := 2 ≤ p && (List.range p).all fun d => d < 2 || p % d ≠ 0

def primes : List Nat := (List.range 410).filter isPrime

structure Variant where
  bits : Nat
  rounds : Nat
  first : Nat × Nat × Nat
  fifth : Nat × Nat × Nat
  fifteen : Nat × Nat × Nat
  two : Nat × Nat × Nat
  initial : List Nat
  length : Nat

def half : Variant :=
  { bits := 32, rounds := 64
    first := (2, 13, 22), fifth := (6, 11, 25), fifteen := (7, 18, 3), two := (17, 19, 10)
    initial := (primes.take 8).map (fraction 2 32)
    length := 32 }

def full : Variant :=
  { bits := 64, rounds := 80
    first := (28, 34, 39), fifth := (14, 18, 41), fifteen := (1, 8, 7), two := (19, 61, 6)
    initial := (primes.take 8).map (fraction 2 64)
    length := 64 }

def nextPrimes : List Nat := (primes.drop 8).take 8

def sha256 : Variant := half

def sha224 : Variant :=
  { half with initial := nextPrimes.map fun p => fraction 2 64 p % Nat.pow 2 32, length := 28 }

def sha512 : Variant := full

def sha384 : Variant := { full with initial := nextPrimes.map (fraction 2 64), length := 48 }

structure State (w : Nat) where
  a : BitVec w
  b : BitVec w
  c : BitVec w
  d : BitVec w
  e : BitVec w
  f : BitVec w
  g : BitVec w
  h : BitVec w

namespace State

def words {w : Nat} (s : State w) : List (BitVec w) := [s.a, s.b, s.c, s.d, s.e, s.f, s.g, s.h]

def ofWords {w : Nat} (xs : List (BitVec w)) : State w :=
  let at_ (i : Nat) : BitVec w := xs.getD i 0
  ⟨at_ 0, at_ 1, at_ 2, at_ 3, at_ 4, at_ 5, at_ 6, at_ 7⟩

end State

def rotated {w : Nat} (r : Nat × Nat × Nat) (x : BitVec w) : BitVec w :=
  x.rotateRight r.1 ^^^ x.rotateRight r.2.1 ^^^ x.rotateRight r.2.2

def shifted {w : Nat} (r : Nat × Nat × Nat) (x : BitVec w) : BitVec w :=
  x.rotateRight r.1 ^^^ x.rotateRight r.2.1 ^^^ (x >>> r.2.2)

def schedule (v : Variant) (block : Bytes) : Array (BitVec v.bits) :=
  let words := ((parts (v.bits / 8) 16 block).map fun w =>
    BitVec.ofNat v.bits (ofHighFirst w)).toArray
  (List.range (v.rounds - 16)).foldl (fun ws i =>
    let back (k : Nat) : BitVec v.bits := ws.getD (16 + i - k) 0
    ws.push (shifted v.two (back 2) + back 7 + shifted v.fifteen (back 15) + back 16)) words

def step (v : Variant) (s : State v.bits) (word constant : BitVec v.bits) : State v.bits :=
  let choice := (s.e &&& s.f) ^^^ (~~~s.e &&& s.g)
  let majority := (s.a &&& s.b) ^^^ (s.a &&& s.c) ^^^ (s.b &&& s.c)
  let x := s.h + rotated v.fifth s.e + choice + constant + word
  let y := rotated v.first s.a + majority
  ⟨x + y, s.a, s.b, s.c, s.d + x, s.e, s.f, s.g⟩

def compress (v : Variant) (constants : List (BitVec v.bits)) (s : State v.bits) (block : Bytes) :
    State v.bits :=
  let t := ((schedule v block).toList.zip constants).foldl (fun t (w, k) => step v t w k) s
  .ofWords (List.zipWith (· + ·) s.words t.words)

def sum (v : Variant) (bs : Bytes) : Bytes :=
  let size := v.bits * 2
  let constants := (primes.take v.rounds).map fun p => BitVec.ofNat v.bits (fraction 3 v.bits p)
  let initial : State v.bits := .ofWords (v.initial.map (BitVec.ofNat v.bits))
  let s := (blocks size (padded size (highFirst (v.bits / 4)) bs)).foldl
    (compress v constants) initial
  (s.words.flatMap fun x => highFirst (v.bits / 8) x.toNat).take v.length

end Freshen.Shell.Checksum.Sha2
