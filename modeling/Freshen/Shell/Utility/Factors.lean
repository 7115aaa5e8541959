import Freshen.Shell.Utility.Basic
/-! Numbers as products of primes. -/

namespace Freshen.Shell.Utility

def takeOut (d : Nat) : Nat → Nat → Nat × Nat
  | 0, n => (0, n)
  | k + 1, n =>
    if d < 2 || n % d ≠ 0 || n = 0 then (0, n)
    else
      let (count, rest) := takeOut d k (n / d)
      (count + 1, rest)

def factorsFrom (d : Nat) : Nat → Nat → List (Nat × Nat)
  | 0, n => if n < 2 then [] else [(n, 1)]
  | k + 1, n =>
    if n < 2 then []
    else if n < d * d then [(n, 1)]
    else
      let next := if d = 2 then 3 else d + 2
      if n % d = 0 then
        let (count, rest) := takeOut d (n.log2 + 1) n
        (d, count) :: factorsFrom next k rest
      else factorsFrom next k n

def candidateLimit : Nat := 33554432

def factors (n : Nat) : List (Nat × Nat) := factorsFrom 2 candidateLimit n

def factorLine (asPowers : Bool) (n : Nat) : String :=
  let words := (factors n).flatMap fun (p, k) =>
    if asPowers then [if k = 1 then toString p else s!"{p}^{k}"] else List.replicate k (toString p)
  " ".intercalate (s!"{n}:" :: words) ++ "\n"

def naturalNumber? (text : String) : Option Nat :=
  let cs := text.toList.dropWhile (· = ' ')
  let ds := if cs.head? = some '+' then cs.drop 1 else cs
  if ds.isEmpty || !ds.all Char.isDigit then none else (String.ofList ds).toNat?

def isBlankByte (b : UInt8) : Bool := b = 32 || b = 9 || b = 10

def inputWords (c : Call) : List String :=
  let word (bs : Bytes) : String := Text.Utf8.lenient ⟨bs.toArray⟩
  ((Text.pieces 10 (c.input.map fun b => if isBlankByte b then 10 else b)).filter
    (!·.isEmpty)).map word

def factor (c : Call) : Result :=
  withArguments ['h'] [] c fun a =>
    let words := if a.operands.isEmpty then inputWords c else a.operands
    words.foldl (fun r w =>
      match naturalNumber? w with
      | some n => { r with out := r.out ++ bytesOf (factorLine (a.has 'h') n) }
      | none => complain c r 1 s!"{quoted w} is not a valid positive integer")
      { disk := c.disk, tookInput := a.operands.isEmpty }

end Freshen.Shell.Utility
