import Freshen.Shell.Printf
/-! What checksums have in common: a text is filled up to whole blocks, its length last, and each
block is words. -/

namespace Freshen.Shell.Checksum

def lowFirst : Nat → Nat → Bytes
  | 0, _ => []
  | k + 1, n => (n % 256).toUInt8 :: lowFirst k (n / 256)

def highFirst (k n : Nat) : Bytes := (lowFirst k n).reverse

def ofLowFirst (bs : Bytes) : Nat := bs.foldr (fun b n => 256 * n + b.toNat) 0

def ofHighFirst (bs : Bytes) : Nat := bs.foldl (fun n b => 256 * n + b.toNat) 0

def padded (size : Nat) (length : Nat → Bytes) (bs : Bytes) : Bytes :=
  let ending := length (8 * bs.length)
  let gap := (2 * size - (bs.length + 1 + ending.length) % size) % size
  bs ++ 128 :: (List.replicate gap 0 ++ ending)

def parts {α : Type} (size : Nat) : Nat → List α → List (List α)
  | 0, _ => []
  | n + 1, xs => if xs.isEmpty then [] else xs.take size :: parts size n (xs.drop size)

def blocks (size : Nat) (bs : Bytes) : List Bytes := parts size (bs.length / size + 1) bs

def shown (bs : Bytes) : String :=
  String.ofList (bs.flatMap fun b => [Nat.digitChar (b.toNat / 16), Nat.digitChar (b.toNat % 16)])

end Freshen.Shell.Checksum
