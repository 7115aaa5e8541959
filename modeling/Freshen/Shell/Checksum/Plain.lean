import Freshen.Shell.Checksum.Block
/-! Sums that only find accidents: the remainder of a division, and two ways of adding bytes. -/

namespace Freshen.Shell.Checksum.Plain

def divided : Nat → UInt32 → UInt32
  | 0, r => r
  | n + 1, r =>
    divided n (if r &&& 0x80000000 ≠ 0 then (r <<< 1) ^^^ 0x04C11DB7 else r <<< 1)

def addByte (r : UInt32) (b : UInt8) : UInt32 := divided 8 (r ^^^ (b.toUInt32 <<< 24))

def lengthBytes (n : Nat) : Bytes :=
  ((lowFirst 8 n).reverse.dropWhile (· = 0)).reverse

def remainder (bs : Bytes) : Nat :=
  (~~~ (lengthBytes bs.length).foldl addByte (bs.foldl addByte 0)).toNat

def turning (bs : Bytes) : Nat :=
  bs.foldl (fun s b => (s / 2 + s % 2 * 32768 + b.toNat) % 65536) 0

def adding (bs : Bytes) : Nat :=
  let s := bs.foldl (fun s b => (s + b.toNat) % 4294967296) 0
  let r := s % 65536 + s / 65536
  r % 65536 + r / 65536

end Freshen.Shell.Checksum.Plain
