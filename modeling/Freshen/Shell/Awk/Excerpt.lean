import Freshen.Shell.Regular
/-! Parts of texts: where they are, and what is put in their place. -/

namespace Freshen.Shell.Awk.Excerpt

def place (part : Bytes) : Nat → Bytes → Nat
  | i, [] => if part.isEmpty then i else 0
  | i, b :: bs => if part.isPrefixOf (b :: bs) then i else place part (i + 1) bs

def index (bs part : Bytes) : Nat := if bs.isEmpty then 0 else place part 1 bs

def substring (bs : Bytes) (start : Int) (length : Option Int) : Bytes :=
  let rest := if start ≤ 1 then bs else bs.drop (start.toNat - 1)
  match length with
  | none => rest
  | some n => rest.take (if start ≤ 0 then n - start else n).toNat

def filled (found : Bytes) : Bytes → Bytes
  | 92 :: 92 :: 38 :: r => 92 :: (found ++ filled found r)
  | 92 :: 38 :: r => 38 :: filled found r
  | 38 :: r => found ++ filled found r
  | b :: r => b :: filled found r
  | [] => []

def replaced (r : Regular) (all : Bool) (replacement bs : Bytes) : Nat × Bytes :=
  if all then
    let (fs, last) := r.cuts bs
    (fs.length, (fs.flatMap fun (skipped, f) => skipped ++ filled f.matched replacement) ++ last)
  else match r.find? none bs with
  | some f => (1, f.skipped ++ filled f.matched replacement ++ f.after.rest)
  | none => (0, bs)

def upper (bs : Bytes) : Bytes := bs.map fun b => if 97 ≤ b && b ≤ 122 then b - 32 else b

def lower (bs : Bytes) : Bytes := bs.map fun b => if 65 ≤ b && b ≤ 90 then b + 32 else b

end Freshen.Shell.Awk.Excerpt
