/-! White space in the sense of the Unicode property White_Space, and trimming. -/

namespace Freshen.Text

def blankRanges : List (Nat × Nat) :=
  [(0x09, 0x0D), (0x20, 0x20), (0x85, 0x85), (0xA0, 0xA0), (0x1680, 0x1680), (0x2000, 0x200A),
    (0x2028, 0x2029), (0x202F, 0x202F), (0x205F, 0x205F), (0x3000, 0x3000)]

def inRanges : List (Nat × Nat) → Char → Bool
  | [], _ => false
  | r :: rs, c => r.1 ≤ c.toNat && (c.toNat ≤ r.2 || inRanges rs c)

def isBlank (c : Char) : Bool := inRanges blankRanges c

def trimEnd (cs : List Char) : List Char := (cs.reverse.dropWhile isBlank).reverse

def trim (s : String) : String := String.ofList (trimEnd (s.toList.dropWhile isBlank))

def allBlank (s : String) : Bool := s.toList.all isBlank

end Freshen.Text
