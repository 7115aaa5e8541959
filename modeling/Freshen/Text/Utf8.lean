/-! Text as bytes: what is wrong with bytes that are no text, and reading them all the same. -/

namespace Freshen.Text.Utf8

def following (b : UInt8) : Option (List (UInt8 × UInt8)) :=
  let tail := ((0x80, 0xBF) : UInt8 × UInt8)
  if b < 0x80 then some []
  else if b < 0xC2 then none
  else if b < 0xE0 then some [tail]
  else if b = 0xE0 then some [(0xA0, 0xBF), tail]
  else if b = 0xED then some [(0x80, 0x9F), tail]
  else if b < 0xF0 then some [tail, tail]
  else if b = 0xF0 then some [(0x90, 0xBF), tail, tail]
  else if b < 0xF4 then some [tail, tail, tail]
  else if b = 0xF4 then some [(0x80, 0x8F), tail, tail]
  else none

def matching : List (UInt8 × UInt8) → List UInt8 → Nat
  | r :: rs, b :: bs => if r.1 ≤ b && b ≤ r.2 then matching rs bs + 1 else 0
  | _, _ => 0

/-- Where the bytes stop being text, and how many bytes are wrong there; `none` if they only end
too early. -/
structure Defect where
  start : Nat
  length : Option Nat
  deriving DecidableEq, Repr

def defectFrom (start : Nat) : List UInt8 → Option Defect
  | [] => none
  | b :: bs =>
    match following b with
    | none => some ⟨start, some 1⟩
    | some rs =>
      let n := matching rs bs
      if n = rs.length then defectFrom (start + n + 1) (bs.drop n)
      else some ⟨start, if n = bs.length then none else some (n + 1)⟩
  termination_by bs => bs.length
  decreasing_by simp only [List.length_drop, List.length_cons]; omega

def defect (bytes : ByteArray) : Option Defect := defectFrom 0 bytes.data.toList

def Defect.message (d : Defect) : String :=
  match d.length with
  | none => s!"incomplete utf-8 byte sequence from index {d.start}"
  | some n => s!"invalid utf-8 sequence of {n} bytes from index {d.start}"

def character (b : UInt8) (bs : List UInt8) : Char :=
  let lead := match bs.length with
    | 0 => b
    | 1 => b &&& 0x1F
    | 2 => b &&& 0x0F
    | _ => b &&& 0x07
  Char.ofNat (bs.foldl (fun n b => n * 64 + (b &&& 0x3F).toNat) lead.toNat)

def lenientFrom : List UInt8 → List Char
  | [] => []
  | b :: bs =>
    match following b with
    | none => '\uFFFD' :: lenientFrom bs
    | some rs =>
      let n := matching rs bs
      let c := if n = rs.length then character b (bs.take n) else '\uFFFD'
      c :: lenientFrom (bs.drop n)
  termination_by bs => bs.length
  decreasing_by all_goals simp only [List.length_drop, List.length_cons]; omega

def lenient (bytes : ByteArray) : String := String.ofList (lenientFrom bytes.data.toList)

end Freshen.Text.Utf8
