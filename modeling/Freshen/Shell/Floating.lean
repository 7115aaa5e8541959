import Freshen.Shell.Lexeme
/-! Numbers with a fraction: reading them from text, rounding them to a number of bits, and writing
them with a number of decimal digits. Every step is exact but one rounding to the nearest. -/

namespace Freshen.Shell

inductive Floating
  | finite (negative : Bool) (mantissa : Nat) (exponent : Int)
  | infinite (negative : Bool)
  | undefined (negative : Bool)
  deriving DecidableEq, Repr, Inhabited

structure Precision where
  bits : Nat
  least : Int
  greatest : Int

def Precision.double : Precision := ⟨53, -1074, 971⟩
def Precision.extended : Precision := ⟨64, -16445, 16320⟩

namespace Floating

def roundDiv (num den : Nat) : Nat :=
  let q := num / den
  let twice := 2 * (num % den)
  if twice > den || (twice = den && q % 2 = 1) then q + 1 else q

def ratio (digits : Nat) (exponent : Int) : Nat × Nat :=
  if 0 ≤ exponent then (digits * Nat.pow 10 exponent.toNat, 1)
  else (digits, Nat.pow 10 (-exponent).toNat)

def scaledDiv (num den : Nat) (exponent : Int) : Nat :=
  if 0 ≤ exponent then roundDiv num (den * Nat.pow 2 exponent.toNat)
  else roundDiv (num * Nat.pow 2 (-exponent).toNat) den

def ofRatio (p : Precision) (negative : Bool) (num den : Nat) : Floating :=
  if num = 0 then finite negative 0 0
  else
    let guess : Int := (num.log2 : Int) - (den.log2 : Int) - (p.bits : Int)
    let first := max p.least guess
    -- The guess is low by one or right.
    let exponent := if scaledDiv num den first < Nat.pow 2 p.bits then first else first + 1
    let m := scaledDiv num den exponent
    let (m, exponent) := if m < Nat.pow 2 p.bits then (m, exponent) else (m / 2, exponent + 1)
    if exponent > p.greatest then infinite negative else finite negative m exponent

def ofDecimal (p : Precision) (negative : Bool) (digits : Nat) (exponent : Int) : Floating :=
  if digits = 0 then finite negative 0 0
  else
    -- Beyond these bounds there is nothing but nought and infinity.
    let size : Int := exponent + (Nat.log2 digits : Int) / 3
    if size > 6000 then infinite negative
    else if size < -6000 then finite negative 0 0
    else
      let (num, den) := ratio digits exponent
      ofRatio p negative num den

def matchesWord (w : String) (cs : List Char) : Bool :=
  (cs.take w.length).map Char.toLower = w.toList

def exponentAfter (marks : List Char) (cs : List Char) : Int × Nat :=
  match cs with
  | c :: r =>
    if !marks.contains c then (0, 0)
    else
      let (sign, r, k) : Int × List Char × Nat := match r with
        | '-' :: r => (-1, r, 2)
        | '+' :: r => (1, r, 2)
        | r => (1, r, 1)
      let ds := r.takeWhile Char.isDigit
      if ds.isEmpty then (0, 0) else (sign * Lexeme.inBase 10 ds, k + ds.length)
  | [] => (0, 0)

def unsigned? (p : Precision) (negative : Bool) (cs : List Char) : Option (Floating × Nat) :=
  let number (base : Nat) (isDigit : Char → Bool) (marks : List Char) (power : Int)
      (make : Nat → Int → Int → Floating) : Option (Floating × Nat) :=
    let whole := cs.takeWhile isDigit
    let after := cs.drop whole.length
    let fraction := match after with
      | '.' :: r => r.takeWhile isDigit
      | _ => []
    if whole.isEmpty && fraction.isEmpty then none
    else
      let point := if after.head? = some '.' then 1 else 0
      let used := whole.length + point + fraction.length
      let (e, k) := exponentAfter marks (cs.drop used)
      some (make (Lexeme.inBase base (whole ++ fraction)) (power * fraction.length) e, used + k)
  if matchesWord "infinity" cs then some (infinite negative, 8)
  else if matchesWord "inf" cs then some (infinite negative, 3)
  else if matchesWord "nan" cs then some (undefined negative, 3)
  else match cs with
  | '0' :: x :: r =>
    let hexadecimal := (x = 'x' || x = 'X') && (match r with
      | '.' :: d :: _ => Lexeme.isHexadecimal d
      | d :: _ => Lexeme.isHexadecimal d
      | [] => false)
    if hexadecimal then
      let whole := r.takeWhile Lexeme.isHexadecimal
      let after := r.drop whole.length
      let fraction := match after with
        | '.' :: r => r.takeWhile Lexeme.isHexadecimal
        | _ => []
      let point := if after.head? = some '.' then 1 else 0
      let used := whole.length + point + fraction.length
      let (e, k) := exponentAfter ['p', 'P'] (r.drop used)
      let m := Lexeme.inBase 16 (whole ++ fraction)
      let e := e - 4 * (fraction.length : Int)
      let value := if 0 ≤ e then ofRatio p negative (m * Nat.pow 2 (min e.toNat 20000)) 1
        else ofRatio p negative m (Nat.pow 2 (min (-e).toNat 20000))
      some (value, 2 + used + k)
    else number 10 Char.isDigit ['e', 'E'] 1 fun m f e => ofDecimal p negative m (e - f)
  | _ => number 10 Char.isDigit ['e', 'E'] 1 fun m f e => ofDecimal p negative m (e - f)

def isSpace (c : Char) : Bool := c == ' ' || ('\t' ≤ c && c ≤ '\r')

def leading? (p : Precision) (cs : List Char) : Option (Floating × List Char) :=
  let cs := cs.dropWhile isSpace
  let (negative, cs) : Bool × List Char := match cs with
    | '-' :: cs => (true, cs)
    | '+' :: cs => (false, cs)
    | cs => (false, cs)
  (unsigned? p negative cs).map fun (v, k) => (v, cs.drop k)

def isNegative : Floating → Bool
  | finite n _ _ | infinite n | undefined n => n

def magnitude : Floating → Nat × Nat
  | finite _ m e => if 0 ≤ e then (m * Nat.pow 2 e.toNat, 1) else (m, Nat.pow 2 (-e).toNat)
  | _ => (0, 1)

def zeros (n : Nat) : String := String.ofList (List.replicate n '0')

def padded (width : Nat) (n : Nat) : String :=
  let ds := toString n
  zeros (width - ds.length) ++ ds

def order (x y : Floating) : Ordering :=
  let rank : Floating → Int
    | undefined _ => -2
    | infinite true => -1
    | finite .. => 0
    | infinite false => 1
  let value (x : Floating) : Int × Nat :=
    let (num, den) := x.magnitude
    (if x.isNegative then -(num : Int) else num, den)
  (compare (rank x) (rank y)).then
    (compare ((value x).1 * (value y).2) ((value y).1 * (value x).2))

def fixed (places : Nat) (point : Bool) (x : Floating) : String :=
  let (num, den) := x.magnitude
  let n := roundDiv (num * Nat.pow 10 places) den
  let ds := padded (places + 1) n
  let whole := (ds.take (ds.length - places)).toString
  let fraction := (ds.drop (ds.length - places)).toString
  whole ++ if places = 0 then if point then "." else "" else "." ++ fraction

def normal (places : Nat) (x : Floating) : Nat × Int :=
  let (num, den) := x.magnitude
  if num = 0 then (0, 0)
  else
    let at_ (e : Int) : Nat :=
      let shift := (places : Int) - e
      if 0 ≤ shift then roundDiv (num * Nat.pow 10 shift.toNat) den
      else roundDiv num (den * Nat.pow 10 (-shift).toNat)
    -- Three tenths of the bits are no more than the digits.
    let guess : Int := ((num.log2 : Int) - (den.log2 : Int)) * 30103 / 100000 - 1
    let fits (e : Int) : Bool := at_ e < Nat.pow 10 (places + 1)
    let e := if fits guess then guess else if fits (guess + 1) then guess + 1 else guess + 2
    (at_ e, e)

def exponentText (letter : Char) (e : Int) : String :=
  letter.toString ++ (if e < 0 then "-" else "+") ++ padded 2 e.natAbs

def scientific (places : Nat) (point : Bool) (letter : Char) (x : Floating) : String :=
  let (n, e) := x.normal places
  let ds := padded (places + 1) n
  let fraction := (ds.drop 1).toString
  (ds.take 1).toString ++ (if places = 0 then if point then "." else "" else "." ++ fraction) ++
    exponentText letter e

def withoutZeros (s : String) : String :=
  if s.toList.contains '.' then
    let cs := s.toList.reverse.dropWhile (· = '0')
    String.ofList (match cs with
      | '.' :: r => r
      | r => r).reverse
  else s

def general (digits : Nat) (keeps : Bool) (letter : Char) (x : Floating) : String :=
  let digits := max digits 1
  let (n, e) := x.normal (digits - 1)
  if e < -4 || e ≥ digits then
    let ds := padded digits n
    let m := (ds.take 1).toString ++ if digits = 1 then if keeps then "." else ""
      else "." ++ (ds.drop 1).toString
    (if keeps then m else withoutZeros m) ++ exponentText letter e
  else
    let s := x.fixed ((digits : Int) - 1 - e).toNat keeps
    if keeps then s else withoutZeros s

def text (letter : Char) (precision : Option Nat) (alternative : Bool) (x : Floating) : String :=
  let isUpper := letter.isUpper
  match x with
  | infinite _ => if isUpper then "INF" else "inf"
  | undefined _ => if isUpper then "NAN" else "nan"
  | x =>
    let p := precision.getD 6
    match letter with
    | 'f' | 'F' => x.fixed p alternative
    | 'e' | 'E' => x.scientific p alternative letter
    | _ => x.general p alternative (if isUpper then 'E' else 'e')

end Floating
end Freshen.Shell
