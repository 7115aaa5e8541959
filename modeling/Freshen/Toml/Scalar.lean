import Freshen.Toml.Quote
import Freshen.Toml.Value
/-! TOML values that are written without quotes and brackets: numbers, points in time, booleans. -/

namespace Freshen.Toml

def digits? (p : Char → Bool) : List Char → Option (List Char)
  | [] => none
  | [c] => if p c then some [c] else none
  | c :: '_' :: r => if p c then (digits? p r).map (c :: ·) else none
  | c :: r => if p c then (digits? p r).map (c :: ·) else none

def number (base : Nat) (cs : List Char) : Nat :=
  cs.foldl (fun n c => n * base + (hexValue? c).getD 0) 0

def unsigned (cs : List Char) : Bool × List Char :=
  match cs with
  | '-' :: r => (true, r)
  | '+' :: r => (false, r)
  | r => (false, r)

def decimal? (cs : List Char) : Option (List Char) :=
  match digits? Char.isDigit cs with
  | some ('0' :: _ :: _) => none
  | ds => ds

def inRange (negative : Bool) (n : Nat) : Bool :=
  if negative then n ≤ Nat.pow 2 127 else n < Nat.pow 2 128

def isBinary (c : Char) : Bool := c == '0' || c == '1'
def isOctal (c : Char) : Bool := '0' ≤ c && c ≤ '7'
def isHex (c : Char) : Bool := (hexValue? c).isSome

def isInteger (cs : List Char) : Bool :=
  match cs with
  | '0' :: 'x' :: r => (digits? isHex r).any (inRange false <| number 16 ·)
  | '0' :: 'o' :: r => (digits? isOctal r).any (inRange false <| number 8 ·)
  | '0' :: 'b' :: r => (digits? isBinary r).any (inRange false <| number 2 ·)
  | _ =>
    let (negative, r) := unsigned cs
    (decimal? r).any (inRange negative <| number 10 ·)

def doubleLimit : Nat := Nat.pow 2 1024 - Nat.pow 2 970

def isDouble (m : Nat) (length : Nat) (e : Int) : Bool :=
  if m = 0 then true
  else if e + length > 400 then false
  else if e + length < -400 then true
  else if e ≥ 0 then m * Nat.pow 10 e.toNat < doubleLimit
  else m < doubleLimit * Nat.pow 10 (-e).toNat

def isMark (c : Char) : Bool := c == 'e' || c == 'E'

def exponent? (cs : List Char) : Option Int :=
  match cs with
  | [] => some 0
  | _ :: r =>
    let (negative, ds) := unsigned r
    (digits? Char.isDigit ds).map fun ds =>
      if negative then -(number 10 ds : Int) else number 10 ds

def isFloat (cs : List Char) : Bool :=
  let (_, r) := unsigned cs
  if r = "inf".toList || r = "nan".toList then true
  else
    let whole := r.takeWhile fun c => c != '.' && !isMark c
    let rest := r.drop whole.length
    let fraction := match rest with
      | '.' :: r => digits? Char.isDigit (r.takeWhile (!isMark ·))
      | _ => some []
    let power := rest.dropWhile (!isMark ·)
    match decimal? whole, fraction, exponent? power with
    | some ws, some fs, some e =>
      !rest.isEmpty && isDouble (number 10 (ws ++ fs)) (ws ++ fs).length (e - fs.length)
    | _, _, _ => false

def isLeapYear (y : Nat) : Bool := y % 4 == 0 && (y % 100 != 0 || y % 400 == 0)

def daysIn (y m : Nat) : Nat :=
  if m = 2 then (if isLeapYear y then 29 else 28)
  else if m = 4 || m = 6 || m = 9 || m = 11 then 30 else 31

def exactly? (n : Nat) (cs : List Char) : Option (Nat × List Char) :=
  let ds := cs.take n
  if ds.length = n && ds.all Char.isDigit then some (number 10 ds, cs.drop n) else none

abbrev Part := List Char → Option (List Char × List Char)

def date? : Part := fun cs =>
  match exactly? 4 cs with
  | some (y, '-' :: r) =>
    match exactly? 2 r with
    | some (m, '-' :: r) =>
      match exactly? 2 r with
      | some (d, r) =>
        if 1 ≤ m && m ≤ 12 && 1 ≤ d && d ≤ daysIn y m then some (cs.take 10, r) else none
      | none => none
    | _ => none
  | _ => none

def settledFraction (digits : List Char) : List Char :=
  match ((digits.take 9).reverse.dropWhile (· == '0')).reverse with
  | [] => []
  | ds => '.' :: ds

def fraction? : Part := fun cs =>
  match cs with
  | '.' :: r =>
    let digits := r.takeWhile Char.isDigit
    if digits.isEmpty then none else some (settledFraction digits, r.drop digits.length)
  | r => some ([], r)

def seconds? : Part := fun cs =>
  match cs with
  | ':' :: r =>
    match exactly? 2 r, fraction? (r.drop 2) with
    | some (s, _), some (f, r') => if s ≤ 60 then some (cs.take 3 ++ f, r') else none
    | _, _ => none
  | r => some (":00".toList, r)

def time? : Part := fun cs =>
  match exactly? 2 cs with
  | some (h, ':' :: r) =>
    match exactly? 2 r, seconds? (r.drop 2) with
    | some (m, _), some (s, r) =>
      if h ≤ 23 && m ≤ 59 then some (cs.take 5 ++ s, r) else none
    | _, _ => none
  | _ => none

def offset? (cs : List Char) : Option (List Char) :=
  match cs with
  | [] => some []
  | ['Z'] | ['z'] => some ['Z']
  | sign :: r =>
    if sign = '+' || sign = '-' then
      match exactly? 2 r with
      | some (h, ':' :: r') =>
        match exactly? 2 r' with
        | some (m, []) =>
          if h ≤ 23 && m ≤ 59 then
            some ((if h = 0 && m = 0 then '+' else sign) :: r)
          else none
        | _ => none
      | _ => none
    else none

def moment? (cs : List Char) : Option (List Char) :=
  match date? cs with
  | some (d, []) => some d
  | some (d, c :: r) =>
    if c == 'T' || c == 't' || c == ' ' then
      match time? r with
      | some (t, r) => (offset? r).map fun z => d ++ 'T' :: t ++ z
      | none => none
    else none
  | none =>
    match time? cs with
    | some (t, []) => some t
    | _ => none

def scalar? (cs : List Char) : Option Value :=
  if cs = "true".toList then some (.boolean true)
  else if cs = "false".toList then some (.boolean false)
  else if isInteger cs || isFloat cs then some .number
  else (moment? cs).map fun t => .moment (String.ofList t)

def endsScalar (c : Char) : Bool :=
  [' ', '\t', '\r', '\n', '#', ',', ']', '}', '=', '[', '{', '"', '\''].contains c

def takeScalar (cs : List Char) : List Char × List Char :=
  let word := cs.takeWhile (!endsScalar ·)
  let rest := cs.drop word.length
  match date? word, rest with
  | some (_, []), ' ' :: c :: r =>
    if c.isDigit then
      let more := (c :: r).takeWhile (!endsScalar ·)
      (word ++ ' ' :: more, (c :: r).drop more.length)
    else (word, rest)
  | _, _ => (word, rest)

end Freshen.Toml
