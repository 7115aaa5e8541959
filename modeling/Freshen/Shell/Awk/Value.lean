import Freshen.Shell.Floating.Native
import Freshen.Shell.Printf
import Freshen.Text.Utf8
/-! Values are texts or numbers, and either is taken for the other where it is needed. How a number
is written follows a format. -/

namespace Freshen.Shell.Awk

inductive Value
  | unset
  | number (x : Float)
  | text (bs : Bytes)
  | numeral (bs : Bytes) (x : Float)
  deriving Inhabited

def charsOf (bs : Bytes) : List Char := bs.map fun b => Char.ofNat b.toNat

def stringOf (bs : Bytes) : String := Text.Utf8.lenient ⟨bs.toArray⟩

namespace Value

def isBlank (b : UInt8) : Bool := b = 32 || (9 ≤ b && b ≤ 13)

def trimmed (bs : Bytes) : Bytes :=
  ((bs.dropWhile isBlank).reverse.dropWhile isBlank).reverse

def numeral? (bs : Bytes) : Option Float :=
  let cs := charsOf (trimmed bs)
  if cs.isEmpty || !cs.all fun c => c.isDigit || "+-.eE".toList.contains c then none
  else match Floating.leading? .double cs with
  | some (x, []) => some x.toFloat
  | _ => none

def ofInput (bs : Bytes) : Value :=
  match numeral? bs with
  | some x => numeral bs x
  | none => text bs

def toNumber : Value → Float
  | unset => 0
  | number x | numeral _ x => x
  | text bs => Floating.leadingFloat (charsOf bs)

def isTrue : Value → Bool
  | unset => false
  | number x | numeral _ x => x != 0
  | text bs => !bs.isEmpty

def ofBool (b : Bool) : Value := number (if b then 1 else 0)

def ofNat (n : Nat) : Value := number (Float.ofNat n)

def wholeText? (x : Float) : Option String :=
  if x == x.floor && -9223372036854775808.0 ≤ x && x < 18446744073709551616.0 then
    (Floating.ofFloat x).truncated.map toString
  else none

def word (isSigned : Bool) (x : Float) : Int :=
  let greatest : Int := if isSigned then 9223372036854775807 else 18446744073709551615
  match Floating.ofFloat x with
  | .infinite false => greatest
  | .infinite true => -9223372036854775807
  | .undefined _ => -9223372036854775808
  | x => max (-9223372036854775807) (min greatest (x.truncated.getD 0))

end Value

namespace Format

inductive Fault
  | tooFew
  | improper (number : Nat)
  deriving DecidableEq, Repr

structure Outcome where
  out : Bytes := []
  fault : Option Fault := none

abbrev Writer := Value → Bytes

def signed (p : Printf.Directive) (x : Float) : Bytes :=
  let n := if x ≥ 9223372036854775808.0 then Value.word false x else Value.word true x
  p.number (Printf.signOf p (n < 0)) (toString n.natAbs)

def unsigned (p : Printf.Directive) (c : Char) (x : Float) : Bytes :=
  let n := Printf.unsigned (Value.word false x)
  match c with
  | 'o' =>
    let ds := Printf.radix 8 n
    p.number "" (if p.has '#' && n ≠ 0 then "0" ++ ds else ds)
  | 'x' => p.number (if p.has '#' && n ≠ 0 then "0x" else "") (Printf.radix 16 n)
  | 'X' => p.number (if p.has '#' && n ≠ 0 then "0X" else "") (Printf.radix 16 n).toUpper
  | _ => p.number "" (toString n)

def real (p : Printf.Directive) (c : Char) (x : Float) : Bytes :=
  let x := Floating.ofFloat x
  p.filled (x matches .finite ..) (Printf.signOf p x.isNegative)
    (bytesOf (x.text c p.precision (p.has '#')))

def character (p : Printf.Directive) : Value → Bytes
  | .number x | .numeral _ x => p.pad [(Value.word true x % 256).toNat.toUInt8]
  | .text bs => p.pad [bs.headD 0]
  | .unset => p.pad [0]

def convert (write : Writer) (p : Printf.Directive) (c : Char) (v : Value) : Option Bytes :=
  match c with
  | 'd' | 'i' => some (signed p v.toNumber)
  | 'o' | 'x' | 'X' | 'u' => some (unsigned p c v.toNumber)
  | 'e' | 'E' | 'f' | 'F' | 'g' | 'G' => some (real p c v.toNumber)
  | 'c' => some (character p v)
  | 's' => some (p.text (write v))
  | _ => none

def count (cs : List Char) (vs : List Value) : Option (Option Int × List Char × List Value) :=
  match cs with
  | '*' :: r =>
    match vs with
    | v :: vs => some (some (Value.word true v.toNumber), r, vs)
    | [] => none
  | cs =>
    let ds := cs.takeWhile Char.isDigit
    some ((String.ofList ds).toNat?.map Int.ofNat, cs.drop ds.length, vs)

def directive (cs : List Char) (vs : List Value) :
    Option (Printf.Directive × List Char × List Value) := do
  let flags := cs.takeWhile fun c => "-+ 0#".toList.contains c
  let (width, cs, vs) ← count (cs.drop flags.length) vs
  let flags := if width.any (· < 0) then '-' :: flags else flags
  let width := width.map Int.natAbs
  let (precision, cs, vs) ← match cs with
    | '.' :: r => do
      let (n, cs, vs) ← count r vs
      some (some (n.getD 0), cs, vs)
    | cs => some (none, cs, vs)
  let precision := precision.bind fun n => if n < 0 then none else some n.toNat
  return (⟨flags, width, precision⟩, cs.dropWhile ['h', 'l', 'L'].contains, vs)

def apply (write : Writer) : Nat → Nat → List Char → List Value → Outcome
  | 0, _, _, _ | _ + 1, _, [], _ => {}
  | n + 1, k, c :: r, vs =>
    let after (bs : Bytes) (o : Outcome) : Outcome := { o with out := bs ++ o.out }
    match c, r, vs with
    | '%', '%' :: r, vs => after [37] (apply write n k r vs)
    | '%', _, [] => { fault := some .tooFew }
    | '%', r, vs =>
      match directive r vs with
      | some (p, c :: r, v :: vs) =>
        match convert write p c v with
        | some bs => after bs (apply write n (k + 1) r vs)
        | none => { fault := some (.improper (k + 1)) }
      | some (_, [], _ :: _) => { fault := some (.improper (k + 1)) }
      | _ => { fault := some .tooFew }
    | c, r, vs => after [c.toNat.toUInt8] (apply write n k r vs)

end Format

def formatted (write : Format.Writer) (format : Bytes) (vs : List Value) : Format.Outcome :=
  Format.apply write (format.length + 1) 0 (charsOf format) vs

namespace Value

def numberText (format : Bytes) (x : Float) : Bytes :=
  match wholeText? x with
  | some s => bytesOf s
  | none => (formatted (fun _ => []) format [number x]).out

def toText (format : Bytes) : Value → Bytes
  | unset => []
  | number x => numberText format x
  | text bs | numeral bs _ => bs

def order (format : Bytes) (a b : Value) : Ordering :=
  let numbers (x y : Float) : Ordering := if x > y then .gt else if x < y then .lt else .eq
  let texts : Ordering := compare (a.toText format) (b.toText format)
  match a, b with
  | text _, _ | _, text _ => texts
  | a, b => numbers a.toNumber b.toNumber

end Value

inductive Arithmetic
  | plus
  | minus
  | times
  | divided
  | modulo
  | power
  deriving DecidableEq, Repr

inductive Comparison
  | less
  | lessOrEqual
  | equal
  | different
  | more
  | moreOrEqual
  deriving DecidableEq, Repr

def Comparison.holds (o : Comparison) (r : Ordering) : Bool :=
  match o with
  | .less => r = .lt
  | .lessOrEqual => r ≠ .gt
  | .equal => r = .eq
  | .different => r ≠ .eq
  | .more => r = .gt
  | .moreOrEqual => r ≠ .lt

def Arithmetic.apply (o : Arithmetic) (x y : Float) : Float :=
  match o with
  | .plus => x + y
  | .minus => x - y
  | .times => x * y
  | .divided => x / y
  | .modulo => ((Floating.ofFloat x).remainder (Floating.ofFloat y)).toFloat
  | .power => x.pow y

end Freshen.Shell.Awk
