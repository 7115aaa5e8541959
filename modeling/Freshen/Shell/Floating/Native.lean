import Freshen.Shell.Floating
/-! Numbers in the form that a machine calculates with. -/

namespace Freshen.Shell.Floating

def ofFloat (x : Float) : Floating :=
  let bits := x.toBits.toNat
  let negative := bits / Nat.pow 2 63 = 1
  let exponent := bits / Nat.pow 2 52 % 2048
  let fraction := bits % Nat.pow 2 52
  if exponent = 2047 then if fraction = 0 then infinite negative else undefined true
  else if exponent = 0 then finite negative fraction (-1074)
  else finite negative (fraction + Nat.pow 2 52) ((exponent : Int) - 1075)

def toFloat : Floating → Float
  | finite negative m e =>
    let x := m.toUInt64.toFloat.scaleB e
    if negative then -x else x
  | infinite negative => if negative then -1.0 / 0.0 else 1.0 / 0.0
  | undefined _ => 0.0 / 0.0

def remainder (x y : Floating) : Floating :=
  match x, y with
  | finite n m e, finite _ m' e' =>
    if m' = 0 then undefined true
    else
      let least := min e e'
      let scaled (m : Nat) (e : Int) : Nat := m * Nat.pow 2 (e - least).toNat
      finite n (scaled m e % scaled m' e') least
  | finite .., infinite _ => x
  | _, _ => undefined true

def truncated : Floating → Option Int
  | finite n m e =>
    let k : Nat := if 0 ≤ e then m * Nat.pow 2 e.toNat else m / Nat.pow 2 (-e).toNat
    some (if n then -k else k)
  | _ => none

def leadingFloat (cs : List Char) : Float :=
  match leading? .double cs with
  | some (x, _) => x.toFloat
  | none => 0

end Freshen.Shell.Floating
