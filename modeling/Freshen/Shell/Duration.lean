import Freshen.Shell.Lexeme
/-! Lengths of time as they are written: seconds with a fraction, and a unit. -/

namespace Freshen.Shell.Duration

def unit? : List Char → Option Nat
  | [] | ['s'] => some 1
  | ['m'] => some 60
  | ['h'] => some 3600
  | ['d'] => some 86400
  | _ => none

def longest : Nat := 1000000000000000000

def ofText? (text : String) : Option Int :=
  let cs := text.toList
  if text = "infinity" || text = "inf" then some longest
  else
    let whole := cs.takeWhile Char.isDigit
    let rest := cs.drop whole.length
    let (fraction, rest) := match rest with
      | '.' :: r => (r.takeWhile Char.isDigit, r.dropWhile Char.isDigit)
      | r => ([], r)
    if whole.isEmpty && fraction.isEmpty then none
    else (unit? rest).map fun u =>
      let digits := (fraction.take 9) ++ List.replicate (9 - fraction.length) '0'
      (min longest (u * (Lexeme.inBase 10 whole * 1000000000 + Lexeme.inBase 10 digits)) : Nat)

end Freshen.Shell.Duration
