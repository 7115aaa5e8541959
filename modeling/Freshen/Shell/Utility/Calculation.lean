import Freshen.Shell.Duration
import Freshen.Shell.Regular.Written
import Freshen.Shell.Utility.Basic
/-! Calculating with arguments, and counting. -/

namespace Freshen.Shell.Utility

namespace Calculation

inductive Fault
  | missingAfter (argument : String)
  | unexpected (argument : String)
  | unopened
  | openAfter (argument : String)
  | openBefore (argument : String)
  | nonInteger
  | divisionByZero
  | regular (f : Regular.Fault)
  deriving DecidableEq, Repr

def Fault.message : Fault → String
  | missingAfter o => "syntax error: missing argument after " ++ quoted o
  | unexpected a => "syntax error: unexpected argument " ++ quoted a
  | unopened => "syntax error: unexpected ')'"
  | openAfter a => "syntax error: expecting ')' after " ++ quoted a
  | openBefore a => "syntax error: expecting ')' instead of " ++ quoted a
  | nonInteger => "non-integer argument"
  | divisionByZero => "division by zero"
  | regular f => f.message

inductive Term
  | word (w : String)
  | binary (operator : String) (a b : Term)
  | length (a : Term)
  | index (a members : Term)
  | part (a start length : Term)

def levels : List (List String) :=
  [["|"], ["&"], ["<", "<=", "=", "==", "!=", ">=", ">"], ["+", "-"], ["*", "/", "%"], [":"]]

mutual

def level (n : Nat) (ls : List (List String)) (before : String) (args : List String) :
    Except Fault (Term × List String) :=
  match n, ls with
  | 0, _ => .error (.missingAfter before)
  | n + 1, [] => operand n before args
  | n + 1, os :: ls => do
    let (a, rest) ← level n ls before args
    chain n os ls a rest

def chain (n : Nat) (os : List String) (ls : List (List String)) (a : Term)
    (args : List String) : Except Fault (Term × List String) :=
  match n, args with
  | 0, _ => .ok (a, args)
  | _, [] => .ok (a, [])
  | n + 1, o :: rest =>
    if !os.contains o then .ok (a, o :: rest)
    else do
      let (b, rest) ← level n ls o rest
      chain n os ls (.binary o a b) rest

def operand (n : Nat) (before : String) (args : List String) :
    Except Fault (Term × List String) :=
  match n, args with
  | 0, _ => .error (.missingAfter before)
  | _, [] => .error (.missingAfter before)
  | n + 1, "(" :: rest => do
    let (a, after) ← level n levels "(" rest
    match after with
    | ")" :: after => return (a, after)
    | x :: _ => throw (.openBefore x)
    | [] => throw (.openAfter ((args.getLast?).getD before))
  | _, ")" :: _ => .error .unopened
  | n + 1, "length" :: rest => do
    let (a, rest) ← operand n "length" rest
    return (.length a, rest)
  | n + 1, "match" :: rest => do
    let (a, rest) ← operand n "match" rest
    let (b, after) ← operand n (last args rest) rest
    return (.binary ":" a b, after)
  | n + 1, "index" :: rest => do
    let (a, rest) ← operand n "index" rest
    let (b, after) ← operand n (last args rest) rest
    return (.index a b, after)
  | n + 1, "substr" :: rest => do
    let (a, rest) ← operand n "substr" rest
    let (b, after) ← operand n (last args rest) rest
    let (c, after) ← operand n (last args after) after
    return (.part a b c, after)
  | _, "+" :: a :: rest => .ok (.word a, rest)
  | _, ["+"] => .error (.missingAfter "+")
  | _, a :: rest => .ok (.word a, rest)

def last (args rest : List String) : String :=
  ((args.take (args.length - rest.length)).getLast?).getD ""

end

def parse (args : List String) : Except Fault Term := do
  match ← level (10 * args.length + 16) levels "" args with
  | (t, []) => return t
  | (_, x :: _) => throw (.unexpected x)

def integer? (s : String) : Option Int :=
  let number (ds : List Char) : Option Nat :=
    if ds.isEmpty || !ds.all Char.isDigit then none else (String.ofList ds).toNat?
  match s.toList with
  | '-' :: ds => (number ds).map fun n => -(n : Int)
  | ds => (number ds).map Int.ofNat

def isFalse (s : String) : Bool := s = "" || integer? s = some 0

def truth (b : Bool) : String := if b then "1" else "0"

def compare_ (o : String) (a b : String) : Bool :=
  let c := match integer? a, integer? b with
    | some x, some y => compare x y
    | _, _ => compare (bytesOf a) (bytesOf b)
  match o with
  | "<" => c.isLT
  | "<=" => c.isLE
  | ">=" => c.isGE
  | ">" => c.isGT
  | "!=" => !c.isEq
  | _ => c.isEq

def textOf (bs : Bytes) : String := Text.Utf8.lenient ⟨bs.toArray⟩

def found (r : Regular) (s : String) : String :=
  let m := r.matchAt none (bytesOf s)
  if 0 < r.groups then
    textOf ((m.bind fun f => Keyed.get? f.after.groups 1).getD [])
  else toString ((m.map (·.matched.length)).getD 0)

def apply (o : String) (a b : String) : Except Fault String :=
  match o with
  | ":" =>
    match Regular.parse .basic b with
    | .ok r => .ok (found r a)
    | .error f => .error (.regular f)
  | "+" | "-" | "*" | "/" | "%" =>
    match integer? a, integer? b with
    | some x, some y =>
      match o with
      | "+" => .ok (toString (x + y))
      | "-" => .ok (toString (x - y))
      | "*" => .ok (toString (x * y))
      | _ =>
        if y = 0 then .error .divisionByZero
        else .ok (toString (if o = "/" then x.tdiv y else x.tmod y))
    | _, _ => .error .nonInteger
  | o => .ok (truth (compare_ o a b))

def excerpt (s start count : String) : String :=
  match integer? start, integer? count with
  | some i, some n =>
    if i < 1 || n < 1 then ""
    else textOf (((bytesOf s).drop (i.toNat - 1)).take n.toNat)
  | _, _ => ""

def Term.value : Term → Except Fault String
  | word w => .ok w
  | binary o a b => do
    let x ← a.value
    match o with
    | "|" =>
      if !isFalse x then return x
      else
        let y ← b.value
        return if isFalse y then "0" else y
    | "&" =>
      if isFalse x then return "0"
      else
        let y ← b.value
        return if isFalse y then "0" else x
    | o => apply o x (← b.value)
  | length a => do return toString (← a.value).utf8ByteSize
  | index a members => do
    let bs := bytesOf (← a.value)
    let wanted := bytesOf (← members.value)
    return toString (((bs.findIdx? wanted.contains).map (· + 1)).getD 0)
  | part a start count => do
    let s ← a.value
    let i ← start.value
    return excerpt s i (← count.value)

end Calculation

def expr (c : Call) : Result :=
  let args := if c.args.head? = some "--" then c.args.drop 1 else c.args
  if args.isEmpty then misuse c 2 "missing operand"
  else match (Calculation.parse args).bind (·.value) with
  | .ok v =>
    { printing c (bytesOf (v ++ "\n")) with status := if Calculation.isFalse v then 1 else 0 }
  | .error f => failing c 2 f.message

def seqBetween (first step last : Int) : List Int :=
  if step = 0 then []
  else
    let count := (Int.fdiv (last - first) step + 1).toNat
    (List.range count).map fun (i : Nat) => first + step * i

structure SeqOptions where
  separator : String := "\n"
  equalWidth : Bool := false
  numbers : List String := []

def SeqOptions.read (o : SeqOptions) : List String → Except Char SeqOptions
  | [] => .ok o
  | "-w" :: r => read { o with equalWidth := true } r
  | "-s" :: s :: r => read { o with separator := s } r
  | w :: r =>
    match w.toList with
    | '-' :: 's' :: s => read { o with separator := String.ofList s } r
    | '-' :: x :: _ =>
      if x.isDigit || x = '.' then .ok { o with numbers := w :: r } else .error x
    | _ => .ok { o with numbers := w :: r }

def zeroPadded (width : Nat) (n : Int) : String :=
  let digits := toString n.natAbs
  let sign := if n < 0 then "-" else ""
  sign ++ String.ofList (List.replicate (width - sign.length - digits.length) '0') ++ digits

def seqText (o : SeqOptions) (ns : List Int) : String :=
  let width := (ns.map fun n => (toString n).length).foldl max 0
  let texts := ns.map fun n => if o.equalWidth then zeroPadded width n else toString n
  if texts.isEmpty then "" else o.separator.intercalate texts ++ "\n"

def seq (c : Call) : Result :=
  match ({} : SeqOptions).read c.args with
  | .error x => misuse c 1 ("invalid option -- " ++ quoted x.toString)
  | .ok o =>
    let print (ns : List Int) := printing c (bytesOf (seqText o ns))
    match o.numbers.mapM (·.toInt?), o.numbers with
    | _, _ :: _ :: _ :: extra :: _ => extraOperand c extra
    | some [last], _ => print (seqBetween 1 1 last)
    | some [first, last], _ => print (seqBetween first 1 last)
    | some [first, step, last], _ =>
      if step = 0 then misuse c 1 ("invalid Zero increment value: " ++ quoted (o.numbers.getD 1 ""))
      else print (seqBetween first step last)
    | some _, _ => missingOperand c
    | none, numbers =>
      let bad := (numbers.find? (·.toInt?.isNone)).getD ""
      misuse c 1 ("invalid floating point argument: " ++ quoted bad)

def sleep (c : Call) : Result :=
  withArguments [] [] c fun a =>
    match a.operands, a.operands.filter fun s => (Duration.ofText? s).isNone with
    | [], _ => missingOperand c
    | words, [] =>
      { unchanged c with lasts := (words.filterMap Duration.ofText?).foldl (· + ·) 0 }
    | _, bad =>
      let r := bad.foldl (fun r s => complain c r 1 ("invalid time interval " ++ quoted s))
        (unchanged c)
      { r with complaints := r.complaints ++ [advice c] }

end Freshen.Shell.Utility
