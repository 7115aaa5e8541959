import Freshen.Shell.Arithmetic
import Freshen.Shell.Floating
/-! Formatted printing and the escapes in what `echo` prints. Output is bytes: an octal escape is
one byte, whether text or not. -/

namespace Freshen.Shell

abbrev Bytes := List UInt8

def bytesOf (s : String) : Bytes := s.toUTF8.data.toList

namespace Printf

inductive Manner
  | dash
  | bash
  | alone
  deriving DecidableEq

def Manner.ofDialect : Dialect → Manner
  | .dash => dash
  | .bash => bash

def octal (ds : List Char) : UInt8 := (Lexeme.inBase 8 ds).toUInt8

def hexadecimal (ds : List Char) : UInt8 := (Lexeme.inBase 16 ds).toUInt8

def control? : Char → Option UInt8
  | 'a' => some 7
  | 'b' => some 8
  | 't' => some 9
  | 'n' => some 10
  | 'v' => some 11
  | 'f' => some 12
  | 'r' => some 13
  | '\\' => some 92
  | _ => none

inductive OctalStyle
  | bare
  | afterNought
  deriving DecidableEq

def escape (m : Manner) (style : OctalStyle) (cs : List Char) : Bytes × Nat :=
  match cs with
  | [] => ([92], 0)
  | c :: r =>
    match control? c with
    | some b => ([b], 1)
    | none =>
      if c = '0' && style = .afterNought then
        let ds := (r.takeWhile Lexeme.isOctal).take 3
        ([octal ds], 1 + ds.length)
      else if Lexeme.isOctal c && (style = .bare || m = .dash) then
        let ds := (cs.takeWhile Lexeme.isOctal).take 3
        ([octal ds], ds.length)
      else if m ≠ .dash && c = 'x' && r.head?.any Lexeme.isHexadecimal then
        let ds := (r.takeWhile Lexeme.isHexadecimal).take 2
        ([hexadecimal ds], 1 + ds.length)
      else if m ≠ .dash && (c = 'u' || c = 'U') && r.head?.any Lexeme.isHexadecimal then
        let ds := (r.takeWhile Lexeme.isHexadecimal).take (if c = 'u' then 4 else 8)
        (bytesOf (Char.ofNat (Lexeme.inBase 16 ds)).toString, 1 + ds.length)
      else if c = 'e' || (m = .bash && c = 'E') then ([27], 1)
      else if style = .bare && c = '"' then ([34], 1)
      else if m = .bash && (c = '\'' || c = '?') && style = .bare then ([c.toNat.toUInt8], 1)
      else ([92], 0)

def escaped (m : Manner) (style : OctalStyle) (cs : List Char) : Bytes × Bool :=
  match cs with
  | [] => ([], false)
  | '\\' :: 'c' :: _ => ([], true)
  | '\\' :: r =>
    let (b, n) := escape m style r
    let (bs, stop) := escaped m style (r.drop n)
    (b ++ bs, stop)
  | c :: r =>
    let (bs, stop) := escaped m style r
    (bytesOf c.toString ++ bs, stop)
  termination_by cs.length
  decreasing_by all_goals simp; try omega

structure Directive where
  flags : List Char
  width : Option Nat
  precision : Option Nat

namespace Directive

def has (p : Directive) (c : Char) : Bool := p.flags.contains c

def pad (p : Directive) (bs : Bytes) : Bytes :=
  let gap := List.replicate (p.width.getD 0 - bs.length) 32
  if p.has '-' then bs ++ gap else gap ++ bs

def text (p : Directive) (bs : Bytes) : Bytes :=
  p.pad (match p.precision with
    | some n => bs.take n
    | none => bs)

def filled (p : Directive) (fills : Bool) (sign : String) (digits : Bytes) : Bytes :=
  let sign := bytesOf sign
  let fill := if fills && p.has '0' && !p.has '-' then
      List.replicate (p.width.getD 0 - (sign.length + digits.length)) 48
    else []
  p.pad (sign ++ fill ++ digits)

def number (p : Directive) (sign : String) (digits : String) : Bytes :=
  let digits := if p.precision = some 0 && digits = "0" then [] else bytesOf digits
  p.filled p.precision.isNone sign
    (List.replicate (p.precision.getD 1 - digits.length) 48 ++ digits)

end Directive

structure Output where
  bytes : Bytes := []
  complaints : List String := []
  ended : Bool := false
  fault : Option Nat := none
  failed : Bool := false

def quoted (s : String) : String := "'" ++ s ++ "'"

inductive Defect
  | notNumeric
  | incomplete
  | outOfRange
  deriving DecidableEq

def Defect.message (m : Manner) (s : String) (d : Defect) : String :=
  match m, d with
  | .dash, .notNumeric => s ++ ": expected numeric value"
  | .dash, .incomplete => s ++ ": not completely converted"
  | .dash, .outOfRange => s ++ ": Numerical result out of range"
  | .alone, .notNumeric => quoted s ++ ": expected a numeric value"
  | .alone, .incomplete => quoted s ++ ": value not completely converted"
  | .alone, .outOfRange => quoted s ++ ": Numerical result out of range"
  | .bash, .outOfRange => "warning: " ++ s ++ ": Numerical result out of range"
  | .bash, _ =>
    let kind := match s.toList with
      | '0' :: x :: _ => if x = 'x' || x = 'X' then "hex " else if x.isDigit then "octal " else ""
      | _ => ""
    s!"{s}: invalid {kind}number"

def found (m : Manner) (s : String) (d : Option Defect) : Output :=
  match d with
  | none => {}
  | some d =>
    { complaints := [d.message m s], failed := m ≠ .bash || d ≠ .outOfRange }

def quotedByte? (m : Manner) (s : String) : Option (Int × Option Defect) :=
  match s.toList with
  | '\'' :: r | '"' :: r =>
    if r.isEmpty then some (0, if m = .alone then some .notNumeric else none)
    else some (((bytesOf (String.ofList r)).headD 0).toNat, none)
  | _ => none

def bounded (isSigned : Bool) (n : Int) : Int × Option Defect :=
  let top : Int := 18446744073709551615
  let bounded := if isSigned then Arithmetic.saturated n
    else if n > top || n < -top then top else n
  (bounded, if bounded = n then none else some .outOfRange)

def whole (m : Manner) (isSigned : Bool) (s : String) : Int × Option Defect :=
  match quotedByte? m s with
  | some r => r
  | none =>
    if s = "" then (0, none)
    else
      let cs := s.toList.dropWhile Arithmetic.isSpace
      let (sign, cs) : Int × List Char := match cs with
        | '-' :: cs => (-1, cs)
        | '+' :: cs => (1, cs)
        | cs => (1, cs)
      let (v, k) := Arithmetic.leadingDigits cs
      if k = 0 then (0, some .notNumeric)
      else
        let (v, d) := bounded isSigned (sign * v)
        (v, if cs.length = k then d else some .incomplete)

def real (m : Manner) (s : String) : Floating × Option Defect :=
  let p := if m = .dash then Precision.double else Precision.extended
  match quotedByte? m s with
  | some (v, d) => (Floating.ofDecimal p false v.toNat 0, d)
  | none =>
    if s = "" then (.finite false 0 0, none)
    else match Floating.leading? p s.toList with
    | none => (.finite false 0 0, some .notNumeric)
    | some (v, rest) =>
      let overflows := (v matches .infinite _) && s.toList.any Char.isDigit
      (v, if !rest.isEmpty then some .incomplete
        else if overflows then some .outOfRange else none)

def radix (base : Nat) (n : Nat) : String := String.ofList (Nat.toDigits base n)

def signOf (p : Directive) (negative : Bool) : String :=
  if negative then "-" else if p.has '+' then "+" else if p.has ' ' then " " else ""

def unsigned (n : Int) : Nat := (BitVec.ofInt 64 n).toNat

def shellQuoted (s : String) : String :=
  let isPlain (c : Char) : Bool := c.isAlphanum || "_-./:=@%+,^".toList.contains c || c.toNat > 127
  if s = "" then "''"
  else if s.toList.any fun c => c.toNat < 32 || c.toNat = 127 then
    let body := s.toList.map fun c =>
      match c with
      | '\n' => "\\n"
      | '\t' => "\\t"
      | '\r' => "\\r"
      | '\'' => "\\'"
      | '\\' => "\\\\"
      | '\x1b' => "\\E"
      | c => if c.toNat < 32 then "\\" ++ Floating.padded 3 ((radix 8 c.toNat).toNat?.getD 0)
        else c.toString
    "$'" ++ String.join body ++ "'"
  else String.join (s.toList.map fun c => if isPlain c then c.toString else "\\" ++ c.toString)

def badDirective (m : Manner) (text : String) (c : Char) : Output :=
  match m with
  | .dash => { complaints := [s!"{text}: invalid directive"], ended := true, fault := some 2 }
  | .bash =>
    { complaints := [s!"\x60{c}': invalid format character"], ended := true, fault := some 1 }
  | .alone =>
    { complaints := [s!"{text}: invalid conversion specification"], ended := true,
      fault := some 1 }

def convert (m : Manner) (text : String) (p : Directive) (c : Char) (arg : String) : Output :=
  let integer (isSigned : Bool) (f : Int → Bytes) : Output :=
    let (n, d) := whole m isSigned arg
    { found m arg d with bytes := f n }
  match c with
  | 's' => { bytes := p.text (bytesOf arg) }
  | 'b' =>
    let (bs, ended) := escaped m .afterNought arg.toList
    { bytes := p.text bs, ended }
  | 'c' => { bytes := p.pad [(bytesOf arg).headD 0] }
  | 'd' | 'i' =>
    integer true fun n => p.number (signOf p (n < 0)) (toString n.natAbs)
  | 'u' => integer false fun n => p.number "" (toString (unsigned n))
  | 'o' => integer false fun n =>
    let ds := radix 8 (unsigned n)
    p.number "" (if p.has '#' && ds ≠ "0" then "0" ++ ds else ds)
  | 'x' => integer false fun n =>
    p.number (if p.has '#' && n ≠ 0 then "0x" else "") (radix 16 (unsigned n))
  | 'X' => integer false fun n =>
    p.number (if p.has '#' && n ≠ 0 then "0X" else "") (radix 16 (unsigned n)).toUpper
  | 'e' | 'E' | 'f' | 'F' | 'g' | 'G' =>
    let (x, d) := real m arg
    let digits := x.text c p.precision (p.has '#')
    { found m arg d with
      bytes := p.filled (x matches .finite ..) (signOf p x.isNegative) (bytesOf digits) }
  | 'q' => if m = .dash then badDirective m text c
    else { bytes := p.text (bytesOf (shellQuoted arg)) }
  | c => badDirective m text c

def natural? (ds : List Char) : Option Nat := (String.ofList ds).toNat?

def directive (m : Manner) (cs : List Char) (args : List String) :
    Directive × List Char × List String × Output :=
  let flags := cs.takeWhile fun c => ['-', '+', ' ', '0', '#'].contains c
  let cs := cs.drop flags.length
  let count (cs : List Char) (args : List String) :
      Option Int × List Char × List String × Output :=
    match cs with
    | '*' :: r =>
      let arg := args.headD ""
      let (n, d) := whole m true arg
      (some n, r, args.drop 1, found m arg d)
    | cs =>
      let ds := cs.takeWhile Char.isDigit
      ((natural? ds).map Int.ofNat, cs.drop ds.length, args, {})
  let (width, cs, args, o) := count cs args
  let flags := if width.any (· < 0) then '-' :: flags else flags
  let width := width.map Int.natAbs
  match cs with
  | '.' :: r =>
    let (precision, cs, args, o') := count r args
    let precision := precision.getD 0
    (⟨flags, width, if precision < 0 then none else some precision.toNat⟩, cs, args,
      { o with complaints := o.complaints ++ o'.complaints, failed := o.failed || o'.failed })
  | cs => (⟨flags, width, none⟩, cs, args, o)

def Output.before (o : Output) (o' : Output) : Output :=
  { o' with
    bytes := o.bytes ++ o'.bytes
    complaints := o.complaints ++ o'.complaints
    failed := o.failed || o'.failed }

def pass (m : Manner) : Nat → List Char → List String → Output × List String
  | 0, _, args => ({}, args)
  | _ + 1, [], args => ({}, args)
  | n + 1, c :: r, args =>
    let after (o : Output) (r : List Char) (args : List String) :=
      if o.ended then (o, args)
      else
        let (o', args) := pass m n r args
        (o.before o', args)
    match c, r with
    | '\\', 'c' :: r =>
      if m = .alone then ({ ended := true }, args) else after { bytes := [92, 99] } r args
    | '\\', r =>
      let (b, k) := escape m .bare r
      after { bytes := b } (r.drop k) args
    | '%', '%' :: r => after { bytes := [37] } r args
    | '%', r =>
      let (p, r', args, o) := directive m r args
      let r' := if m = .dash then r' else r'.dropWhile ['l', 'h', 'j', 'z', 't', 'L'].contains
      match r' with
      | [] =>
        let text := match m with
          | .dash => "missing format character"
          | .bash => "\x60%': missing format character"
          | .alone => "%" ++ String.ofList r ++ ": invalid conversion specification"
        let fault := if m = .dash then 2 else 1
        (o.before { complaints := [text], ended := true, fault := some fault }, args)
      | c :: r'' =>
        let text := "%" ++ String.ofList (r.take (r.length - r''.length))
        if m ≠ .dash && c = 'n' then after o r'' (args.drop 1)
        else after (o.before (convert m text p c (args.headD ""))) r'' (args.drop 1)
    | c, r => after { bytes := bytesOf c.toString } r args

def passes (m : Manner) (format : List Char) : Nat → List String → Output
  | 0, _ => {}
  | n + 1, args =>
    let (o, left) := pass m (format.length + 1) format args
    if o.ended || left.isEmpty || left.length = args.length then o
    else o.before (passes m format n left)

def format (m : Manner) (format : String) (args : List String) : Output :=
  passes m format.toList (args.length + 1) args

end Printf

namespace Echo

def line (bs : Bytes) (newline : Bool) : Bytes := if newline then bs ++ [10] else bs

def joined (args : List String) : String := " ".intercalate args

def always (args : List String) : Bytes :=
  let (newline, args) := match args with
    | "-n" :: r => (false, r)
    | args => (true, args)
  let (bs, ended) := Printf.escaped .dash .afterNought (joined args).toList
  line bs (newline && !ended)

structure Options where
  newline : Bool := true
  escapes : Bool := false

def option? (o : Options) (arg : String) : Option Options :=
  match arg.toList with
  | '-' :: c :: cs =>
    if (c :: cs).all ['n', 'e', 'E'].contains then
      some ((c :: cs).foldl (fun o c =>
        if c = 'n' then { o with newline := false } else { o with escapes := c == 'e' }) o)
    else none
  | _ => none

def onRequest (o : Options) : List String → Bytes
  | [] => line [] o.newline
  | arg :: args =>
    match option? o arg with
    | some o => onRequest o args
    | none =>
      if o.escapes then
        let (bs, ended) := Printf.escaped .bash .afterNought (joined (arg :: args)).toList
        line bs (o.newline && !ended)
      else line (bytesOf (joined (arg :: args))) o.newline

end Echo
end Freshen.Shell
