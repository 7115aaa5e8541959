import Freshen.Keyed
import Freshen.Shell.Lexeme
/-! Sums of whole numbers of 64 bits. They are worked out while they are read: what a condition
rules out is read, but neither assigned nor complained of. -/

namespace Freshen.Shell.Arithmetic

inductive Token
  | number (n : Int)
  | name (s : String)
  | operator (s : String)
  | junk
  | finish
  deriving DecidableEq, Repr

inductive Fault
  | primaryExpected
  | finishExpected
  | colonExpected
  | parenthesisExpected
  | divisionByZero
  | illegalNumber (s : String)
  | noted (remark : String) (text token : String)
  deriving DecidableEq, Repr

def Fault.message (text : String) : Fault → String
  | primaryExpected => s!"arithmetic expression: expecting primary: \"{text}\""
  | finishExpected => s!"arithmetic expression: expecting EOF: \"{text}\""
  | colonExpected => s!"arithmetic expression: expecting ':': \"{text}\""
  | parenthesisExpected => s!"arithmetic expression: expecting ')': \"{text}\""
  | divisionByZero => s!"arithmetic expression: division by zero: \"{text}\""
  | illegalNumber s => s!"Illegal number: {s}"
  | noted remark text token => s!"{text}: {remark} (error token is \"{token}\")"

def isSpace (c : Char) : Bool := c == ' ' || ('\t' ≤ c && c ≤ '\r')

def wrap (n : Int) : Int := (BitVec.ofInt 64 n).toInt

def largest : Int := 9223372036854775807

def saturated (n : Int) : Int := max (-largest - 1) (min largest n)

/-- The value of the digits at the beginning, octal after a nought and hexadecimal after a nought
and an x, and how many characters they take. -/
def leadingDigits (cs : List Char) : Nat × Nat :=
  match cs with
  | '0' :: x :: d :: r =>
    if (x = 'x' || x = 'X') && Lexeme.isHexadecimal d then
      let ds := (d :: r).takeWhile Lexeme.isHexadecimal
      (Lexeme.inBase 16 ds, ds.length + 2)
    else
      let ds := cs.takeWhile Lexeme.isOctal
      (Lexeme.inBase 8 ds, ds.length)
  | '0' :: _ =>
    let ds := cs.takeWhile Lexeme.isOctal
    (Lexeme.inBase 8 ds, ds.length)
  | _ =>
    let ds := cs.takeWhile Char.isDigit
    (Lexeme.inBase 10 ds, ds.length)

def integer? (s : String) : Option Int :=
  let cs := s.toList.dropWhile isSpace
  let (sign, cs) : Int × List Char := match cs with
    | '-' :: cs => (-1, cs)
    | '+' :: cs => (1, cs)
    | cs => (1, cs)
  let (v, k) := leadingDigits cs
  if k = 0 || !(cs.drop k).all isSpace then none else some (sign * v)

def operators : List String :=
  ["<<=", ">>=", "<<", ">>", "<=", ">=", "==", "!=", "&&", "||", "+=", "-=", "*=", "/=", "%=",
    "&=", "|=", "^=", "**", "++", "--", "+", "-", "*", "/", "%", "<", ">", "&", "|", "^", "!", "~",
    "?", ":", "=", "(", ")", ","]

def isExtra (o : String) : Bool := ["**", "++", "--", ","].contains o

structure State where
  dialect : Dialect
  text : String
  token : Token := .finish
  start : List Char := []
  rest : List Char
  assigned : List (String × Int) := []

abbrev Reading (α : Type) := EStateM Fault State α

def note (remark : String) : Reading α := do
  let s ← get
  let shown := String.ofList (s.text.toList.dropWhile isSpace)
  throw (.noted remark shown (String.ofList s.start))

def fail (f : Fault) (remark : String) : Reading α := do
  if (← get).dialect = .bash then note remark else throw f

def operandExpected : Reading α := fail .primaryExpected "syntax error: operand expected"

def digitIn (base : Nat) (c : Char) : Nat :=
  if c.isDigit then c.toNat - 48
  else if c.isLower then c.toNat - 87
  else if c.isUpper then if base ≤ 36 then c.toNat - 55 else c.toNat - 29
  else if c = '@' then 62
  else 63

def number? (cs : List Char) : Option Int :=
  let inBase (base : Nat) (ds : List Char) : Option Int :=
    if ds.any (base ≤ digitIn base ·) then none
    else some (wrap (ds.foldl (fun n c => n * base + digitIn base c) 0 : Nat))
  match cs.takeWhile (· ≠ '#'), cs.dropWhile (· ≠ '#') with
  | b, '#' :: ds =>
    match (String.ofList b).toNat? with
    | some base => if 2 ≤ base && base ≤ 64 then inBase base ds else none
    | none => none
  | '0' :: 'x' :: ds, _ | '0' :: 'X' :: ds, _ => inBase 16 ds
  | '0' :: ds, _ => inBase 8 ds
  | ds, _ => inBase 10 ds

def indexText : Nat → Nat → List Char → List Char
  | 0, _, _ | _, _, [] => []
  | n + 1, depth, c :: r =>
    if c = ']' && depth = 0 then []
    else c :: indexText n (if c = '[' then depth + 1 else if c = ']' then depth - 1 else depth) r

def advance : Reading Unit := do
  let s ← get
  let cs := s.rest.dropWhile isSpace
  match cs with
  | [] => set { s with token := .finish, rest := [] }
  | c :: _ =>
    let accept (t : Token) (k : Nat) : Reading Unit :=
      set { s with token := t, start := cs, rest := cs.drop k }
    if c.isDigit then
      match s.dialect with
      | .dash =>
        let (v, k) := leadingDigits cs
        accept (.number (saturated v)) k
      | .bash =>
        let ds := cs.takeWhile fun c => c.isAlphanum || c = '#' || c = '@' || c = '_'
        match number? ds with
        | some v => accept (.number v) ds.length
        | none =>
          let whole := s.text.toList
          let upTo := whole.take (whole.length - (cs.length - ds.length))
          throw (.noted "value too great for base" (String.ofList (upTo.dropWhile isSpace))
            (String.ofList ds))
    else if isNameStart c then
      let x := cs.takeWhile isNamePart
      let indexed := s.dialect = .bash && (cs.drop x.length).head? = some '['
      let index := if indexed then indexText cs.length 0 (cs.drop (x.length + 1)) else []
      let name := if indexed then x ++ '[' :: index ++ [']'] else x
      accept (.name (String.ofList name)) name.length
    else
      let isHere (o : String) : Bool :=
        o.toList.isPrefixOf cs && (s.dialect = .bash || !isExtra o)
      match operators.find? isHere with
      | some o => accept (.operator o) o.length
      | none =>
        if s.dialect = .dash then accept .junk 1
        else
          let afterOperand := match s.token with
            | .number _ | .name _ | .operator ")" => true
            | _ => false
          set { s with start := cs }
          note (if afterOperand then "syntax error: invalid arithmetic operator"
            else "syntax error: operand expected")

def levels : List (List String) :=
  [["||"], ["&&"], ["|"], ["^"], ["&"], ["==", "!="], ["<", "<=", ">", ">="], ["<<", ">>"],
    ["+", "-"], ["*", "/", "%"]]

def truth (b : Bool) : Int := if b then 1 else 0

def bitwise (f : Nat → Nat → Nat) (a b : Int) : Int :=
  (BitVec.ofNat 64 (f (BitVec.ofInt 64 a).toNat (BitVec.ofInt 64 b).toNat)).toInt

def power (a : Int) (n : Nat) : Int := (BitVec.ofInt 64 a ^ n).toInt

def apply (o : String) (a b : Int) : Int :=
  match o with
  | "||" => truth (a != 0 || b != 0)
  | "&&" => truth (a != 0 && b != 0)
  | "|" => bitwise (· ||| ·) a b
  | "^" => bitwise (· ^^^ ·) a b
  | "&" => bitwise (· &&& ·) a b
  | "==" => truth (a == b)
  | "!=" => truth (a != b)
  | "<" => truth (a < b)
  | "<=" => truth (a ≤ b)
  | ">" => truth (a > b)
  | ">=" => truth (a ≥ b)
  | "<<" => wrap (a * Int.ofNat (Nat.pow 2 (b % 64).toNat))
  | ">>" => a / Int.ofNat (Nat.pow 2 (b % 64).toNat)
  | "+" => wrap (a + b)
  | "-" => wrap (a - b)
  | "*" => wrap (a * b)
  | "/" => wrap (a.tdiv b)
  | "%" => a.tmod b
  | _ => 0

def assign (x : String) (v : Int) : Reading Int := do
  modify fun s => { s with assigned := Keyed.set x v s.assigned }
  return v

section
variable (value : String → Option String)

mutual

def lookUp (n : Nat) (skip : Bool) (x : String) : Reading Int := do
  match n with
  | 0 => throw .primaryExpected
  | n + 1 =>
    let s ← get
    if skip then return 0
    match Keyed.get? s.assigned x with
    | some v => return v
    | none =>
      match value x with
      | none | some "" => return 0
      | some text =>
        match s.dialect, integer? text with
        | .dash, some v => if saturated v = v then return v else throw (.illegalNumber text)
        | .dash, none => throw (.illegalNumber text)
        | .bash, _ =>
          set { s with text, rest := text.toList, token := .finish, start := [] }
          let v ← whole n
          modify fun t => { s with assigned := t.assigned }
          return v

def placeOf (n : Nat) (x : String) : Reading String := do
  match n with
  | 0 => throw .primaryExpected
  | n + 1 =>
    match x.toList.dropWhile (· ≠ '[') with
    | [] => return x
    | _ :: index =>
      let s ← get
      let text := String.ofList index.dropLast
      set { s with text, rest := index.dropLast, token := .finish, start := [] }
      let v ← whole n
      modify fun t => { s with assigned := t.assigned }
      let name := String.ofList (x.toList.takeWhile (· ≠ '['))
      return s!"{name}[{v}]"

def whole (n : Nat) : Reading Int := do
  match n with
  | 0 => throw .primaryExpected
  | n + 1 =>
    advance
    let s ← get
    if s.token = .finish && s.dialect = .bash then return 0
    let v ← sequence n false
    match (← get).token with
    | .finish => return v
    | .operator "=" => fail .finishExpected "attempted assignment to non-variable"
    | _ => fail .finishExpected "syntax error in expression"

def sequence (n : Nat) (skip : Bool) : Reading Int := do
  match n with
  | 0 => throw .primaryExpected
  | n + 1 =>
    let v ← expression n skip
    if (← get).token = .operator "," then
      advance
      sequence n skip
    else return v

def expression (n : Nat) (skip : Bool) : Reading Int := do
  match n with
  | 0 => throw .primaryExpected
  | n + 1 =>
    let before ← get
    match before.token with
    | .name x =>
      advance
      match (← get).token with
      | .operator o =>
        let computes := o.endsWith "=" && !(["==", "!=", "<=", ">="].contains o)
        if computes then
          let x ← placeOf n x
          advance
          let v ← expression n skip
          if skip then return v
          else if o = "=" then assign x v
          else assign x (← applied (o.dropEnd 1).toString (← lookUp n skip x) v before.start)
        else
          set before
          conditional n skip
      | _ =>
        set before
        conditional n skip
    | _ => conditional n skip

def applied (o : String) (a b : Int) (place : List Char) : Reading Int := do
  if (o = "/" || o = "%") && b = 0 then
    modify fun s => { s with start := place }
    fail .divisionByZero "division by 0"
  else return apply o a b

def conditional (n : Nat) (skip : Bool) : Reading Int := do
  match n with
  | 0 => throw .primaryExpected
  | n + 1 =>
    let c ← binary n skip levels
    if (← get).token ≠ .operator "?" then return c
    advance
    if (← get).dialect = .bash && ((← get).token = .operator ":" || (← get).token = .finish) then
      note "expression expected"
    let a ← sequence n (skip || c = 0)
    if (← get).token ≠ .operator ":" then
      fail .colonExpected "\x60:' expected for conditional expression"
    advance
    if (← get).dialect = .bash && (← get).token = .finish then note "expression expected"
    let b ← conditional n (skip || c ≠ 0)
    return if c ≠ 0 then a else b

def binary (n : Nat) (skip : Bool) (levels : List (List String)) : Reading Int := do
  match n, levels with
  | 0, _ => throw .primaryExpected
  | n + 1, [] => powers n skip
  | n + 1, level :: finer => binaryRest n skip level finer (← binary n skip finer)

def binaryRest (n : Nat) (skip : Bool) (level : List String) (finer : List (List String))
    (a : Int) : Reading Int := do
  match n with
  | 0 => throw .primaryExpected
  | n + 1 =>
    match (← get).token with
    | .operator o =>
      if level.contains o then
        advance
        let place := (← get).start
        let skipNext := skip || (o = "||" && a ≠ 0) || (o = "&&" && a = 0)
        let b ← binary n skipNext finer
        binaryRest n skip level finer (← if skip then pure 0 else applied o a b place)
      else return a
    | _ => return a

def powers (n : Nat) (skip : Bool) : Reading Int := do
  match n with
  | 0 => throw .primaryExpected
  | n + 1 =>
    let a ← unary n skip
    if (← get).token = .operator "**" then
      advance
      let b ← powers n skip
      if b < 0 then if skip then return 0 else note "exponent less than 0"
      return power a b.toNat
    else return a

def unary (n : Nat) (skip : Bool) : Reading Int := do
  match n with
  | 0 => throw .primaryExpected
  | n + 1 =>
    match (← get).token with
    | .number v =>
      advance
      return v
    | .name x =>
      let x ← placeOf n x
      advance
      let v ← lookUp n skip x
      match (← get).token with
      | .operator "++" =>
        advance
        if skip then return 0
        let _ ← assign x (wrap (v + 1))
        return v
      | .operator "--" =>
        advance
        if skip then return 0
        let _ ← assign x (wrap (v - 1))
        return v
      | _ => return v
    | .operator o =>
      match o with
      | "(" =>
        advance
        let v ← sequence n skip
        if (← get).token = .operator ")" then
          advance
          return v
        else fail .parenthesisExpected "missing \x60)'"
      | "-" => advance; return wrap (-(← unary n skip))
      | "+" => advance; unary n skip
      | "!" => advance; return truth ((← unary n skip) == 0)
      | "~" => advance; return -(← unary n skip) - 1
      | "++" | "--" =>
        advance
        match (← get).token with
        | .name x =>
          let x ← placeOf n x
          advance
          let v ← lookUp n skip x
          if skip then return 0
          assign x (wrap (if o = "++" then v + 1 else v - 1))
        | _ => unary n skip
      | _ => operandExpected
    | .junk | .finish => operandExpected

end

end

def evaluate (d : Dialect) (value : String → Option String) (text : String) :
    Except Fault (Int × List (String × Int)) :=
  let start := { dialect := d, text, rest := text.toList }
  match (whole value (24 * text.length + 100000)).run start with
  | .ok v s => .ok (v, s.assigned)
  | .error e _ => .error e

end Freshen.Shell.Arithmetic
