import Freshen.Shell.Awk.Syntax
import Freshen.Shell.Regular.Written
/-! The words and marks that a program is written with. A slash divides after a value and begins an
expression elsewhere; where something is printed, an arrow or a bar outside of parentheses leads the
output away. -/

namespace Freshen.Shell.Awk

inductive Flaw
  | unexpected (shown : String)
  | missing (mark : Char) (before : String)
  | extra (mark : Char)
  | runawayText (start : String)
  | runawayRegular (start : String)
  | character (c : Char)
  | badRegular (reason source : String)
  | undefined (function : String)
  | redefined (function : String)
  | repeatedParameter (name : String)
  | tooManyArguments (function : String)
  | wrongCount (function : String)
  | nothingPrinted
  | misplaced (word : String)
  | noLoop (word : String)
  | noFunction
  | misused (name : String)
  | wrongArgument (position : Nat) (function : String) (isTable : Bool)
  deriving DecidableEq, Repr

namespace Flaw

def text : Flaw → String
  | unexpected s => s!"syntax error at or near {s}"
  | missing c s => s!"missing {c} near {s}"
  | extra c => s!"extra '{c}'"
  | runawayText s => s!"runaway string constant \"{s} ..."
  | runawayRegular s => s!"runaway regular expression /{s} ..."
  | character c => s!"unexpected character '{c}'"
  | badRegular reason source => s!"regular expression compile failed ({reason})\n{source}"
  | undefined f => s!"function {f} never defined"
  | redefined f => s!"redefinition of {f}"
  | repeatedParameter x => s!"{x} is duplicated in argument list"
  | tooManyArguments f => s!"too many arguments in call to {f}"
  | wrongCount f => s!"wrong number of arguments in call to {f}"
  | nothingPrinted => "no arguments in call to printf"
  | misplaced w => s!"improper use of {w}"
  | noLoop w => s!"{w} statement outside of loop"
  | noFunction => "return outside function body"
  | misused x => s!"illegal reference to {x}"
  | wrongArgument n f isTable =>
    s!"type error in arg({n}) in call to {f} " ++
      if isTable then "(actual local array vs local variable)"
      else "(actual local variable vs local array)"

def remarks (file : Option String) (line : Nat) (f : Flaw) : List String :=
  let begins := (file.map (· ++ ": ")).getD ""
  let place := match f with
    | character _ => s!"{begins}{line}: "
    | _ => s!"{begins}line {line}: "
  let more := match f with
    | extra '\x7d' => [place ++ (unexpected "end of line").text]
    | _ => []
  (place ++ f.text) :: more

end Flaw

inductive Token
  | number (x : Float) (shown : String)
  | text (bs : Bytes)
  | regular (source : String)
  | name (x : String)
  | call (f : String)
  | word (w : String)
  | builtin (f : Builtin) (w : String)
  | mark (s : String)
  | sink (s : String)
  | lineEnd
  | textEnd
  | broken (f : Flaw)

namespace Token

def shown : Token → String
  | number _ s | call s | word s | builtin _ s | mark s => s
  | name x => if x = "NF" then "$" else x
  | text bs => stringOf bs
  | regular s => "/" ++ s ++ "/"
  | sink s => (s.take 1).toString
  | lineEnd => "end of line"
  | textEnd => "end of file"
  | broken f => f.text

def words : List String :=
  ["BEGIN", "END", "function", "if", "else", "while", "for", "do", "break", "continue", "in",
    "delete", "next", "nextfile", "exit", "return", "print", "printf", "getline"]

def builtins : List (String × Builtin) :=
  [("length", .length), ("index", .index), ("substr", .substring), ("split", .split),
    ("sub", .substitute), ("gsub", .substituteAll), ("sprintf", .format), ("match", .match_),
    ("toupper", .upper), ("tolower", .lower), ("sin", .sine), ("cos", .cosine),
    ("atan2", .arcTangent), ("exp", .exponential), ("log", .logarithm), ("int", .whole),
    ("sqrt", .root), ("rand", .random), ("srand", .seed), ("close", .close),
    ("system", .system), ("fflush", .flush), ("strftime", .timeText), ("mktime", .timeOf),
    ("systime", .time)]

def marks : List String :=
  ["&&", "||", "++", "--", "+=", "-=", "*=", "/=", "%=", "^=", "==", "<=", ">=", "!=", "!~",
    "\x7b", "\x7d", "(", ")", "[", "]", ";", ",", "+", "-", "*", "/", "%", "^", "!", ">", "<", "|",
    "?", ":", "~", "$", "="]

def isValue : Token → Bool
  | number .. | text _ | regular _ | name _ | builtin .. => true
  | word w => w = "getline"
  | mark s => [")", "]", "++", "--"].contains s
  | _ => false

def continues : Token → Bool
  | word w => w = "do" || w = "else"
  | mark s => ["\x7b", ";", ",", "&&", "||"].contains s
  | lineEnd => true
  | _ => false

end Token

def skipped (lines : Bool) : Nat → List Char → List Char × Nat
  | 0, cs => (cs, 0)
  | n + 1, '\\' :: '\n' :: cs => (skipped lines n cs).map id (· + 1)
  | n + 1, '#' :: cs => skipped lines n (cs.dropWhile (· ≠ '\n'))
  | n + 1, c :: cs =>
    if c = ' ' || c = '\t' || c = '\r' then skipped lines n cs
    else if c = '\n' && lines then (skipped lines n cs).map id (· + 1)
    else (c :: cs, 0)
  | _ + 1, [] => ([], 0)

def quotedText : List Char → List Char → Except (List Char) (List Char × List Char)
  | acc, [] | acc, '\n' :: _ => .error acc.reverse
  | acc, '"' :: r => .ok (acc.reverse, r)
  | acc, '\\' :: c :: r => quotedText (c :: '\\' :: acc) r
  | acc, c :: r => quotedText (c :: acc) r

def unescaped : Nat → List Char → Bytes
  | 0, _ | _ + 1, [] => []
  | n + 1, '\\' :: c :: r =>
    if c = '\n' then unescaped n r
    else if c = '"' then 34 :: unescaped n r
    else if c = 'x' && r.head?.any Lexeme.isHexadecimal then
      let ds := (r.takeWhile Lexeme.isHexadecimal).take 2
      Printf.hexadecimal ds :: unescaped n (r.drop ds.length)
    else if Lexeme.isOctal c || (Printf.control? c).isSome then
      let (c, r) := Regular.textEscape (c :: r)
      c.toNat.toUInt8 :: unescaped n r
    else 92 :: (bytesOf c.toString ++ unescaped n r)
  | n + 1, c :: r => bytesOf c.toString ++ unescaped n r

def valueOfText (s : String) : Value := .ofInput (unescaped (s.length + 1) s.toList)

def slashedText : Bool → List Char → List Char → Except (List Char) (List Char × List Char)
  | _, acc, [] | _, acc, '\n' :: _ => .error acc.reverse
  | inside, acc, '\\' :: '/' :: r => slashedText inside ('/' :: acc) r
  | inside, acc, '\\' :: c :: r => slashedText inside (c :: '\\' :: acc) r
  | true, acc, ']' :: r => slashedText false (']' :: acc) r
  | false, acc, '[' :: '^' :: ']' :: r => slashedText true (']' :: '^' :: '[' :: acc) r
  | false, acc, '[' :: ']' :: r => slashedText true (']' :: '[' :: acc) r
  | false, acc, '[' :: r => slashedText true ('[' :: acc) r
  | false, acc, '/' :: r => .ok (acc.reverse, r)
  | inside, acc, c :: r => slashedText inside (c :: acc) r

structure Reader where
  rest : List Char
  line : Nat := 1
  last : Token := .lineEnd
  parentheses : Nat := 0
  braces : Nat := 0
  prints : Bool := false
  functions : List String := []

namespace Reader

def isNameStart (c : Char) : Bool := c.isAlpha || c = '_'

def isNamePart (c : Char) : Bool := isNameStart c || c.isDigit

def nameToken (r : Reader) : Token × Reader :=
  let cs := r.rest.takeWhile isNamePart
  let x := String.ofList cs
  let rest := r.rest.drop cs.length
  let r' := { r with rest }
  if Token.words.contains x then
    (.word x, { r' with prints := x = "print" || x = "printf" })
  else match Keyed.get? Token.builtins x with
  | some f => (.builtin f x, r')
  | none =>
    let defines := r.last matches .word "function"
    let isCalled := rest.head? = some '(' ||
      (r.functions.contains x && (skipped false (rest.length + 1) rest).1.head? = some '(')
    if defines || isCalled then (.call x, { r' with functions := x :: r.functions })
    else (.name x, r')

def numberToken (r : Reader) : Option (Token × Reader) :=
  (Floating.unsigned? .double false r.rest).map fun (x, k) =>
    (.number x.toFloat (String.ofList (r.rest.take k)), { r with rest := r.rest.drop k })

def markToken (r : Reader) (c : Char) : Token × Reader :=
  match Token.marks.find? fun m => m.toList.isPrefixOf r.rest with
  | none => (.broken (.character c), { r with rest := r.rest.drop 1 })
  | some m =>
    let r' := { r with rest := r.rest.drop m.length }
    let leads := r.prints && r.parentheses = 0
    match m with
    | ">" =>
      if !leads then (.mark m, r')
      else if r'.rest.head? = some '>' then
        (.sink ">>", { r' with rest := r'.rest.drop 1, prints := false })
      else (.sink ">", { r' with prints := false })
    | "|" => if leads then (.sink m, { r' with prints := false }) else (.mark m, r')
    | "(" => (.mark m, { r' with parentheses := r.parentheses + 1 })
    | ")" =>
      if r.parentheses = 0 then (.broken (.extra ')'), r')
      else (.mark m, { r' with parentheses := r.parentheses - 1 })
    | "\x7b" => (.mark m, { r' with braces := r.braces + 1, prints := false })
    | "\x7d" =>
      if r.braces = 0 then (.broken (.extra '\x7d'), r')
      else (.mark m, { r' with braces := r.braces - 1, prints := false })
    | ";" => (.mark m, { r' with prints := false })
    | m => (.mark m, r')

def token (r : Reader) (c : Char) (cs : List Char) : Token × Reader :=
  if c = '\n' then (.lineEnd, { r with rest := cs, prints := false })
  else if isNameStart c then r.nameToken
  else if c = '"' then
    match quotedText [] cs with
    | .ok (t, rest) =>
      let lines := (t.filter (· = '\n')).length
      (.text (unescaped (t.length + 1) t), { r with rest, line := r.line + lines })
    | .error t => (.broken (.runawayText (String.ofList t)), { r with rest := [] })
  else if c = '/' && !r.last.isValue then
    match slashedText false [] cs with
    | .ok (t, rest) => (.regular (String.ofList t), { r with rest })
    | .error t => (.broken (.runawayRegular (String.ofList t)), { r with rest := [] })
  else if c.isDigit || (c = '.' && cs.head?.any Char.isDigit) then
    -- A nought before a letter is a number by itself.
    match cs with
    | x :: _ =>
      if c = '0' && (x = 'x' || x = 'X') then (.number 0 "0", { r with rest := cs })
      else (r.numberToken).getD (r.markToken c)
    | [] => (r.numberToken).getD (r.markToken c)
  else r.markToken c

def skip (r : Reader) (t : Token) : Reader :=
  let past (r : Reader) : Reader :=
    let (rest, k) := skipped true (r.rest.length + 1) r.rest
    { r with rest, line := r.line + k }
  if t.continues then past r
  else match t with
  | .mark "\x7d" =>
    let r := past r
    match r.rest with
    | ';' :: rest => past { r with rest }
    | _ => r
  | _ => r

def tokens : Nat → Reader → List (Token × Nat)
  | 0, r => [(.textEnd, r.line)]
  | n + 1, r =>
    let (rest, k) := skipped false (r.rest.length + 1) r.rest
    let r := { r with rest, line := r.line + k }
    match rest with
    | [] => [(.textEnd, r.line)]
    | c :: cs =>
      let (t, r') := r.token c cs
      let r' := { r' with last := t, line := if c = '\n' then r'.line + 1 else r'.line }
      (t, r.line) :: tokens n (r'.skip t)

def ofText (text : String) : List (Token × Nat) :=
  let cs := text.toList ++ ['\n']
  let (rest, k) := skipped true (cs.length + 1) cs
  tokens (cs.length + 1) { rest, line := 1 + k }

end Reader
end Freshen.Shell.Awk
