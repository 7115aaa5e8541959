import Freshen.Shell.Syntax
/-! Reading the words of a shell script. A word may hold whole commands, so what reads those is
handed in. The number bounds the steps. -/

namespace Freshen.Shell

inductive Token
  | word (w : Word)
  | operator (s : String)
  | direction (descriptor : Option Nat) (s : String)
  | newline
  | finish
  deriving Inhabited

inductive Fault
  | unterminatedQuote
  | missingBrace
  | missingParentheses
  | openBackquote
  | badLoopVariable
  | badFunctionName
  | unexpected (token : Token) (raw : String) (expected : Option String)
  | unclosed (closing : String) (line : Nat)
  | inCondition (remark near : String) (isPast : Bool)
  | noted (text : String)
  deriving Inhabited

structure Source where
  rest : List Char
  line : Nat := 1
  removed : Nat := 0
  back : Option Token := none
  origin : List Char := []
  dialect : Dialect := .dash
  aliases : List (String × String) := []
  patience : Nat := 1000
  active : List (String × Nat) := []
  unended : List (String × Nat × Nat) := []

abbrev Reading (α : Type) := EStateM Fault Source α

structure Readers where
  enclosed : Reading Command
  whole : Reading Command

namespace Lexeme

def isMeta (c : Char) : Bool :=
  isBlank c || ['\n', ';', '&', '|', '<', '>', '(', ')' ].contains c

def isSpecial (c : Char) : Bool := ['@', '*', '#', '?', '-', '$', '!'].contains c

def next : Reading (Option Char) :=
  modifyGet fun s =>
    match s.rest with
    | [] => (none, s)
    | c :: r =>
      if c = '\n' then
        (some c, { s with rest := r, line := s.line + 1 + s.removed, removed := 0 })
      else (some c, { s with rest := r })

def drop : Nat → Reading Unit
  | 0 => return
  | n + 1 => do
    let _ ← next
    drop n

def peek : Reading (Option Char) := return (← get).rest.head?

def follows (text : String) : Reading Bool := return text.toList.isPrefixOf (← get).rest

def joinLines : Nat → Reading Unit
  | 0 => return
  | n + 1 => do
    match (← get).rest with
    | '\\' :: '\n' :: _ => drop 2; joinLines n
    | _ => return

def run (p : Char → Bool) : Reading String :=
  modifyGet fun s =>
    let cs := s.rest.takeWhile p
    let lines := cs.count '\n'
    (String.ofList cs, { s with
      rest := s.rest.drop cs.length
      line := s.line + lines + if lines = 0 then 0 else s.removed
      removed := if lines = 0 then s.removed else 0 })

def isBash : Reading Bool := return (← get).dialect = .bash

def missing (fault : Fault) (closing : String) (line : Nat) : Reading α := do
  throw (if ← isBash then .unclosed closing line else fault)

def textSince (start : List Char) : Reading String :=
  return String.ofList (start.take (start.length - (← get).rest.length))

def singleQuoted (line : Nat) : Reading String := do
  let s ← run (· ≠ '\'')
  match ← next with
  | some _ => return s
  | none => missing .unterminatedQuote "'" line

/-- A backquoted command loses the backslashes before backquotes, dollars and backslashes, and
between double quotes also those before double quotes. -/
def backquotedText (quoted : Bool) : Nat → List Char → Reading String
  | 0, _ => throw .openBackquote
  | n + 1, acc => do
    match ← next with
    | none => throw .openBackquote
    | some '\x60' => return String.ofList acc.reverse
    | some '\\' =>
      match ← next with
      | none => throw .openBackquote
      | some c =>
        if c = '\x60' || c = '$' || c = '\\' || (quoted && c = '"') then
          backquotedText quoted n (c :: acc)
        else backquotedText quoted n (c :: '\\' :: acc)
    | some c => backquotedText quoted n (c :: acc)

def within (text : String) (r : Reading α) : Reading α := do
  let before ← get
  set { before with rest := text.toList, back := none, removed := 0 }
  let a ← r
  modify fun s => { s with rest := before.rest, line := before.line, removed := before.removed
                           back := before.back }
  return a

def backquoted (readers : Readers) (quoted : Bool) (n : Nat) : Reading Part := do
  let line := (← get).line
  let text ← try backquotedText quoted n [] catch
    | .openBackquote => missing .openBackquote "\x60" line
    | e => throw e
  return .command (← within text readers.whole) quoted

def isOctal (c : Char) : Bool := '0' ≤ c && c ≤ '7'

def digitValue (c : Char) : Nat :=
  if c.isDigit then c.toNat - 48 else c.toLower.toNat - 87

def isHexadecimal (c : Char) : Bool := c.isDigit || (c.isAlpha && digitValue c < 16)

def inBase (base : Nat) (ds : List Char) : Nat := ds.foldl (fun n c => n * base + digitValue c) 0

def control? : Char → Option Char
  | 'a' => some '\x07'
  | 'b' => some '\x08'
  | 't' => some '\t'
  | 'n' => some '\n'
  | 'v' => some '\x0b'
  | 'f' => some '\x0c'
  | 'r' => some '\r'
  | 'e' | 'E' => some '\x1b'
  | _ => none

def escaped (line : Nat) : Nat → List Char → Reading String
  | 0, _ => missing .unterminatedQuote "'" line
  | n + 1, acc => do
    match ← next with
    | none => missing .unterminatedQuote "'" line
    | some '\'' => return String.ofList acc.reverse
    | some '\\' =>
      let cs := (← get).rest
      match ← next with
      | none => missing .unterminatedQuote "'" line
      | some c =>
        match control? c with
        | some d => escaped line n (d :: acc)
        | none =>
          if isOctal c then
            let ds := (cs.takeWhile isOctal).take 3
            drop (ds.length - 1)
            escaped line n (Char.ofNat (inBase 8 ds) :: acc)
          else if c = 'x' || c = 'u' then
            let ds := ((cs.drop 1).takeWhile isHexadecimal).take (if c = 'x' then 2 else 4)
            drop ds.length
            escaped line n (if ds.isEmpty then c :: '\\' :: acc
              else Char.ofNat (inBase 16 ds) :: acc)
          else if ['\\', '\'', '"', '?'].contains c then escaped line n (c :: acc)
          else escaped line n (c :: '\\' :: acc)
    | some c => escaped line n (c :: acc)

inductive Place
  | bare
  | braces (stops : List Char)
  | quotes
  | quotedBraces (stops : List Char) (inner : Bool)
  | whole
  | sum (depth : Nat)
  | brackets (depth : Nat)
  deriving DecidableEq

namespace Place

def isQuoted : Place → Bool
  | bare | braces _ => false
  | _ => true

def isPlain (p : Place) (c : Char) : Bool :=
  c ≠ '\\' && c ≠ '$' && c ≠ '\x60' &&
    match p with
    | bare => c ≠ '\'' && c ≠ '"' && !isMeta c
    | braces stops => c ≠ '\'' && c ≠ '"' && c ≠ '\x7d' && !stops.contains c
    | quotes => c ≠ '"'
    | quotedBraces stops _ => c ≠ '"' && c ≠ '\'' && c ≠ '\x7d' && !stops.contains c
    | whole => true
    | sum _ => c ≠ '(' && c ≠ ')' && c ≠ '"'
    | brackets _ => c ≠ '[' && c ≠ ']' && c ≠ '"'

def plainPart (p : Place) (s : String) : Part := if p.isQuoted then .quoted s else .literal s

end Place

def isAllArguments : Word → Bool
  | [.parameter "@" none _ true] => true
  | [.parameter _ (some [.quoted "@"]) _ true] => true
  | _ => false

def fallbackOperators : List Char := ['-', '=', '?', '+']

def bracedName : Reading String := do
  match ← peek with
  | some c =>
    if isNameStart c then run isNamePart
    else if c.isDigit then run Char.isDigit
    else if isSpecial c then
      drop 1
      return c.toString
    else return ""
  | none => return ""

mutual

def parts (readers : Readers) (n : Nat) (p : Place) (acc : List Part) : Reading Word := do
  match n with
  | 0 => throw .unterminatedQuote
  | n + 1 =>
    let plain ← run p.isPlain
    let acc := if plain = "" then acc else p.plainPart plain :: acc
    let go (q : Part) := parts readers n p (q :: acc)
    match ← peek with
    | none => return acc.reverse
    | some c =>
      match c with
      | '$' =>
        drop 1
        joinLines n
        go (← dollar readers n p.isQuoted)
      | '\x60' =>
        drop 1
        go (← backquoted readers p.isQuoted n)
      | '\\' =>
        drop 1
        match ← peek with
        | none => go (p.plainPart "\\")
        | some '\n' =>
          drop 1
          parts readers n p acc
        | some d =>
          let quotable := match p with
            | .bare | .braces _ => true
            | .quotes => d = '$' || d = '\x60' || d = '\\' || d = '"'
            | .quotedBraces .. => d = '$' || d = '\x60' || d = '\\' || d = '"' || d = '\x7d'
            | .whole => d = '$' || d = '\x60' || d = '\\'
            | .sum _ | .brackets _ => d = '$' || d = '\x60' || d = '\\' || d = '"'
          if quotable then
            drop 1
            go (.quoted d.toString)
          else go (.quoted "\\")
      | '\'' =>
        match p with
        | .bare | .braces _ =>
          let line := (← get).line
          drop 1
          go (.quoted (← singleQuoted line))
        | .quotedBraces _ false =>
          if ← isBash then
            let line := (← get).line
            drop 1
            go (.quoted ("'" ++ (← singleQuoted line) ++ "'"))
          else
            drop 1
            go (.quoted "'")
        | _ =>
          drop 1
          go (.quoted "'")
      | '"' =>
        match p with
        | .bare | .braces _ =>
          let line := (← get).line
          drop 1
          let w ← doubleQuoted readers n line
          parts readers n p (if isAllArguments w then w.reverse ++ acc
            else w.reverse ++ .quoted "" :: acc)
        | .quotedBraces stops inner =>
          drop 1
          parts readers n (.quotedBraces stops !inner) acc
        | .sum _ | .brackets _ =>
          drop 1
          if ← isBash then parts readers n p acc else go (.quoted "\"")
        | _ => return acc.reverse
      | '(' =>
        match p with
        | .sum depth =>
          drop 1
          parts readers n (.sum (depth + 1)) (.quoted "(" :: acc)
        | .bare => return acc.reverse
        | _ =>
          drop 1
          go (p.plainPart "(")
      | ')' =>
        match p with
        | .sum (depth + 1) =>
          drop 1
          parts readers n (.sum depth) (.quoted ")" :: acc)
        | .sum 0 =>
          if (← follows "))") || (← isBash) then return acc.reverse
          else
            drop 1
            go (.quoted ")")
        | .bare => return acc.reverse
        | _ =>
          drop 1
          go (p.plainPart ")")
      | '[' =>
        match p with
        | .brackets depth =>
          drop 1
          parts readers n (.brackets (depth + 1)) (.quoted "[" :: acc)
        | _ =>
          drop 1
          go (p.plainPart "[")
      | ']' =>
        match p with
        | .brackets (depth + 1) =>
          drop 1
          parts readers n (.brackets depth) (.quoted "]" :: acc)
        | .brackets 0 => return acc.reverse
        | _ =>
          drop 1
          go (p.plainPart "]")
      | c =>
        match p with
        | .quotedBraces _ true =>
          drop 1
          go (.quoted c.toString)
        | .bare =>
          if (c = '<' || c = '>') && (← isBash) && !acc.isEmpty && (← follows (c.toString ++ "("))
          then go (← channel readers n)
          else return acc.reverse
        | _ => return acc.reverse

def doubleQuoted (readers : Readers) (n : Nat) (line : Nat) : Reading Word := do
  match n with
  | 0 => throw .unterminatedQuote
  | n + 1 =>
    let w ← parts readers n .quotes []
    match ← next with
    | some _ => return w
    | none => missing .unterminatedQuote "\"" line

def channel (readers : Readers) (n : Nat) : Reading Part := do
  match n with
  | 0 => throw .unterminatedQuote
  | _ + 1 =>
    let c ← next
    drop 1
    return .channel (← readers.enclosed) (c = some '<')

def sum (readers : Readers) (n : Nat) : Reading Word := do
  match n with
  | 0 => throw .missingParentheses
  | n + 1 =>
    let line := (← get).line
    let w ← parts readers n (.sum 0) []
    if ← follows "))" then
      drop 2
      return w
    else missing .missingParentheses ")" line

def dollar (readers : Readers) (n : Nat) (quoted : Bool) : Reading Part := do
  match n with
  | 0 => throw .unterminatedQuote
  | n + 1 =>
    let plain : Part := if quoted then .quoted "$" else .literal "$"
    match ← peek with
    | none => return plain
    | some '(' =>
      if ← follows "((" then
        let before ← get
        drop 2
        try return .arithmetic (← sum readers n) quoted
        catch e =>
          if before.dialect = .dash || (← get).rest.isEmpty then throw e
          set before
          drop 1
          try return .command (← readers.enclosed) quoted
          catch f => throw (match e, f with
            | .unclosed .., .unclosed .. => e
            | _, f => f)
      else
        drop 1
        return .command (← readers.enclosed) quoted
    | some '\x7b' =>
      let line := (← get).line
      drop 1
      braces readers n line quoted
    | some c =>
      if isNameStart c then return .parameter (← run isNamePart) none .asIs quoted
      else if c.isDigit || isSpecial c then
        drop 1
        return .parameter c.toString none .asIs quoted
      else if (← isBash) && !quoted && c = '\'' then
        let line := (← get).line
        drop 1
        return .quoted (← escaped line n [])
      else if (← isBash) && !quoted && c = '"' then return .literal ""
      else return plain

def braces (readers : Readers) (n : Nat) (line : Nat) (quoted : Bool) : Reading Part := do
  match n with
  | 0 => throw .missingBrace
  | n + 1 =>
    let start := (← get).rest
    joinLines n
    let isBash ← isBash
    let cs := (← get).rest
    let isLength := match cs with
      | '#' :: c :: r =>
        isNamePart c || (isSpecial c && r.head? = some '\x7d')
      | _ => false
    let isIndirect := match cs with
      | '!' :: c :: _ => isBash && isNamePart c
      | _ => false
    if isLength || isIndirect then drop 1
    let name ← bracedName
    let index ← if isBash && (← follows "[") && isName name.toList then
        drop 1
        let w ← parts readers n (.brackets 0) []
        drop 1
        pure (some w)
      else pure none
    let change : Change ←
      if name = "" then unknown readers n start quoted
      else if isLength then
        if ← follows "\x7d" then pure .length else unknown readers n start quoted
      else if isIndirect then
        if (← follows "*\x7d") || (← follows "@\x7d") then
          drop 1
          pure .names
        else pure (.indirect (← change readers n start quoted))
      else change readers n start quoted
    match ← next with
    | some _ => return .parameter name index change quoted
    | none =>
      if isBash then throw (.unclosed "\x7d" line)
      else throw (if quoted then .unterminatedQuote else .missingBrace)

def unknown (readers : Readers) (n : Nat) (start : List Char) (quoted : Bool) : Reading Change := do
  match n with
  | 0 => throw .missingBrace
  | n + 1 =>
    let _ ← parts readers n (if quoted then .quotedBraces [] false else .braces []) []
    return .unknown (← textSince start)

def change (readers : Readers) (n : Nat) (start : List Char) (quoted : Bool) : Reading Change := do
  match n with
  | 0 => throw .missingBrace
  | n + 1 =>
    joinLines n
    let isBash ← isBash
    let word : Reading Word :=
      parts readers n (if quoted then .quotedBraces [] false else .braces []) []
    let pattern (stops : List Char) : Reading Word := parts readers n (.braces stops) []
    match (← get).rest with
    | '\x7d' :: _ => return .asIs
    | ':' :: c :: _ =>
      if fallbackOperators.contains c then
        drop 2
        return .fallback c true (← word)
      else if isBash then
        drop 1
        let first ← parts readers n (.quotedBraces [':'] false) []
        if ← follows ":" then
          drop 1
          return .slice first (some (← word))
        else if first.isEmpty then return .unknown (← textSince start)
        else return .slice first none
      else if c = '\x7d' then throw .missingBrace
      else unknown readers n start quoted
    | '%' :: '%' :: _ => drop 2; return .trimmed true true (← pattern [])
    | '%' :: _ => drop 1; return .trimmed true false (← pattern [])
    | '#' :: '#' :: _ => drop 2; return .trimmed false true (← pattern [])
    | '#' :: _ => drop 1; return .trimmed false false (← pattern [])
    | c :: d :: _ =>
      if fallbackOperators.contains c then
        drop 1
        return .fallback c false (← word)
      else if !isBash then unknown readers n start quoted
      else if c = '/' then
        let (spot, length) : Spot × Nat := match d with
          | '/' => (.every, 2)
          | '#' => (.beginning, 2)
          | '%' => (.ending, 2)
          | _ => (.first, 1)
        drop length
        let p ← pattern ['/']
        if ← follows "/" then
          drop 1
          return .replaced spot p (← pattern [])
        else return .replaced spot p []
      else if c = '^' || c = ',' then
        drop (if d = c then 2 else 1)
        return .cased (c = '^') (d = c) (← pattern [])
      else if c = '@' && d ≠ '\x7d' then
        drop 2
        return .operation d
      else unknown readers n start quoted
    | _ => unknown readers n start quoted

end

def quotedText (readers : Readers) (n : Nat) (text : String) : Reading Word :=
  within text (parts readers n .whole [])

def skip : Nat → Reading Unit
  | 0 => return
  | n + 1 => do
    match (← get).rest with
    | '\\' :: '\n' :: _ => drop 2; skip n
    | '#' :: _ => let _ ← run (· ≠ '\n'); return
    | c :: _ => if isBlank c then let _ ← run isBlank; skip n else return
    | [] => return

def operators : Dialect → List String
  | .dash => ["&&", "||", ";;", ";", "&", "|", "(", ")"]
  | .bash => ["&&", "||", ";;&", ";;", ";&", ";", "&", "|&", "|", "(", ")"]

def directions : Dialect → List String
  | .dash => ["<<-", "<<", "<&", "<>", "<", ">>", ">&", ">|", ">"]
  | .bash => ["<<<", "<<-", "<<", "<&", "<>", "<", "&>>", "&>", ">>", ">&", ">|", ">"]

def operator? (choices : List String) : Reading (Option String) := do
  let cs := (← get).rest
  match choices.find? fun o => o.toList.isPrefixOf cs with
  | some o =>
    drop o.length
    return some o
  | none => return none

def descriptor? (cs : List Char) : Option Nat :=
  match cs.takeWhile Char.isDigit, cs.dropWhile Char.isDigit with
  | [], _ => none
  | ds, c :: _ => if c = '<' || c = '>' then (String.ofList ds).toNat? else none
  | _, [] => none

def word (readers : Readers) (n : Nat) : Reading Word := parts readers n .bare []

def scan (readers : Readers) (n : Nat) : Reading Token := do
  skip n
  let s ← get
  set { s with origin := s.rest }
  match s.rest with
  | [] => return .finish
  | '\n' :: _ => drop 1; return .newline
  | cs =>
    let descriptor := descriptor? cs
    if descriptor.isSome then let _ ← run Char.isDigit
    let isChannel := s.dialect = .bash && descriptor.isNone &&
      ((← follows "<(") || (← follows ">("))
    if isChannel then
      let p ← channel readers n
      return .word (← parts readers n .bare [p])
    else match ← operator? (directions s.dialect) with
    | some o => return .direction descriptor o
    | none =>
      match ← operator? (operators s.dialect) with
      | some o => return .operator o
      | none => return .word (← word readers n)

def token (readers : Readers) (n : Nat) : Reading Token := do
  let s ← get
  match s.back with
  | some t =>
    set { s with back := none }
    return t
  | none => scan readers n

def putBack (t : Token) : Reading Unit := modify fun s => { s with back := some t }

def peekToken (readers : Readers) (n : Nat) : Reading Token := do
  let t ← token readers n
  putBack t
  return t

def unexpected (t : Token) (expected : Option String) : Reading α := do
  throw (.unexpected t (← textSince (← get).origin) expected)

end Lexeme
end Freshen.Shell
