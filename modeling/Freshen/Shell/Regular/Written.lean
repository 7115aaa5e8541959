import Freshen.Shell.Regular
/-! Regular expressions as they are written. In the basic way groups, bars and counts need a
backslash; in the extended way they do not. -/

namespace Freshen.Shell.Regular

structure Style where
  isExtended : Bool := false
  isLenient : Bool := false
  readsEscapes : Bool := false
  deriving DecidableEq, Repr

namespace Style

def basic : Style := {}
def extended : Style := { isExtended := true }
def escaping : Style := { isExtended := true, readsEscapes := true }

end Style

inductive Token
  | one (r : Regular)
  | star
  | plus
  | mark
  | count (least : Nat) (most : Option Nat)
  | opening
  | closing
  | bar
  deriving DecidableEq, Repr

inductive Fault
  | loneBracket
  | unmatchedBracket
  | unmatchedParenthesis
  | unmatchedClosing
  | unmatchedBrace
  | invalidCount
  | trailingBackslash
  | nothingRepeated
  | unknownClass
  | unknownCharacter
  | invalidRange
  | unknownGroup
  | tooBig
  | bareClass
  deriving DecidableEq, Repr

namespace Fault

def message : Fault → String
  | loneBracket => "Invalid regular expression"
  | unmatchedBracket => "Unmatched [, [^, [:, [., or [="
  | unmatchedParenthesis => "Unmatched ( or \\("
  | unmatchedClosing => "Unmatched ) or \\)"
  | unmatchedBrace => "Unmatched \\\x7b"
  | invalidCount => "Invalid content of \\\x7b\\\x7d"
  | trailingBackslash => "Trailing backslash"
  | nothingRepeated => "Invalid preceding regular expression"
  | unknownClass => "Invalid character class name"
  | unknownCharacter => "Invalid collation character"
  | invalidRange => "Invalid range end"
  | unknownGroup => "Invalid back reference"
  | tooBig => "Regular expression too big"
  | bareClass => "character class syntax is [[:space:]], not [:space:]"

end Fault

def textEscape : List Char → Char × List Char
  | [] => ('\\', [])
  | c :: r =>
    if Lexeme.isOctal c then
      let ds := ((c :: r).takeWhile Lexeme.isOctal).take 3
      (Char.ofNat (Printf.octal ds).toNat, (c :: r).drop ds.length)
    else (((Printf.control? c).map fun b => Char.ofNat b.toNat).getD c, r)

def member? (style : Style) : List Char → Except Fault (Char × List Char)
  | [] => .error .unmatchedBracket
  | '[' :: '.' :: c :: '.' :: ']' :: r | '[' :: '=' :: c :: '=' :: ']' :: r => .ok (c, r)
  | '[' :: '.' :: _ => .error .unknownCharacter
  | c :: r => .ok (if c = '\\' && style.readsEscapes then textEscape r else (c, r))

def className? : List Char → Option (String × List Char)
  | '[' :: ':' :: r =>
    let name := r.takeWhile (· ≠ ':')
    match r.drop name.length with
    | ':' :: ']' :: r => some (String.ofList name, r)
    | _ => none
  | _ => none

def members (style : Style) : Nat → Bool → List Char → Except Fault (Bytes × List Char)
  | 0, _, _ | _ + 1, _, [] => .error .unmatchedBracket
  | n + 1, first, c :: r =>
    if c = ']' && !first then .ok ([], r)
    else match className? (c :: r) with
    | some (name, r) =>
      if ByteSet.isClass name then do
        let (s, r) ← members style n false r
        return (ByteSet.ofClass name ++ s, r)
      else .error .unknownClass
    | none => do
      let (a, r) ← member? style (c :: r)
      match r with
      | '-' :: b :: r' =>
        if b = ']' then
          let (s, r) ← members style n false r
          return (bytesOf a.toString ++ s, r)
        else
          let (b, r) ← member? style (b :: r')
          if b < a then throw .invalidRange
          let (s, r) ← members style n false r
          return (ByteSet.range a.toNat.toUInt8 b.toNat.toUInt8 ++ s, r)
      | r =>
        let (s, r) ← members style n false r
        return (bytesOf a.toString ++ s, r)

def bracket (style : Style) (cs : List Char) : Except Fault (Regular × List Char) := do
  if cs.isEmpty then throw .loneBracket
  let inside := cs.takeWhile (· ≠ ']')
  let isNamed := cs.head? = some ':' && 1 < inside.length && inside.getLast? = some ':'
  if isNamed && !style.readsEscapes then throw .bareClass
  let negated := cs.head? = some '^'
  let cs := if negated then cs.drop 1 else cs
  let (s, r) ← members style (cs.length + 1) true cs
  return (member s negated, r)

def countLimit : Nat := 32767

def bounds (closing cs : List Char) : Except Fault (Token × List Char) := do
  let low := cs.takeWhile Char.isDigit
  let cs := cs.drop low.length
  let least := (String.ofList low).toNat?
  let (most, cs) : Option (Option Nat) × List Char := match cs with
    | ',' :: r =>
      let high := r.takeWhile Char.isDigit
      (some (String.ofList high).toNat?, r.drop high.length)
    | cs => (least.map some, cs)
  if cs.isEmpty then throw .unmatchedBrace
  if !closing.isPrefixOf cs then throw .invalidCount
  match most with
  | none => throw .invalidCount
  | some most =>
    if most.any (· < least.getD 0) then throw .invalidCount
    if countLimit < max (least.getD 0) (most.getD 0) then throw .tooBig
    return (.count (least.getD 0) most, cs.drop closing.length)

def textOf (c : Char) : Regular :=
  match bytesOf c.toString with
  | [] => nothing
  | b :: bs => bs.foldl (fun r b => both r (byte b)) (byte b)

def escaped (style : Style) (c : Char) : Regular :=
  match c with
  | 'w' => member ByteSet.word false
  | 'W' => member ByteSet.word true
  | 's' => member ByteSet.space false
  | 'S' => member ByteSet.space true
  | 'b' => boundary .wordEdge
  | 'B' => boundary .wordInside
  | '<' => boundary .wordStart
  | '>' => boundary .wordEnd
  | '\x60' => boundary .textStart
  | '\'' => boundary .textEnd
  | 'n' => if style.isLenient then textOf 'n' else byte 10
  | 't' => if style.isLenient then textOf 't' else byte 9
  | c => if c.isDigit && c ≠ '0' then again (c.toNat - 48) else textOf c

def mark? (style : Style) (begins : Bool) (c : Char) (r : List Char) :
    Option (Except Fault (Token × List Char)) :=
  let isPlain := begins && !style.isExtended
  match c with
  | '(' => some (.ok (.opening, r))
  | ')' => some (.ok (.closing, r))
  | '|' => some (.ok (.bar, r))
  | '+' => some (.ok (if isPlain then .one (byte 43) else .plus, r))
  | '?' => some (.ok (if isPlain then .one (byte 63) else .mark, r))
  | '{' =>
    if begins && !style.isExtended then
      if style.isLenient then none else some (.error .nothingRepeated)
    else if begins && !style.isLenient && !style.readsEscapes then some (.error .nothingRepeated)
    else
      match bounds (if style.isExtended then ['\x7d'] else ['\\', '\x7d']) r with
      | .ok t => some (.ok t)
      | .error f =>
        let isCount := (r.takeWhile (· ≠ '\x7d')).all fun c => c.isDigit || c = ','
        let isText := style.readsEscapes ||
          (style.isExtended && style.isLenient && (f = .unmatchedBrace || !isCount))
        if isText then none else some (.error f)
  | _ => none

def isAtEnd (style : Style) (r : List Char) : Bool :=
  style.isExtended || match r with
    | [] => true
    | '\\' :: c :: _ => c = ')' || c = '|'
    | _ => false

def token (style : Style) (begins : Bool) (c : Char) (r : List Char) :
    Except Fault (Token × List Char) :=
  match c, r with
  | '\\', [] => .error .trailingBackslash
  | '\\', c :: r =>
    if style.readsEscapes then
      let (c, r) := textEscape (c :: r)
      .ok (.one (textOf c), r)
    else match (if style.isExtended then none else mark? style begins c r) with
    | some t => t
    | none => .ok (.one (escaped style c), r)
  | '[', r => do
    let (x, r) ← bracket style r
    return (.one x, r)
  | '.', r => .ok (.one anyByte, r)
  | '*', r => .ok (if begins && !style.isExtended then .one (byte 42) else .star, r)
  | '^', r =>
    .ok (.one (if begins || style.isExtended then boundary .lineStart else byte 94), r)
  | '$', r => .ok (.one (if isAtEnd style r then boundary .lineEnd else byte 36), r)
  | c, r =>
    match (if style.isExtended then mark? style begins c r else none) with
    | some t => t
    | none => .ok (.one (textOf c), r)

def beginsAfter : Token → Bool
  | .one (.boundary .lineStart) | .opening | .bar => true
  | _ => false

def tokens (style : Style) : Nat → Bool → List Char → Except Fault (List Token)
  | 0, _, _ | _, _, [] => .ok []
  | n + 1, begins, c :: r => do
    let (t, r) ← token style begins c r
    return t :: (← tokens style n (beginsAfter t) r)

structure Partial where
  alternatives : List Regular := []
  parts : List Regular := []
  next : Nat := 1
  isRepeated : Bool := false

namespace Partial

def add (p : Partial) (r : Regular) : Partial :=
  { p with parts := r :: p.parts, isRepeated := false }

def repeated (p : Partial) (f : Regular → Regular) : Partial :=
  match p.parts with
  | boundary .lineStart :: _ => p
  | r :: rs => { p with parts := f r :: rs, isRepeated := true }
  | [] => p

def hasPart (p : Partial) : Bool :=
  match p.parts with
  | [] | boundary .lineStart :: _ => false
  | _ => true

def branch (p : Partial) : Regular := p.parts.foldl (fun r q => both q r) nothing

def split (p : Partial) : Partial :=
  { p with alternatives := p.branch :: p.alternatives, parts := [], isRepeated := false }

def whole (p : Partial) : Regular := p.alternatives.foldl (fun r q => either q r) p.branch

end Partial

def isMisplaced (style : Style) (p : Partial) (t : Token) : Bool :=
  !style.isLenient && match t with
    | .star | .count .. => !p.hasPart || (p.isRepeated && !style.isExtended)
    | .plus | .mark => !p.hasPart
    | _ => false

/-- Reads the tokens up to the closing of the group they are in; `outer` holds the groups around
and `closed` the numbers of those that are complete. -/
def build (style : Style) (outer : List (Nat × Partial)) (closed : List Nat) (p : Partial) :
    List Token → Except Fault Regular
  | [] => if outer.isEmpty then .ok p.whole else .error .unmatchedParenthesis
  | t :: ts =>
    if isMisplaced style p t then .error .nothingRepeated
    else match t, outer with
    | .one (.again n), _ =>
      if closed.contains n then build style outer closed (p.add (.again n)) ts
      else .error .unknownGroup
    | .one r, _ => build style outer closed (p.add r) ts
    | .star, _ => build style outer closed (p.repeated many) ts
    | .plus, _ => build style outer closed (p.repeated some_) ts
    | .mark, _ => build style outer closed (p.repeated optional) ts
    | .count least most, _ => build style outer closed (p.repeated (between · least most)) ts
    | .bar, _ => build style outer closed p.split ts
    | .opening, _ => build style ((p.next, p) :: outer) closed { next := p.next + 1 } ts
    | .closing, (k, q) :: outer =>
      build style outer (k :: closed) { q.add (group k p.whole) with next := p.next } ts
    | .closing, [] =>
      if style.isExtended && (style.isLenient || style.readsEscapes) then
        build style [] closed (p.add (byte 41)) ts
      else .error .unmatchedClosing

def parse (style : Style) (text : String) : Except Fault Regular := do
  build style [] [] {} (← tokens style (text.length + 1) true text.toList)

def leadingMarks (begins : Bool) : Nat → List Char → List String
  | 0, _ | _, [] => []
  | n + 1, c :: r =>
    match c, r with
    | '\\', _ :: r => leadingMarks false n r
    | '[', r =>
      match bracket .extended r with
      | .ok (_, r) => leadingMarks false n r
      | .error _ => []
    | c, r =>
      let shown? : Option String := match c with
        | '*' | '+' | '?' => some c.toString
        | '{' => if (bounds ['\x7d'] r).toOption.isSome then some "\x7b...\x7d" else none
        | _ => none
      match shown? with
      | some s => (if begins then [s] else []) ++ leadingMarks false n r
      | none => leadingMarks (c = '(' || c = '|' || c = '^') n r

end Freshen.Shell.Regular
