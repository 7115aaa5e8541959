import Freshen.Shell.Edit.Basic
/-! Editing scripts as they are written. -/

namespace Freshen.Shell.Edit

def fault (left : List Char) (text : String) : Except Flaw α := .error (.at_ left.length text)

def isBlank (c : Char) : Bool := c = ' ' || c = '\t'

def skipBlanks (cs : List Char) : List Char := cs.dropWhile isBlank

def isSpace (c : Char) : Bool := isBlank c || c = '\n' || c = '\r'

def letterByte? : Char → Option UInt8
  | 'a' => some 7
  | 'f' => some 12
  | 'n' => some 10
  | 'r' => some 13
  | 't' => some 9
  | 'v' => some 11
  | _ => none

def digitValue (c : Char) : Nat :=
  if c.isDigit then c.toNat - 48
  else if 'a' ≤ c && c ≤ 'f' then c.toNat - 87
  else if 'A' ≤ c && c ≤ 'F' then c.toNat - 55
  else 99

def numbered? (base most : Nat) (cs : List Char) : Option (UInt8 × List Char) :=
  let ds := (cs.take most).takeWhile fun c => digitValue c < base
  if ds.isEmpty then none
  else some ((ds.foldl (fun n c => n * base + digitValue c) 0).toUInt8, cs.drop ds.length)

def escape? : List Char → Option (UInt8 × List Char)
  | 'd' :: r => numbered? 10 3 r
  | 'o' :: r => numbered? 8 3 r
  | 'x' :: r => numbered? 16 2 r
  | 'c' :: c :: r => some (c.toUpper.toNat.toUInt8 ^^^ 64, r)
  | c :: r => (letterByte? c).map (·, r)
  | [] => none

def bracketLength : Nat → Bool → List Char → Nat
  | 0, _, _ | _ + 1, _, [] => 0
  | n + 1, first, c :: r =>
    if c = ']' && !first then 1
    else if first && c = '^' then 1 + bracketLength n true r
    else match Regular.className? (c :: r) with
    | some (name, r) => name.length + 4 + bracketLength n false r
    | none => 1 + bracketLength n false r

/-- The text up to a delimiter; a backslash before the delimiter takes its meaning. In expressions
brackets hide delimiters. Without one, all that is left where the line ends is the answer. -/
def upTo (d : Char) (isRegular : Bool) :
    Nat → List Char → Except (List Char) (List Char × List Char)
  | 0, cs => .error cs
  | _ + 1, [] => .error []
  | n + 1, '\\' :: c :: r => do
    let (t, r) ← upTo d isRegular n r
    return (if c = d then c :: t else '\\' :: c :: t, r)
  | n + 1, c :: r => do
    if c = '\n' then throw (c :: r)
    if c = d then return ([], r)
    let k := if isRegular && c = '[' then bracketLength (r.length + 1) true r else 0
    let (t, rest) ← upTo d isRegular n (r.drop k)
    return (c :: r.take k ++ t, rest)

def delimited (isRegular : Bool) (cs : List Char) :
    Except (List Char) (Char × List Char × List Char) :=
  match cs with
  | [] => .error []
  | d :: r =>
    if d = '\\' then .error r
    else do
      let (t, r) ← upTo d isRegular (r.length + 1) r
      return (d, t, r)

def unescaped : Nat → Bool → List Char → List Char
  | 0, _, cs => cs
  | _ + 1, _, [] => []
  | n + 1, inside, '\\' :: c :: r =>
    if inside then
      match escape? (c :: r) with
      | some (b, rest) => Char.ofNat b.toNat :: unescaped n inside rest
      | none => '\\' :: unescaped n inside (c :: r)
    else if ['d', 'o', 'x', 'c', 'f', 'v', 'a', 'r'].contains c then
      match escape? (c :: r) with
      | some (b, rest) =>
        let literal := Char.ofNat b.toNat
        let isMark := "$*.[\\]^".toList.contains literal
        (if isMark then ['\\', literal] else [literal]) ++ unescaped n inside rest
      | none => '\\' :: c :: unescaped n inside r
    else '\\' :: c :: unescaped n inside r
  | n + 1, inside, c :: r =>
    c :: unescaped n (if inside then c ≠ ']' else c = '[') r

def regular (style : Regular.Style) (t left : List Char) : Except Flaw (Option Regular) :=
  if t.isEmpty then .ok none
  else match Regular.parse style (String.ofList (unescaped (t.length + 1) false t)) with
  | .ok r => .ok (some r)
  | .error .bareClass => .error (.plain Regular.Fault.bareClass.message)
  | .error f => fault left f.message

def number? (cs : List Char) : Option (Nat × List Char) :=
  let ds := cs.takeWhile Char.isDigit
  (String.ofList ds).toNat?.map (·, cs.drop ds.length)

def flagged (r : Option Regular) : List Char → Option Regular × List Char
  | 'I' :: cs => flagged (r.map (·.anyCase)) cs
  | 'M' :: cs => flagged (r.map (·.byRows)) cs
  | cs => (r, cs)

def matching (style : Regular.Style) (cs : List Char) : Except Flaw (Option Address × List Char) :=
  match delimited true cs with
  | .error left => fault left "unterminated address regex"
  | .ok (_, t, left) => do
    let (r, left) := flagged (← regular style t left) left
    return (some (.matching r), left)

def address? (style : Regular.Style) (cs : List Char) : Except Flaw (Option Address × List Char) :=
  match cs with
  | '$' :: r => .ok (some .last, r)
  | '/' :: _ => matching style cs
  | '\\' :: r => matching style r
  | cs =>
    match number? cs with
    | none => .ok (none, cs)
    | some (n, r) =>
      match skipBlanks r with
      | '~' :: r =>
        let (k, r) := (number? (skipBlanks r)).getD (0, r)
        .ok (some (.every n k), r)
      | _ => .ok (some (.line n), r)

def extent? (style : Regular.Style) (cs : List Char) :
    Except Flaw (Option Extent × List Char) := do
  match cs with
  | '+' :: r =>
    let (k, r) := (number? (skipBlanks r)).getD (0, r)
    return (some (.further k), r)
  | '~' :: r =>
    let (k, r) := (number? (skipBlanks r)).getD (0, r)
    return (some (.multiple k), r)
  | cs =>
    let (a, r) ← address? style cs
    return (a.map .address, r)

def casing? : Char → Option Casing
  | 'U' => some .upper
  | 'L' => some .lower
  | 'E' => some .asIs
  | 'u' => some .upperNext
  | 'l' => some .lowerNext
  | _ => none

def pieces : Nat → List Char → List Piece
  | 0, _ | _, [] => []
  | n + 1, '\\' :: c :: r =>
    if c.isDigit then (if c = '0' then .whole else .group (c.toNat - 48)) :: pieces n r
    else match casing? c, escape? (c :: r) with
    | some k, _ => .casing k :: pieces n r
    | none, some (b, r) => .literal [b] :: pieces n r
    | none, none => .literal (bytesOf c.toString) :: pieces n r
  | n + 1, '&' :: r => .whole :: pieces n r
  | n + 1, c :: r => .literal (bytesOf c.toString) :: pieces n r

def highestGroup (ps : List Piece) : Nat :=
  (ps.map fun p => match p with
    | .group n => n
    | _ => 0).foldl max 0

def fileName (cs : List Char) : Except Flaw (String × List Char) :=
  let cs := skipBlanks cs
  let name := cs.takeWhile (· ≠ '\n')
  let left := cs.drop name.length
  if name.isEmpty then fault (left.drop 1) "missing filename in r/R/w/W commands"
  else .ok (String.ofList name, left)

structure Flags where
  isGlobal : Bool := false
  prints : Bool := false
  nth : Option Nat := none
  anyCase : Bool := false
  byRows : Bool := false
  file : Option String := none

def flags : Nat → Flags → List Char → Except Flaw (Flags × List Char)
  | 0, f, cs => .ok (f, cs)
  | n + 1, f, cs =>
    match cs with
    | 'g' :: r =>
      if f.isGlobal then fault r "multiple \x60g' options to \x60s' command"
      else flags n { f with isGlobal := true } r
    | 'p' :: r =>
      if f.prints then fault r "multiple \x60p' options to \x60s' command"
      else flags n { f with prints := true } r
    | 'i' :: r | 'I' :: r => flags n { f with anyCase := true } r
    | 'm' :: r | 'M' :: r => flags n { f with byRows := true } r
    | 'e' :: r => flags n f r
    | 'w' :: r => do
      let (file, r) ← fileName r
      return ({ f with file := some file }, r)
    | c :: r =>
      if isBlank c then flags n f r
      else match number? (c :: r) with
      | some (k, r) =>
        if f.nth.isSome then fault r "multiple number options to \x60s' command"
        else if k = 0 then fault r "number option to \x60s' command may not be zero"
        else flags n { f with nth := some k } r
      | none => .ok (f, c :: r)
    | [] => .ok (f, [])

def endsSubstitution (cs : List Char) : Bool :=
  match cs with
  | [] => true
  | c :: _ => c = ';' || c = '\n' || c = '}' || c = '#'

def substitution (style : Regular.Style) (cs : List Char) : Except Flaw (Action × List Char) :=
  let unterminated (left : List Char) : Except Flaw (Action × List Char) :=
    fault left "unterminated \x60s' command"
  match delimited true cs with
  | .error left => unterminated left
  | .ok (d, p, r) =>
    match upTo d false (r.length + 1) r with
    | .error left => unterminated left
    | .ok (t, r) => do
      let (f, left) ← flags (r.length + 1) {} r
      if !endsSubstitution left then fault (left.drop 1) "unknown option to \x60s'"
      else
        let pattern ← regular style p left
        let replacement := pieces (t.length + 1) t
        let most := highestGroup replacement
        if pattern.any (·.groups < most) then
          fault left ("invalid reference \\" ++ toString most ++ " on \x60s' command's RHS")
        else
          let pattern := pattern.map fun r => if f.anyCase then r.anyCase else r
          let pattern := pattern.map fun r => if f.byRows then r.byRows else r
          let s : Substitution :=
            ⟨pattern, replacement, f.nth.getD 1, f.isGlobal, f.prints, f.file⟩
          return (.substitute s, left)

def exchanged : Nat → List Char → Bytes
  | 0, _ | _, [] => []
  | n + 1, '\\' :: c :: r =>
    if c = '\\' then 92 :: exchanged n r
    else match escape? (c :: r) with
    | some (b, r) => b :: exchanged n r
    | none => (if c = '\n' then [10] else 92 :: bytesOf c.toString) ++ exchanged n r
  | n + 1, c :: r => bytesOf c.toString ++ exchanged n r

def exchange (cs : List Char) : Except Flaw (Action × List Char) :=
  let unterminated (left : List Char) : Except Flaw (Action × List Char) :=
    fault left "unterminated \x60y' command"
  match delimited false cs with
  | .error left => unterminated left
  | .ok (d, p, r) =>
    match upTo d false (r.length + 1) r with
    | .error left => unterminated left
    | .ok (t, r) =>
      let source := exchanged (p.length + 1) p
      let target := exchanged (t.length + 1) t
      if source.length ≠ target.length then
        fault r "strings for \x60y' command are different lengths"
      else .ok (.exchange (source.zip target), r)

def textLines : Nat → List Char → Bytes × List Char
  | 0, cs => ([], cs)
  | _, [] => ([], [])
  | n + 1, '\\' :: r =>
    match r with
    | [] => ([], [])
    | c :: rest =>
      let (b, rest) : Bytes × List Char := match escape? r with
        | some (b, left) => ([b], left)
        | none => (bytesOf c.toString, rest)
      let (t, left) := textLines n rest
      (b ++ t, left)
  | n + 1, c :: r =>
    if c = '\n' then ([], c :: r)
    else
      let (t, left) := textLines n r
      (bytesOf c.toString ++ t, left)

def addition (f : Bytes → Action) (cs : List Char) : Except Flaw (Action × List Char) :=
  let finish (cs : List Char) : Except Flaw (Action × List Char) :=
    let (t, left) := textLines (cs.length + 1) cs
    .ok (f (t ++ [10]), left)
  match skipBlanks cs with
  | [] => fault [] "expected \\ after \x60a', \x60c' or \x60i'"
  | '\\' :: r =>
    match skipBlanks r with
    | [] => .ok (f [], [])
    | '\n' :: rest => if rest.isEmpty then .ok (f [10], []) else finish rest
    | '\\' :: rest => finish (if (escape? rest).isSome then '\\' :: rest else rest)
    | _ => finish r
  | cs => finish cs

def ended (a : Action) (cs : List Char) : Except Flaw (Action × List Char) :=
  match skipBlanks cs with
  | [] => .ok (a, [])
  | c :: r =>
    if c = ';' || c = '\n' || c = '}' || c = '#' then .ok (a, c :: r)
    else fault r "extra characters after command"

def counted (f : Nat → Action) (usual : Nat) (cs : List Char) :
    Except Flaw (Action × List Char) :=
  match number? (skipBlanks cs) with
  | some (n, r) => ended (f n) r
  | none => ended (f usual) cs

def labelled (f : String → Action) (cs : List Char) : Except Flaw (Action × List Char) :=
  let cs := skipBlanks cs
  let name := cs.takeWhile fun c => !isSpace c && c ≠ ';' && c ≠ '}'
  .ok (f (String.ofList name), cs.drop name.length)

def labelHere (cs : List Char) : Except Flaw (Action × List Char) :=
  let cs := skipBlanks cs
  let name := cs.takeWhile fun c => !isSpace c && c ≠ ';'
  if name.isEmpty then fault [] "\":\" lacks a label"
  else .ok (.label (String.ofList name), cs.drop name.length)

def withFile (f : String → Action) (cs : List Char) : Except Flaw (Action × List Char) := do
  let (file, r) ← fileName cs
  return (f file, r)

def action (style : Regular.Style) (addresses : Nat) (c : Char) (r : List Char) :
    Except Flaw (Action × List Char) :=
  match c with
  | '{' => .ok (.block 0, r)
  | '}' => if addresses ≠ 0 then fault r "\x7d doesn't want any addresses" else .ok (.blockEnd, r)
  | ':' => if addresses ≠ 0 then fault r ": doesn't want any addresses" else labelHere r
  | 's' => substitution style r
  | 'y' => do
    let (a, r) ← exchange r
    ended a r
  | 'p' => ended .print r
  | 'P' => ended .printFirst r
  | 'd' => ended .delete r
  | 'D' => ended .deleteFirst r
  | 'n' => ended .next r
  | 'N' => ended .appendNext r
  | 'h' => ended .hold r
  | 'H' => ended .holdMore r
  | 'g' => ended .fetch r
  | 'G' => ended .fetchMore r
  | 'x' => ended .swap r
  | 'z' => ended .empty r
  | '=' => ended .number r
  | 'F' => ended .fileName r
  | 'l' =>
    match number? (skipBlanks r) with
    | some (n, r) => ended (.list (some n)) r
    | none => ended (.list none) r
  | 'q' =>
    if addresses = 2 then fault r "command only uses one address" else counted .quit 0 r
  | 'Q' =>
    if addresses = 2 then fault r "command only uses one address" else counted .leave 0 r
  | 'a' => addition .append r
  | 'i' => addition .insert r
  | 'c' => addition .change r
  | 'r' => withFile .readFile r
  | 'R' => withFile .readLine r
  | 'w' => withFile .write r
  | 'W' => withFile .writeFirst r
  | 'b' => labelled (.jump .always) r
  | 't' => labelled (.jump .ifReplaced) r
  | 'T' => labelled (.jump .unlessReplaced) r
  | 'v' => ended .nothing (r.dropWhile fun c => c ≠ ';' && c ≠ '\n')
  | c => fault r ("unknown command: \x60" ++ c.toString ++ "'")

def isLineNought (a : Option Address) : Bool := a = some (.line 0)

def command (style : Regular.Style) (cs : List Char) : Except Flaw (Command × List Char) := do
  if cs.head? = some '+' || cs.head? = some '~' then
    fault (cs.drop 2) "invalid usage of +N or ~N as first address"
  let (first, cs) ← address? style cs
  let spaced := skipBlanks cs
  let (extent, cs) ← match first, spaced with
    | some _, ',' :: r => do
      let (e, r') ← extent? style (skipBlanks r)
      if e.isNone then fault ((skipBlanks r).drop 1) "unexpected \x60,'" else pure (e, r')
    | _, cs => pure (none, cs)
  let cs := skipBlanks cs
  let isRangeToMatch := match extent with
    | some (.address (.matching _)) => true
    | _ => false
  if isLineNought first && !isRangeToMatch then
    fault (cs.drop 1) "invalid usage of line address 0"
  let (inverted, cs) := match cs with
    | '!' :: r => (true, skipBlanks r)
    | cs => (false, cs)
  let addresses := first.toList.length + extent.toList.length
  match cs with
  | [] => fault [] "missing command"
  | '!' :: r => fault r "multiple \x60!'s"
  | c :: r => do
    let (action, r) ← action style addresses c r
    return (⟨first, extent, inverted, action⟩, r)

def commands (style : Regular.Style) : Nat → Nat → List Char → Except Flaw Program
  | 0, _, _ => .ok []
  | n + 1, depth, cs =>
    match cs.dropWhile fun c => isSpace c || c = ';' with
    | [] => if depth = 0 then .ok [] else .error .openBlock
    | '#' :: r => commands style n depth (r.dropWhile (· ≠ '\n'))
    | cs => do
      let (c, r) ← command style cs
      match c.action, depth with
      | .blockEnd, 0 => fault (cs.drop 1) "unexpected \x60\x7d'"
      | .blockEnd, k + 1 => do
        let (_, r) ← ended .blockEnd r
        return c :: (← commands style n k r)
      | .block _, k => return c :: (← commands style n (k + 1) r)
      | _, k => return c :: (← commands style n k r)

def blockSize (depth : Nat) : Program → Nat
  | [] => 0
  | c :: cs =>
    match c.action, depth with
    | .blockEnd, 0 => 1
    | .blockEnd, k + 1 => 1 + blockSize k cs
    | .block _, k => 1 + blockSize (k + 1) cs
    | _, k => 1 + blockSize k cs

def sized : Program → Program
  | [] => []
  | c :: cs =>
    match c.action with
    | .block _ => { c with action := .block (blockSize 0 cs) } :: sized cs
    | _ => c :: sized cs

def missingLabel? (p : Program) : Option String :=
  p.findSome? fun c => match c.action with
    | .jump _ name => if (Program.find? p name).isNone then some name else none
    | _ => none

def parse (style : Regular.Style) (text : String) : Except Flaw Program := do
  let p := sized (← commands style (text.length + 1) 0 text.toList)
  match missingLabel? p with
  | some name => throw (.noLabel name)
  | none => return p

end Freshen.Shell.Edit
