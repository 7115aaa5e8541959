import Freshen.Shell.Lexeme
import Freshen.Text.Pieces
/-! Reading the commands of a shell script, a line at a time. -/

namespace Freshen.Shell.Grammar

open Lexeme

def keywords (d : Dialect) : List String :=
  ["!", "if", "then", "else", "elif", "fi", "for", "in", "while", "until", "do", "done",
    "case", "esac", "\x7b", "\x7d"] ++
    if d = .bash then ["function", "[[", "]]", "time", "select", "coproc"] else []

def closers : List String := ["then", "else", "elif", "fi", "do", "done", "esac", "\x7d"]

def keyword? (d : Dialect) : Token → Option String
  | .word w => w.bare?.filter (keywords d).contains
  | _ => none

def asWord : Token → Token
  | .word w => .word [.quoted w.typed]
  | t => t

def isOperator (t : Token) (s : String) : Bool :=
  match t with
  | .operator o => o = s
  | _ => false

def isKeyword (t : Token) (s : String) : Bool :=
  match t with
  | .word w => w.bare? = some s
  | _ => false

def isCloser : Token → Bool
  | .finish => true
  | .operator o => [")", ";;", ";&", ";;&"].contains o
  | .word w => w.bare?.any closers.contains
  | _ => false

def tokenPastLines (rs : Readers) : Nat → Reading Token
  | 0 => return .finish
  | n + 1 => do
    match ← token rs n with
    | .newline => tokenPastLines rs n
    | t => return t

def expect (rs : Readers) (n : Nat) (s : String) : Reading Unit := do
  let t ← tokenPastLines rs n
  if isKeyword t s || isOperator t s then return else unexpected t (some s)

def hereLines (strips : Bool) (delimiter : List Char) :
    Nat → List Char → List Char → Nat → List Char × List Char × Nat × Bool
  | 0, cs, acc, k => (acc, cs, k, false)
  | _, [], acc, k => (acc, [], k, false)
  | n + 1, cs, acc, k =>
    let line := cs.takeWhile (· ≠ '\n')
    let after := cs.drop line.length
    let shown := if strips then line.dropWhile (· = '\t') else line
    if shown = delimiter then (acc, after.drop 1, k + 1, true)
    else if after.isEmpty then (shown.reverseAux acc, [], k, false)
    else hereLines strips delimiter n (after.drop 1) ('\n' :: shown.reverseAux acc) (k + 1)

def hereText (rs : Readers) (n : Nat) (strips : Bool) (delimiter : Word) : Reading Word := do
  let s ← get
  let line := s.rest.takeWhile (· ≠ '\n')
  let below := (s.rest.drop line.length).drop 1
  let typed := delimiter.typed
  let (acc, after, k, closed) := hereLines strips typed.toList n below [] 0
  set { s with
    rest := line ++ '\n' :: after
    removed := s.removed + k
    unended := if closed then s.unended
      else (typed, s.line + s.removed, s.line + s.removed + k) :: s.unended }
  let text := String.ofList acc.reverse
  if delimiter.bare?.isSome then quotedText rs n text else return [.quoted text]

def redirect (rs : Readers) (n : Nat) (descriptor : Option Nat) (o : String) :
    Reading Redirect := do
  let s ← get
  match ← token rs n with
  | .word w =>
    let both (f : Word → Direction) : Reading Redirect := return .mk 1 (f w)
    let with_ (standard : Nat) (d : Direction) : Reading Redirect :=
      return .mk (descriptor.getD standard) d
    match o with
    | "<" => with_ 0 (.read w)
    | "<>" => with_ 0 (.both w)
    | "<&" => with_ 0 (.duplicate w)
    | "<<" => with_ 0 (.text (← hereText rs n false w))
    | "<<-" => with_ 0 (.text (← hereText rs n true w))
    | "<<<" => with_ 0 (.line w)
    | ">>" => with_ 1 (.append w)
    | ">|" => with_ 1 (.overwrite w)
    | ">&" =>
      let isDescriptor := w.bare?.any fun t => t = "-" || t.isNat
      if s.dialect = .bash && descriptor.isNone && w.bare?.isSome && !isDescriptor then
        both (.writeAll · false)
      else with_ 1 (.duplicate w)
    | "&>" => both (.writeAll · false)
    | "&>>" => both (.writeAll · true)
    | _ => with_ 1 (.write w)
  | t => unexpected t none

def redirects (rs : Readers) : Nat → List Redirect → Reading (List Redirect)
  | 0, acc => return acc.reverse
  | n + 1, acc => do
    match ← token rs n with
    | .direction d o => redirects rs n ((← redirect rs n d o) :: acc)
    | t =>
      putBack t
      return acc.reverse

def splitOnce? (mark : List Char) : List Char → Option (List Char × List Char)
  | [] => none
  | c :: r =>
    if mark.isPrefixOf (c :: r) then some ([], (c :: r).drop mark.length)
    else (splitOnce? mark r).map fun (a, b) => (c :: a, b)

def splitAt? (mark : String) : Word → Option (Word × Word)
  | [] => none
  | .literal s :: w =>
    match splitOnce? mark.toList s.toList with
    | some (a, b) =>
      some (if a.isEmpty then [] else [.literal (String.ofList a)],
        if b.isEmpty then w else .literal (String.ofList b) :: w)
    | none => (splitAt? mark w).map fun (a, b) => (.literal s :: a, b)
  | p :: w => (splitAt? mark w).map fun (a, b) => (p :: a, b)

def assignment? (d : Dialect) (w : Word) : Option Assignment :=
  match w with
  | .literal s :: rest =>
    let name := s.toList.takeWhile isNamePart
    let after := s.toList.drop name.length
    let value (cs : List Char) : Word :=
      if cs.isEmpty then rest else .literal (String.ofList cs) :: rest
    if !isName name then none
    else
      let name := String.ofList name
      match d, after with
      | _, '=' :: r => some (.value name none false (value r))
      | .bash, '+' :: '=' :: r => some (.value name none true (value r))
      | .bash, '[' :: r =>
        let w := value r
        match splitAt? "]=" w, splitAt? "]+=" w with
        | some (i, v), _ => some (.value name (some i) false v)
        | none, some (i, v) => some (.value name (some i) true v)
        | none, none => none
      | _, _ => none
  | _ => none

structure Draft where
  line : Nat
  assigns : List Assignment := []
  words : List Word := []
  redirects : List Redirect := []

def declaring : List String := ["declare", "typeset", "local", "export", "readonly"]

def items (rs : Readers) (line : Nat) :
    Nat → List (Option Word × Word) → Reading (List (Option Word × Word))
  | 0, acc => return acc.reverse
  | n + 1, acc => do
    match ← tokenPastLines rs n with
    | .operator ")" => return acc.reverse
    | .word w =>
      let item : Option Word × Word := match w with
        | .literal s :: rest =>
          match s.toList with
          | '[' :: r =>
            let w : Word := if r.isEmpty then rest else .literal (String.ofList r) :: rest
            match splitAt? "]=" w with
            | some (i, v) => (some i, v)
            | none => (none, .literal s :: rest)
          | _ => (none, w)
        | _ => (none, w)
      items rs line n (item :: acc)
    | .finish => throw (.unclosed ")" line)
    | t => unexpected t none

def aliased (rs : Readers) : Nat → Token → Reading (Token × Bool)
  | 0, t => return (t, false)
  | n + 1, t => do
    let s ← get
    if s.aliases.isEmpty then return (t, false)
    match t with
    | .word [.literal name] =>
      match (s.aliases.find? (·.1 = name)).map (·.2) with
      | none => return (t, false)
      | some value =>
        let left := s.rest.length
        if s.patience = 0 || s.active.any (fun a => a.1 = name && a.2 ≤ left) then
          return (t, false)
        else
          set { s with
            rest := value.toList ++ s.rest
            patience := s.patience - 1
            active := (name, left) :: s.active.filter (·.2 ≤ left) }
          let endsBlank := value.toList.getLast?.any isBlank
          let (t, again) ← aliased rs n (← token rs n)
          return (t, again || endsBlank)
    | t => return (t, false)

def draft (rs : Readers) : Nat → Bool → Draft → Reading Draft
  | 0, _, d => return d
  | n + 1, looksUp, d => do
    let (t, looksUp) ← if looksUp then aliased rs n (← token rs n)
      else pure (← token rs n, false)
    let dialect := (← get).dialect
    match t with
    | .direction k o =>
      let r ← redirect rs n k o
      draft rs n looksUp { d with redirects := r :: d.redirects }
    | .word w =>
      let declares := ((d.words.getLast?).bind Word.bare?).any declaring.contains
      match if d.words.isEmpty || declares then assignment? dialect w else none with
      | some (.value name none appends []) =>
        if dialect = .bash && (← follows "(") then
          let line := (← get).line
          drop 1
          let list ← items rs line n []
          let words := if d.words.isEmpty then [] else [.literal name] :: d.words
          draft rs n false { d with
            assigns := .list name appends list :: d.assigns
            words := if d.words.isEmpty then d.words else words }
        else if d.words.isEmpty then
          draft rs n true { d with assigns := .value name none appends [] :: d.assigns }
        else draft rs n false { d with words := w :: d.words }
      | some a =>
        if d.words.isEmpty then draft rs n true { d with assigns := a :: d.assigns }
        else draft rs n false { d with words := w :: d.words }
      | none => draft rs n looksUp { d with words := w :: d.words }
    | t =>
      putBack t
      return d

def Draft.command (d : Draft) : Command :=
  .simple d.line d.assigns.reverse d.words.reverse d.redirects.reverse

def wordList (rs : Readers) : Nat → List Word → Reading (List Word)
  | 0, acc => return acc.reverse
  | n + 1, acc => do
    match ← token rs n with
    | .word w => wordList rs n (w :: acc)
    | t =>
      putBack t
      return acc.reverse

def patterns (rs : Readers) : Nat → Token → List Word → Reading (List Word)
  | 0, _, acc => return acc.reverse
  | n + 1, t, acc => do
    match t with
    | .word w =>
      match ← token rs n with
      | .operator "|" => patterns rs n (← token rs n) (w :: acc)
      | .operator ")" => return (w :: acc).reverse
      | t => unexpected (asWord t) (some ")")
    | t =>
      if (← isBash) || (t matches .finish) then
        unexpected t (if t matches .finish then some ")" else none)
      -- Anything may stand for a pattern here, as long as what follows it is right.
      match ← token rs n with
      | .operator "|" => patterns rs n (← token rs n) ([] :: acc)
      | .operator ")" => return ([] :: acc).reverse
      | t => unexpected (asWord t) (some ")")

def reserved : List String :=
  ["break", ":", "continue", ".", "eval", "exec", "exit", "export", "readonly", "return", "set",
    "shift", "times", "trap", "unset"]

def cutAt (c : Char) (w : Word) : List Word :=
  w.foldr (fun p ws =>
    let put (q : Part) : List Word → List Word
      | v :: vs => (q :: v) :: vs
      | [] => [[q]]
    match p with
    | .quoted s =>
      match (Text.pieces c s.toList).map String.ofList with
      | [] | [_] => put p ws
      | first :: more =>
        let last := more.getLastD ""
        let middle := more.dropLast
        [.quoted first] :: (middle.map fun m => [Part.quoted m]) ++ put (.quoted last) ws
    | p => put p ws) [[]]

def unaryOperators : List String :=
  ["-a", "-b", "-c", "-d", "-e", "-f", "-g", "-h", "-k", "-n", "-o", "-p", "-r", "-s", "-t", "-u",
    "-v", "-w", "-x", "-z", "-G", "-L", "-N", "-O", "-R", "-S"]

def binaryOperators : List String :=
  ["=", "==", "!=", "=~", "<", ">", "-eq", "-ne", "-lt", "-le", "-gt", "-ge", "-ef", "-nt", "-ot"]

def expression (rs : Readers) : Nat → Nat → List Part → Reading Word
  | 0, _, acc => return acc.reverse
  | n + 1, depth, acc => do
    let w ← parts rs n .bare []
    let acc := w.reverse ++ acc
    match ← peek with
    | some c =>
      if c = '(' || c = '|' || (c = ')' && 0 < depth) || (0 < depth && isBlank c) then
        drop 1
        expression rs n (if c = '(' then depth + 1 else if c = ')' then depth - 1 else depth)
          (.literal c.toString :: acc)
      else return acc.reverse
    | none => return acc.reverse

def conditionFault (before : String) (t : Token) (remark : String → String) : Reading α := do
  let raw ← textSince (← get).origin
  match t with
  | .newline => throw (.inCondition (remark "newline") before true)
  | .operator o => throw (.inCondition (remark o) (String.ofList (o.toList.reverse.take 1)) false)
  | .finish => throw (.unexpected t raw none)
  | _ => throw (.inCondition (remark raw) raw false)

def isConditionEnd (t : Token) : Bool :=
  isKeyword t "]]" || isOperator t "&&" || isOperator t "||" || isOperator t ")"

def operand (rs : Readers) (n : Nat) (before kind : String) : Reading Word := do
  match ← token rs n with
  | .word w =>
    if isKeyword (.word w) "]]" then
      conditionFault before (.word w) fun t =>
        s!"unexpected argument \x60{t}' to conditional {kind} operator"
    else return w
  | t =>
    conditionFault before t fun t =>
      s!"unexpected argument \x60{t}' to conditional {kind} operator"

mutual

def anyQuestion (rs : Readers) : Nat → Reading Question
  | 0 => throw .unterminatedQuote
  | n + 1 => do
    let a ← allQuestions rs n
    match ← tokenPastLines rs n with
    | .operator "||" => return .either a (← anyQuestion rs n)
    | t =>
      putBack t
      return a

def allQuestions (rs : Readers) : Nat → Reading Question
  | 0 => throw .unterminatedQuote
  | n + 1 => do
    let a ← oneQuestion rs n
    match ← tokenPastLines rs n with
    | .operator "&&" => return .both a (← allQuestions rs n)
    | t =>
      putBack t
      return a

def oneQuestion (rs : Readers) : Nat → Reading Question
  | 0 => throw .unterminatedQuote
  | n + 1 => do
    let start ← tokenPastLines rs n
    let raw ← textSince (← get).origin
    match start with
    | .operator "(" =>
      let t ← tokenPastLines rs n
      if isKeyword t "]]" then conditionFault "" t fun _ => "expected \x60)'"
      putBack t
      let q ← anyQuestion rs n
      match ← tokenPastLines rs n with
      | .operator ")" => return q
      | t => conditionFault raw t fun t => s!"unexpected token \x60{t}', expected \x60)'"
    | .word w =>
      let text := w.bare?.getD ""
      if text = "!" then return .negated (← oneQuestion rs n)
      else if text = "]]" then conditionFault "" start fun _ => ""
      else if unaryOperators.contains text then
        return .unary text (← operand rs n raw "unary")
      else
        let t ← token rs n
        let operator : Option String := match t with
          | .word v => v.bare?.filter binaryOperators.contains
          | .direction none o => if o = "<" || o = ">" then some o else none
          | _ => none
        match operator with
        | some o =>
          let isMissing ← if o = "=~" then
              skip n
              pure ((← follows "]]") || (← follows "\n"))
            else pure true
          if isMissing then return .binary w o (← operand rs n o "binary")
          else return .binary w o (← expression rs n 0 [])
        | none =>
          if isConditionEnd t then
            putBack t
            return .word w
          else conditionFault raw t fun x => match t with
            | .word _ => "conditional binary operator expected"
            | _ => s!"unexpected token \x60{x}', conditional binary operator expected"
    | t =>
      let name := if t matches .finish then "EOF" else raw
      if t matches .finish then throw (.inCondition
        s!"unexpected token \x60{name}' in conditional command" "" false)
      conditionFault raw t fun t => s!"unexpected token \x60{t}' in conditional command"

end

mutual

def readers (n : Nat) : Readers :=
  match n with
  | 0 => ⟨throw .unterminatedQuote, throw .unterminatedQuote⟩
  | n + 1 => {
      enclosed := do
        let before ← get
        set { before with back := none }
        let c ← list n true
        let t ← token (readers n) n
        if isOperator t ")" then
          modify fun s => { s with back := before.back }
          return c
        else if before.dialect = .bash && (t matches .finish) then
          throw (.unclosed ")" (← get).line)
        else unexpected t (some ")")
      whole := list n true }

def list (n : Nat) (mayBeEmpty : Bool) : Reading Command := do
  match n with
  | 0 => throw .unterminatedQuote
  | n + 1 =>
    let rs := readers n
    let t ← tokenPastLines rs n
    putBack t
    if (t matches .finish) || (mayBeEmpty && isCloser t) then return .nothing
    let c ← andOr n
    match ← token rs n with
    | .operator "&" => return .sequence (.background c) (← list n true)
    | .operator ";" | .newline => return .sequence c (← list n true)
    | t =>
      putBack t
      return c

def andOr (n : Nat) : Reading Command := do
  match n with
  | 0 => throw .unterminatedQuote
  | n + 1 => andOrRest n (← pipeline n)

def andOrRest (n : Nat) (c : Command) : Reading Command := do
  match n with
  | 0 => return c
  | n + 1 =>
    match ← token (readers n) n with
    | .operator "&&" => andOrRest n (.both c (← pipeline n))
    | .operator "||" => andOrRest n (.either c (← pipeline n))
    | t =>
      putBack t
      return c

def pipeline (n : Nat) : Reading Command := do
  match n with
  | 0 => throw .unterminatedQuote
  | n + 1 =>
    let rs := readers n
    let t ← tokenPastLines rs n
    let isBash ← isBash
    if isBash && isKeyword t "!" then
      let t ← peekToken rs n
      match t with
      | .operator ";" | .newline | .finish => return .negated .nothing
      | _ => return .negated (← pipeline n)
    else if isBash && isKeyword t "time" then return .timed (← pipeline n)
    else
      let negates := isKeyword t "!"
      if !negates then putBack t
      let c ← stages n []
      return if negates then .negated c else c

def stages (n : Nat) (acc : List Command) : Reading Command := do
  match n with
  | 0 => throw .unterminatedQuote
  | n + 1 =>
    let c ← command n (!acc.isEmpty)
    match ← token (readers n) n with
    | .operator "|" => stages n (c :: acc)
    | .operator "|&" =>
      stages n (.redirected c [.mk 2 (.duplicate [.literal "1"])] :: acc)
    | t =>
      putBack t
      return match acc with
        | [] => c
        | acc => .pipe (c :: acc).reverse

def command (n : Nat) (pastLines : Bool) : Reading Command := do
  match n with
  | 0 => throw .unterminatedQuote
  | n + 1 =>
    let rs := readers n
    let t ← if pastLines then tokenPastLines rs n else token rs n
    let (t, again) ← aliased rs n t
    let s ← get
    let body (opening closing : String) : Reading Command := do
      expect rs n opening
      let c ← list n false
      expect rs n closing
      return c
    let redirected (c : Command) : Reading Command := do
      let r ← redirects rs n []
      return if r.isEmpty then c else .redirected c r
    match t with
    | .operator "(" =>
      if s.dialect = .bash && (← follows "(") then
        let before ← get
        drop 1
        try
          let w ← sum rs n
          redirected (.arithmetic before.line w)
        catch e =>
          if (← get).rest.isEmpty then throw e
          set before
          let c ← list n false
          expect rs n ")"
          redirected (.subshell c)
      else
        let c ← list n false
        expect rs n ")"
        redirected (.subshell c)
    | .word w =>
      match keyword? s.dialect t with
      | some "\x7b" =>
        let c ← list n false
        expect rs n "\x7d"
        redirected c
      | some "if" => redirected (← conditional n)
      | some "while" =>
        let c ← list n false
        redirected (.loop false c (← body "do" "done"))
      | some "until" =>
        let c ← list n false
        redirected (.loop true c (← body "do" "done"))
      | some "for" | some "select" => redirected (← each n)
      | some "case" => redirected (← choice n)
      | some "function" =>
        match ← token rs n with
        | .word name =>
          let before ← get
          let t ← tokenPastLines rs n
          if isOperator t "(" && isOperator (← token rs n) ")" then pure () else set before
          return .define s.line name.typed (← command n true)
        | t => unexpected t none
      | some "[[" =>
        let q ← anyQuestion rs n
        let t ← tokenPastLines rs n
        if isKeyword t "]]" then redirected (.question s.line q)
        else conditionFault "" t fun x =>
          "syntax error in conditional expression" ++ match t with
            | .word _ => ""
            | _ => s!": unexpected token \x60{x}'"
      | some _ => unexpected t none
      | none =>
        putBack t
        let d ← draft rs n again { line := s.line }
        match ← token rs n with
        | .operator "(" =>
          match d.assigns, d.words, d.redirects with
          | [], [_], [] =>
            let t ← token rs n
            if !isOperator t ")" then unexpected (asWord t) (some ")")
            let name := w.typed
            if s.dialect = .dash &&
                (w.bare?.isNone || !isName name.toList || reserved.contains name) then
              throw .badFunctionName
            if s.dialect = .bash then
              let t ← tokenPastLines rs n
              putBack t
              let isCompound := isOperator t "(" || (keyword? .bash t).any fun k =>
                ["\x7b", "if", "while", "until", "for", "case", "[[", "select"].contains k
              if !isCompound then unexpected t none
            return .define s.line name (← command n true)
          | _, _, _ => unexpected (.operator "(") none
        | t =>
          putBack t
          return d.command
    | .direction .. =>
      putBack t
      return (← draft rs n true { line := s.line }).command
    | t => unexpected t none

def conditional (n : Nat) : Reading Command := do
  match n with
  | 0 => throw .unterminatedQuote
  | n + 1 =>
    let rs := readers n
    let c ← list n false
    expect rs n "then"
    let yes ← list n false
    let t ← token rs n
    if isKeyword t "elif" then return .ifThen c yes (← conditional n)
    else if isKeyword t "else" then
      let no ← list n false
      expect rs n "fi"
      return .ifThen c yes no
    else if isKeyword t "fi" then return .ifThen c yes .nothing
    else unexpected t (some "fi")

def each (n : Nat) : Reading Command := do
  match n with
  | 0 => throw .unterminatedQuote
  | n + 1 =>
    let rs := readers n
    let line := (← get).line
    let body : Reading Command := do
      let t ← tokenPastLines rs n
      let closing ← if isKeyword t "do" then pure "done"
        else if isKeyword t "\x7b" && (← isBash) then pure "\x7d"
        else unexpected t (some "do")
      let c ← list n false
      expect rs n closing
      return c
    match ← token rs n with
    | .operator "(" =>
      if (← isBash) && (← follows "(") then
        drop 1
        let w ← sum rs n
        match cutAt ';' w with
        | [a, b, c] =>
          let t ← tokenPastLines rs n
          if !isOperator t ";" then putBack t
          return .forCount line a b c (← body)
        | _ => unexpected (.operator "((") none
      else if ← isBash then unexpected (.operator "(") none
      else throw .badLoopVariable
    | .word w =>
      let isBash ← isBash
      let name := w.bare?.getD ""
      if !isBash && !isName name.toList then throw .badLoopVariable
      let typed ← textSince (← get).origin
      let name := if isName name.toList then name else typed
      let t ← token rs n
      if isKeyword t "\x7b" then unexpected t (some "do")
      putBack t
      let t ← tokenPastLines rs n
      if isKeyword t "in" then
        let ws ← wordList rs n []
        match ← token rs n with
        | .operator ";" | .newline => return .forEach line name (some ws) (← body)
        | t => unexpected t none
      else
        if !isOperator t ";" then putBack t
        return .forEach line name none (← body)
    | t => if ← isBash then unexpected t none else throw .badLoopVariable

def choice (n : Nat) : Reading Command := do
  match n with
  | 0 => throw .unterminatedQuote
  | n + 1 =>
    let rs := readers n
    let line := (← get).line
    match ← token rs n with
    | .word w =>
      expect rs n "in"
      return .choose line w (← branches n)
    | t => unexpected t (some "word")

def branches (n : Nat) : Reading Command := do
  match n with
  | 0 => throw .unterminatedQuote
  | n + 1 =>
    let rs := readers n
    let t ← tokenPastLines rs n
    if isKeyword t "esac" then return .nothing
    let t ← if isOperator t "(" then token rs n else pure t
    if (← isBash) && (t matches .finish) then unexpected t none
    let ps ← patterns rs n t []
    let body ← list n true
    match ← tokenPastLines rs n with
    | .operator ";;" => return .branch ps body .done (← branches n)
    | .operator ";&" => return .branch ps body .fallThrough (← branches n)
    | .operator ";;&" => return .branch ps body .searchOn (← branches n)
    | t =>
      if isKeyword t "esac" then return .branch ps body .done .nothing
      else unexpected t (some ";;")

end

def lineRest (n : Nat) : Nat → Reading Command
  | 0 => return .nothing
  | k + 1 => do
    let rs := readers n
    match ← token rs n with
    | .newline => return .nothing
    | .finish =>
      putBack .finish
      return .nothing
    | t =>
      putBack t
      let c ← andOr n
      match ← token rs n with
      | .operator "&" => return .sequence (.background c) (← lineRest n k)
      | .operator ";" => return .sequence c (← lineRest n k)
      | .newline => return c
      | .finish =>
        putBack .finish
        return c
      | t => unexpected t none

def depth (cs : List Char) : Nat := 16 * cs.length + 64

def line? (n : Nat) : Reading (Option Command) := do
  let t ← tokenPastLines (readers n) n
  if t matches .finish then return none
  putBack t
  return some (← lineRest n n)

end Grammar

namespace Source

def ofText (d : Dialect) (text : String) : Source :=
  let cs := text.toList
  { dialect := d
    rest := if d = .bash && cs.getLast? ≠ some '\n' && !cs.isEmpty then cs ++ ending cs else cs }
where
  ending (cs : List Char) : List Char :=
    if (cs.reverse.takeWhile (· = '\\')).length % 2 = 1 then ['\\', '\n'] else ['\n']

end Source

namespace Fault

def quotedToken (d : Dialect) : Token → String
  | .finish => "end of file"
  | .newline => "newline"
  | .direction .. => "redirection"
  | .operator o => "\"" ++ o ++ "\""
  | t =>
    match Grammar.keyword? d t with
    | some k => "\"" ++ k ++ "\""
    | none => "word"

def expectation : Option String → String
  | none => ""
  | some "word" => " (expecting word)"
  | some e => " (expecting \"" ++ e ++ "\")"

def message : Fault → String
  | unterminatedQuote => "Unterminated quoted string"
  | missingBrace => "Missing '\x7d'"
  | missingParentheses => "Missing '))'"
  | openBackquote => "EOF in backquote substitution"
  | badLoopVariable => "Bad for loop variable"
  | badFunctionName => "Bad function name"
  | unexpected t _ e => quotedToken .dash t ++ " unexpected" ++ expectation e
  | unclosed c _ => "Missing '" ++ c ++ "'"
  | inCondition remark .. => remark
  | noted text => text

/-- What is wrong, as the other dialect says it: a line number and a text for each complaint. The
number of the last line is given, and the text of each. -/
def remarks (line : Nat) (lines : List String) : Fault → List (Nat × String)
  | unclosed c n => [(n, s!"unexpected EOF while looking for matching \x60{c}'")]
  | unexpected .finish _ _ => [(line, "syntax error: unexpected end of file")]
  | unexpected t raw _ =>
    let (line, raw) := match t with
      | .newline => (line - 1, "newline")
      | .operator o => (line, o)
      | _ => (line, raw)
    [(line, s!"syntax error near unexpected token \x60{raw}'"),
      (line, "\x60" ++ lines.getD (line - 1) "" ++ "'")]
  | inCondition remark "" _ => [(line, remark), (line, "syntax error: unexpected end of file")]
  | inCondition remark near isPast =>
    let line := if isPast then line - 1 else line
    (if remark = "" then [] else [(line, remark)]) ++
      [(line, s!"syntax error near \x60{near}'"), (line, "\x60" ++ lines.getD (line - 1) "" ++ "'")]
  | f => [(line, "syntax error: " ++ f.message)]

end Fault
end Freshen.Shell
