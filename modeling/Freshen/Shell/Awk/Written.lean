import Freshen.Shell.Awk.Written.Expression
/-! Programs as they are written. A name is a table if it is used as one anywhere; a name that is
only handed on to a function is what the function takes it for. -/

namespace Freshen.Shell.Awk

namespace Draft

def terminator : Reading Unit := do
  match ← peek with
  | .mark ";" | .lineEnd => advance
  | .mark "\x7d" => return
  | _ => unexpected

def optional (n : Nat) : Reading (Option Expr) := do
  if beginsExpression (← peek) then return some (← expression n) else return none

def sink? (n : Nat) : Reading (Option (Sink × Expr)) := do
  match ← peek with
  | .sink s =>
    advance
    let e ← expression n
    return some (if s = "|" then .command else .file (s = ">>"), e)
  | _ => return none

def printed (n : Nat) : Reading (List Expr) := do
  if !beginsExpression (← peek) then
    -- Nothing may stand between parentheses, too.
    return []
  else if isMark (← peek) "(" && isMark (← second) ")" then
    advance
    advance
    return []
  else match ← expressions n with
  | [.tuple es] => return es
  | es => return es

def simple (n : Nat) : Reading Statement := do
  match ← peek with
  | .word "print" =>
    advance
    let es ← printed n
    return .print es (← sink? n)
  | .word "printf" =>
    advance
    let es ← printed n
    if es.isEmpty then fail .nothingPrinted
    return .printFormat es (← sink? n)
  | .word "next" =>
    let s ← get
    if !s.isMain then fail (.misplaced "next")
    advance
    return .next
  | .word "nextfile" =>
    let s ← get
    if !s.isMain then fail (.misplaced "nextfile")
    advance
    return .nextFile
  | .word "break" =>
    if (← get).loops = 0 then fail (.noLoop "break")
    advance
    return .break
  | .word "continue" =>
    if (← get).loops = 0 then fail (.noLoop "continue")
    advance
    return .continue
  | .word "exit" =>
    advance
    return .exit (← optional n)
  | .word "return" =>
    if (← get).current.isNone then fail .noFunction
    advance
    return .return (← optional n)
  | .word "delete" =>
    advance
    match ← peek with
    | .name x =>
      let name ← table x
      advance
      if isMark (← peek) "[" then
        advance
        let es ← expressions n
        expect "]"
        return .delete name (some (subscript es))
      else return .delete name none
    | _ => unexpected
  | _ => return .evaluate (← expression n)

def looping (body : Reading α) : Reading α := do
  modify fun s => { s with loops := s.loops + 1 }
  let a ← body
  modify fun s => { s with loops := s.loops - 1 }
  return a

def condition (n : Nat) : Reading Expr := do
  expect "("
  let e ← expression n
  expect ")"
  return e

def keysOf? : Reading (Option (String × String)) := do
  let ts : List Token := ((← get).tokens.take 4).map (·.1)
  match ts with
  | [.name x, .word "in", .name a, .mark ")"] =>
    advance
    advance
    advance
    advance
    return some (x, a)
  | _ => return none

def expressionBefore (n : Nat) (m : String) : Reading Statement := do
  let s ← if isMark (← peek) m then pure .nothing else .evaluate <$> expression n
  expect m
  return s

mutual

def statement : Nat → Reading Statement
  | 0 => unexpected
  | n + 1 => do
    match ← peek with
    | .mark "\x7b" => block n
    | .mark ";" | .lineEnd =>
      advance
      return .nothing
    | .word "if" =>
      advance
      let c ← condition n
      skipLines
      let a ← statement n
      if isWord (← peek) "else" then
        advance
        return .ifElse c a (← statement n)
      else return .ifElse c a .nothing
    | .word "while" =>
      advance
      let c ← condition n
      if isMark (← peek) ";" then
        advance
        return .while (some c) .nothing .nothing
      skipLines
      return .while (some c) .nothing (← looping (statement n))
    | .word "do" =>
      advance
      let s ← looping (statement n)
      if !isWord (← peek) "while" then unexpected
      advance
      let c ← condition n
      terminator
      return .doWhile s c
    | .word "for" =>
      advance
      expect "("
      match ← keysOf? with
      | some (x, a) =>
        let name ← nameOf x
        setKind name .plain
        let t ← table a
        skipLines
        return .forKeys (.variable_ name) t (← looping (statement n))
      | none =>
        let first ← expressionBefore n ";"
        let c ← if isMark (← peek) ";" then pure none else some <$> expression n
        expect ";"
        let step ← expressionBefore n ")"
        skipLines
        return .block [first, .while c step (← looping (statement n))]
    | _ =>
      let s ← simple n
      terminator
      return s

def block : Nat → Reading Statement
  | 0 => unexpected
  | n + 1 => do
    expect "\x7b"
    return .block (← statements n)

def statements : Nat → Reading (List Statement)
  | 0 => unexpected
  | n + 1 => do
    if isMark (← peek) "\x7d" then
      advance
      return []
    else
      let s ← statement n
      return s :: (← statements n)

end

def parameters : Nat → List Entry → Reading (List Entry)
  | 0, _ => unexpected
  | n + 1, es => do
    match ← peek with
    | .name x =>
      if es.any (·.name = x) then fail (.repeatedParameter x)
      advance
      let es := es ++ [⟨x, none⟩]
      if isMark (← peek) "," then
        advance
        parameters n es
      else return es
    | _ => if es.isEmpty then return es else unexpected

def function (n : Nat) : Reading Unit := do
  match ← peek with
  | .call f =>
    let k ← functionNumber f
    if (((← get).functions[k]?).bind (·.body)).isSome then fail (.redefined f)
    advance
    expect "("
    let es ← parameters n []
    expect ")"
    skipLines
    modify fun s => { s with current := some k, own := es }
    let body ← block n
    modify fun s => { s with
      current := none
      own := []
      functions := s.functions.modify k fun c =>
        { c with parameters := s.own, body := some body } }
  | _ => unexpected

def addRule (p : Pattern) (s : Statement) : Reading Unit :=
  modify fun d => { d with rules := ⟨p, s⟩ :: d.rules }

def item (n : Nat) : Reading Unit := do
  match ← peek with
  | .word "function" =>
    advance
    function n
  | .word "BEGIN" =>
    advance
    addRule .atStart (← block n)
  | .word "END" =>
    advance
    addRule .atEnd (← block n)
  | t =>
    modify fun s => { s with isMain := true }
    let pattern ← if isMark t "\x7b" then pure Pattern.always else do
      let first ← expression n
      if isMark (← peek) "," then
        advance
        let last ← expression n
        let k := (← get).ranges
        modify fun s => { s with ranges := k + 1 }
        pure (.range k first last)
      else pure (.when first)
    if isMark (← peek) "\x7b" then addRule pattern (← block n)
    else
      terminator
      addRule pattern (.print [] none)
    modify fun s => { s with isMain := false }

def items : Nat → Nat → Reading Unit
  | 0, _ => unexpected
  | k + 1, n => do
    if (← peek) matches .textEnd then return
    else
      item n
      items k n

def checkCalls : Reading Unit := do
  let s ← get
  for f in s.functions do
    if f.body.isNone then fail (.undefined f.name)
  for a in s.applications.reverse do
    match s.functions[a.callee]? with
    | some f =>
      if f.parameters.length < a.count then throw (.tooManyArguments f.name, a.line)
    | none => pure ()

def settle (l : Link) : Reading Unit := do
  let s ← get
  let given := entry s l.caller l.variable_
  let taken := entry s (some l.callee) (.own l.position)
  let name := ((s.functions[l.callee]?).map (·.name)).getD ""
  let inFunction (f : Nat) (i : Nat) (k : Kind) : Reading Unit :=
    modify fun s => { s with functions := s.functions.modify f fun c =>
      { c with parameters := c.parameters.modify i fun e => { e with kind := some k } } }
  match given.kind, taken.kind with
  | some .table, some .plain => throw (.wrongArgument (l.position + 1) name true, l.line)
  | some .plain, some .table => throw (.wrongArgument (l.position + 1) name false, l.line)
  | some k, none => inFunction l.callee l.position k
  | none, some k =>
    match l.variable_, l.caller with
    | .shared i, _ =>
      modify fun s => { s with
        shared := s.shared.modify i fun e => { e with kind := some k } }
    | .own i, some f => inFunction f i k
    | .own _, none => pure ()
  | _, _ => pure ()

def settleAll : Nat → Reading Unit
  | 0 => return
  | n + 1 => do
    for l in (← get).links do settle l
    settleAll n

def program (n : Nat) : Reading Program := do
  items n n
  checkCalls
  settleAll ((← get).links.length + 1)
  let s ← get
  let isTable (e : Entry) : Bool := e.kind = some .table
  return {
    rules := s.rules.reverse
    functions := s.functions.map fun c =>
      ⟨c.name, c.parameters.map isTable, c.body.getD .nothing⟩
    shared := s.shared.map fun e => (e.name, isTable e) }

end Draft

def Program.parse (text : String) : Except (Flaw × Nat) Program :=
  let tokens := Reader.ofText text
  let shared := usualVariables.toArray.mapIdx fun i x =>
    ⟨x, if usualTables.contains i then some .table else some .plain⟩
  match (Draft.program (16 * tokens.length + 64)).run { tokens, shared } with
  | .ok p _ => .ok p
  | .error e _ => .error e

end Freshen.Shell.Awk
