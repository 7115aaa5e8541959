import Freshen.Shell.Awk.Draft
/-! Expressions as they are written. Each operator binds at a level, and operands that stand side by
side are joined. -/

namespace Freshen.Shell.Awk.Draft

def reason : Regular.Fault → String
  | .unmatchedParenthesis => "missing ')'"
  | .nothingRepeated => "missing operand"
  | _ => "bad class -- [], [^] or ["

def regular (source : String) : Reading Regular := do
  match Regular.parse .escaping source with
  | .ok r => return r
  | .error f => fail (.badRegular (reason f) source)

def asRegular (e : Expr) : Reading Expr := do
  match e with
  | .text bs => return .regular (← regular (stringOf bs))
  | e => return e

def operator? (level : Nat) (t : Token) : Option (Expr → Expr → Expr) :=
  match level, t with
  | 0, .mark "||" => some .either
  | 1, .mark "&&" => some .both
  | 3, .mark "~" => some .resembles
  | 3, .mark "!~" => some fun a b => .not (.resembles a b)
  | 4, .mark "<" => some (.comparison .less)
  | 4, .mark "<=" => some (.comparison .lessOrEqual)
  | 4, .mark "==" => some (.comparison .equal)
  | 4, .mark "!=" => some (.comparison .different)
  | 4, .mark ">" => some (.comparison .more)
  | 4, .mark ">=" => some (.comparison .moreOrEqual)
  | 6, .mark "+" => some (.arithmetic .plus)
  | 6, .mark "-" => some (.arithmetic .minus)
  | 7, .mark "*" => some (.arithmetic .times)
  | 7, .mark "/" => some (.arithmetic .divided)
  | 7, .mark "%" => some (.arithmetic .modulo)
  | _, _ => none

def assignment? (t : Token) : Option (Target → Expr → Expr) :=
  match t with
  | .mark "=" => some .assign
  | .mark "+=" => some fun t e => .update t .plus e
  | .mark "-=" => some fun t e => .update t .minus e
  | .mark "*=" => some fun t e => .update t .times e
  | .mark "/=" => some fun t e => .update t .divided e
  | .mark "%=" => some fun t e => .update t .modulo e
  | .mark "^=" => some fun t e => .update t .power e
  | _ => none

def beginsOperand : Token → Bool
  | .number .. | .text _ | .regular _ | .name _ | .call _ | .builtin .. => true
  | .word w => w = "getline"
  | .mark m => ["(", "$", "!", "++", "--"].contains m
  | _ => false

def beginsExpression (t : Token) : Bool :=
  beginsOperand t || isMark t "-" || isMark t "+"

def argumentCounts : Builtin → Nat × Nat
  | .length | .seed | .flush => (0, 1)
  | .index | .match_ | .arcTangent => (2, 2)
  | .substring | .split | .substitute | .substituteAll => (2, 3)
  | .format => (1, 1000)
  | .random | .time => (0, 0)
  | .timeText => (0, 3)
  | _ => (1, 1)

def subscript : List Expr → Expr
  | [e] => e
  | es => .tuple es

def loneName? : Reading (Option String) := do
  match ← peek, ← second with
  | .name x, .mark "," | .name x, .mark ")" =>
    if x = "NF" then return none
    else
      advance
      return some x
  | _, _ => return none

mutual

def expression : Nat → Reading Expr
  | 0 => unexpected
  | n + 1 => do
    let c ← binary n 0
    if isMark (← peek) "?" then
      advance
      skipLines
      let a ← expression n
      expect ":"
      skipLines
      return .choice c a (← expression n)
    else return c

def binary : Nat → Nat → Reading Expr
  | 0, _ => unexpected
  | n + 1, level => do
    if level ≤ 4 then more n level (← binary n (level + 1))
    else if level = 5 then
      let isBare := !isMark (← peek) "("
      let e ← more n level (← binary n (level + 1))
      match e, assignment? (← peek) with
      | .value t, some f =>
        if isBare then
          advance
          return f t (← expression n)
        else return e
      | e, _ => return e
    else if level ≤ 7 then more n level (← binary n (level + 1))
    else unary n

def more : Nat → Nat → Expr → Reading Expr
  | 0, _, _ => unexpected
  | n + 1, level, a => do
    let t ← peek
    if level = 2 then
      if isWord t "in" then
        advance
        match ← peek with
        | .name x =>
          advance
          more n level (.contains a (← table x))
        | _ => unexpected
      else return a
    else if level = 5 then
      if beginsOperand t then more n level (.joined a (← binary n 6)) else return a
    else match operator? level t with
    | some f =>
      advance
      let b ← binary n (level + 1)
      more n level (f a (← if level = 3 then asRegular b else pure b))
    | none => return a

def unary : Nat → Reading Expr
  | 0 => unexpected
  | n + 1 => do
    match ← peek with
    | .mark "!" =>
      advance
      return .not (← unary n)
    | .mark "-" =>
      advance
      return .negative (← unary n)
    | .mark "+" =>
      advance
      return .numeric (← unary n)
    | _ => piped n (← powered n)

def piped : Nat → Expr → Reading Expr
  | 0, _ => unexpected
  | n + 1, e => do
    if isMark (← peek) "|" && isWord (← second) "getline" then
      advance
      advance
      piped n (.recordOfCommand e (← target? n))
    else return e

def powered : Nat → Reading Expr
  | 0 => unexpected
  | n + 1 => do
    let a ← postfixed n
    if isMark (← peek) "^" then
      advance
      match ← peek with
      | .mark "-" =>
        advance
        return .arithmetic .power a (.negative (← powered n))
      | .mark "+" | .mark "!" => return .arithmetic .power a (← unary n)
      | _ => return .arithmetic .power a (← powered n)
    else return a

def postfixed : Nat → Reading Expr
  | 0 => unexpected
  | n + 1 => do
    let isBare := !isMark (← peek) "("
    let e ← primary n
    match e, ← peek with
    | .value t, .mark "++" =>
      if isBare then
        advance
        return .bump t 1
      else return e
    | .value t, .mark "--" =>
      if isBare then
        advance
        return .bump t (-1)
      else return e
    | e, _ => return e

def primary : Nat → Reading Expr
  | 0 => unexpected
  | n + 1 => do
    match ← peek with
    | .number x _ =>
      advance
      return .number x
    | .text bs =>
      advance
      return .text bs
    | .regular source =>
      let r ← regular source
      advance
      return .regular r
    | .mark "(" =>
      advance
      let es ← expressions n
      expect ")"
      return subscript es
    | .mark "++" =>
      advance
      return .update (← target n) .plus (.number 1)
    | .mark "--" =>
      advance
      return .update (← target n) .minus (.number 1)
    | .name _ | .mark "$" => return .value (← target n)
    | .call f =>
      let at_ ← line
      advance
      let callee ← functionNumber f
      expect "("
      let args ← arguments n callee 0
      modify fun s => { s with applications := ⟨callee, args.length, at_⟩ :: s.applications }
      return .call callee args
    | .builtin f w =>
      advance
      builtin n f w
    | .word "getline" =>
      advance
      let t ← target? n
      if isMark (← peek) "<" then
        advance
        return .recordOfFile (← powered n) t
      else return .record t
    | _ => unexpected

def target : Nat → Reading Target
  | 0 => unexpected
  | n + 1 => do
    match ← peek with
    | .mark "$" =>
      advance
      match ← peek with
      | .mark "-" | .mark "+" | .mark "!" => return .field (← unary n)
      | _ => return .field (← primary n)
    | .name x =>
      advance
      if isMark (← peek) "[" then
        let name ← table x
        advance
        let es ← expressions n
        expect "]"
        return .element name (subscript es)
      else if x = "NF" then return .fieldCount
      else
        let name ← nameOf x
        setKind name .plain
        return .variable_ name
    | _ => unexpected

def target? : Nat → Reading (Option Target)
  | 0 => unexpected
  | n + 1 => do
    match ← peek with
    | .mark "$" | .name _ => return some (← target n)
    | _ => return none

def expressions : Nat → Reading (List Expr)
  | 0 => unexpected
  | n + 1 => do
    let e ← expression n
    if isMark (← peek) "," then
      advance
      return e :: (← expressions n)
    else return [e]

def arguments : Nat → Nat → Nat → Reading (List Expr)
  | 0, _, _ => unexpected
  | n + 1, callee, position => do
    if position = 0 && isMark (← peek) ")" then
      advance
      return []
    let at_ ← line
    let e ← match ← loneName? with
      | some x =>
        let name ← nameOf x
        modify fun s =>
          { s with links := ⟨s.current, name, callee, position, at_⟩ :: s.links }
        pure (.value (.variable_ name))
      | none => expression n
    if isMark (← peek) "," then
      advance
      return e :: (← arguments n callee (position + 1))
    else
      expect ")"
      return [e]

def builtin : Nat → Builtin → String → Reading Expr
  | 0, _, _ => unexpected
  | n + 1, f, w => do
    let takesNone := f = .length || f = .flush || f = .random || f = .seed || f = .time
    if takesNone && !isMark (← peek) "(" then return .builtin f []
    expect "("
    let args ← builtinArguments n f 0
    let (least, most) := argumentCounts f
    if args.length < least || most < args.length then fail (.wrongCount w)
    return .builtin f args

def builtinArguments : Nat → Builtin → Nat → Reading (List Expr)
  | 0, _, _ => unexpected
  | n + 1, f, position => do
    if position = 0 && isMark (← peek) ")" then
      advance
      return []
    let isTable := f = .split && position = 1
    let mayBeTable := f = .length && position = 0
    let e ← if isTable || mayBeTable then do
        match ← loneName? with
        | some x =>
          let name ← nameOf x
          if isTable then setKind name .table
          pure (Expr.value (.variable_ name))
        | none => if isTable then unexpected else expression n
      else expression n
    let replaces := f = .substitute || f = .substituteAll
    if replaces && position = 2 && !(e matches .value _) then unexpected
    let isRegular := (replaces && position = 0) || (f = .match_ && position = 1) ||
      (f = .split && position = 2 && !(e matches .text []) && !(e matches .text [_]))
    let e ← if isRegular then asRegular e else pure e
    if isMark (← peek) "," then
      advance
      return e :: (← builtinArguments n f (position + 1))
    else
      expect ")"
      return [e]

end

end Freshen.Shell.Awk.Draft
