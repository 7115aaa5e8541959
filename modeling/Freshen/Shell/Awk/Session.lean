import Freshen.Shell.Awk.Evaluation
/-! Whole runs: what is done first, for each record, and in the end. -/

namespace Freshen.Shell.Awk

structure Settings where
  arguments : List String
  environment : List (String × String) := []
  assigned : List (String × String) := []

namespace Machine

def usualValues : List Value :=
  [.number 0, .number 0, .text [32], .text [32], .text [10], .text [10], .text [], .text [28],
    .number 0, .number (-1), .text (bytesOf "%.6g"), .text (bytesOf "%.6g")]

def initial (p : Program) (s : Settings) : Machine :=
  let input (t : String) : Value := .ofInput (bytesOf t)
  let arguments := Table.numbered 0 (s.arguments.map input)
  let environment := s.environment.foldl (fun t (x, v) => t.set (.text (bytesOf x)) (input v))
    ({} : Table)
  let value (i : Nat) : Value :=
    if i = Variable.argumentCount then .ofNat s.arguments.length
    else usualValues.getD i .unset
  let table (i : Nat) : Table :=
    if i = Variable.arguments then arguments
    else if i = Variable.environment then environment
    else {}
  let isTable (i : Nat) : Bool := ((p.shared[i]?).map (·.2)).getD false
  -- A table has the number of its variable.
  { shared := (Array.range p.shared.size).map fun i =>
      if isTable i then .table i else .value (value i)
    tables := (Array.range p.shared.size).map table }

end Machine

namespace Act

def depth : Nat := 10000

def applies (p : Program) : Pattern → Act Bool
  | .always => return true
  | .when e => return (← value p depth e).isTrue
  | .range k first last => do
    let isOpen := (← get).ranges.contains k
    let begins ← if isOpen then pure true else do pure (← value p depth first).isTrue
    if begins then
      let ends := (← value p depth last).isTrue
      modify fun m => { m with
        ranges := if ends then m.ranges.erase k else if isOpen then m.ranges else k :: m.ranges }
    return begins
  | _ => return false

def processRecord (p : Program) (rules : List Rule) : Act Unit :=
  tryCatch (do
    for r in rules do
      if ← applies p r.pattern then execute p depth r.action) fun s => match s with
  | .next => return
  | .nextFile => modify fun m => { m with main := none }
  | s => throw s

def processRecords (p : Program) (rules : List Rule) : Act Unit :=
  iterate () fun _ => do
    match ← nextRecord p with
    | none => return .done ()
    | some bs =>
      setRecord bs
      processRecord p rules
      return .again ()

def actions (p : Program) (isOne : Pattern → Bool) : List Statement :=
  (p.rules.filter fun r => isOne r.pattern).map (·.action)

def checkSeparator (x v : String) : Act Unit := do
  let source := stringOf (unescaped (v.length + 1) v.toList)
  if (x = "FS" || x = "RS") && 1 < source.length then
    match Regular.parse .escaping source with
    | .ok _ => return
    | .error f =>
      throw (.failed ("line 0: " ++ (Flaw.badRegular (Draft.reason f) source).text))

def start (p : Program) (s : Settings) : Act Unit := do
  for (x, v) in s.assigned do
    checkSeparator x v
    assignNamed p x v
  for a in actions p (· matches .atStart) do execute p depth a

def middle (p : Program) : Act Unit := do
  let rules := p.rules.filter fun r => !(r.pattern matches .atStart | .atEnd)
  if !rules.isEmpty || p.rules.any (·.pattern matches .atEnd) then processRecords p rules

def finish (p : Program) : Act Unit := do
  for a in actions p (· matches .atEnd) do execute p depth a

def untilExit (body : Act Unit) : Act Unit :=
  tryCatch body fun s => match s with
    | .exit => return
    | s => throw s

end Act

inductive Outcome
  | ended (status : Int)
  | unheard
  deriving DecidableEq, Repr

def Program.run (p : Program) (s : Settings) : Asking Outcome := do
  let body : Act Unit := do
    Act.untilExit (do
      Act.start p s
      Act.middle p)
    Act.untilExit (Act.finish p)
  let (r, m) ← body.run.run (Machine.initial p s)
  match r with
  | .error .unheard => return .unheard
  | .error (.failed remark) =>
    discard (Asking.ask (.say 2 (bytesOf (s.arguments.headD "" ++ ": " ++ remark ++ "\n"))))
    discard (Act.shutAll.run.run m)
    return .ended 2
  | _ =>
    match ← Act.shutAll.run.run m with
    | (.error .unheard, _) => return .unheard
    | (_, m) => return .ended m.status

end Freshen.Shell.Awk
