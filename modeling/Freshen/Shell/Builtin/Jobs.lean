import Freshen.Shell.Builtin.Basic
/-! Commands about processes: signals, what is done when they come, and waiting. -/

namespace Freshen.Shell.Builtin

open Run

def jobAt? (c : Context) (text : String) : Option BackgroundJob :=
  match text.toList with
  | ['%'] | ['%', '%'] | ['%', '+'] => c.jobs.find? (!·.isOver)
  | '%' :: ds => (String.ofList ds).toNat?.bind fun n => c.jobs.find? (·.number = n)
  | _ => none

def freeNumber (c : Context) : Nat :=
  let taken := (c.jobs.filter (!·.isOver)).map (·.number)
  (((List.range (taken.length + 1)).map (· + 1)).find? (!taken.contains ·)).getD 1

def addJob (process : Nat) : Run Unit := modify fun c =>
  let number := freeNumber c
  { c with
    background := some process
    jobs := ⟨number, process, false⟩ :: c.jobs.filter (·.number ≠ number) }

def markOver (process : Nat) : Run Unit := modify fun c =>
  { c with jobs := c.jobs.map fun j =>
      if j.process = process then { j with isOver := true } else j }

def stateText (f : Option Fate) : String :=
  match f with
  | none => "Running"
  | some (.exited 0) => "Done"
  | some (.exited n) => s!"Done({n % 256})"
  | some (.signalled n) => Signal.text n

def jobs : Action := fun args => do
  let c ← get
  match args.filter (·.startsWith "%") with
  | w :: _ =>
    if (jobAt? c w).isNone then
      match c.dialect with
      | .dash => remark 2 s!"jobs: No such job: {w}"
      | .bash => remark 1 s!"jobs: {w}: no such job"
  | [] => pure ()
  done
  for j in c.jobs do
    if !j.isOver then
      let fate := Keyed.get? (← world).ended j.process
      let current := ((← get).jobs.filter (!·.isOver)).head? = some j
      let start := s!"[{j.number}] " ++ (if current then "+ " else "- ") ++ stateText fate
      if c.dialect = .dash then
        printLine 1 (start ++ String.ofList (List.replicate (33 - start.length) ' '))
      if fate.isSome then markOver j.process

def interruption? (c : Context) (w : World) : Option Nat :=
  (w.pending c.process).find? fun n => c.traps.any fun t => t.1 = n && t.2 ≠ ""

def await (process : Nat) : Run (Except Nat Fate) := do
  let c ← get
  waitFor (fun w => w.hasEnded process || (interruption? c w).isSome) none
  let w ← world
  match Keyed.get? w.ended process, interruption? c w with
  | some f, _ => return .ok f
  | none, some n => return .error n
  | none, none => return .ok (.exited 127)

def waitAll : List BackgroundJob → Run Unit
  | [] => done
  | j :: js => do
    match ← await j.process with
    | .ok _ =>
      markOver j.process
      waitAll js
    | .error n => setStatus (128 + n)

def waitOne (j : BackgroundJob) : Run Unit := do
  match ← await j.process with
  | .error n => setStatus (128 + n)
  | .ok f =>
    if (← dialect) = .dash && !j.isOver then
      match f with
      | .signalled n => if n ≠ 2 && n ≠ 13 then printLine 2 (Signal.text n)
      | .exited _ => pure ()
    markOver j.process
    setStatus f.status

def waitEach : List String → Run Unit
  | [] => return
  | w :: ws => do
    let c ← get
    let isJob := w.startsWith "%"
    let number? := count? w
    match if isJob then jobAt? c w else number?.bind fun n => c.jobs.find? (·.process = n) with
    | some j => waitOne j
    | none =>
      match c.dialect, isJob, number? with
      | .dash, true, _ => remark 2 s!"wait: No such job: {w}"
      | .dash, false, none => remark 2 s!"wait: Illegal number: {w}"
      | .dash, false, some _ => setStatus 127
      | .bash, true, _ => remark 127 s!"wait: {w}: no such job"
      | .bash, false, none => remark 1 s!"wait: \x60{w}': not a pid or valid job spec"
      | .bash, false, some n => remark 127 s!"wait: pid {n} is not a child of this shell"
    waitEach ws

def waitAny : Run Unit := do
  let c ← get
  let js := c.jobs.filter (!·.isOver)
  if js.isEmpty then setStatus 127
  else
    waitFor (fun w => js.any fun j => w.hasEnded j.process) none
    let w ← world
    match js.reverse.find? fun j => w.hasEnded j.process with
    | some j => waitOne j
    | none => setStatus 127

def wait : Action := fun args => do
  let c ← get
  let (known, valued) := if c.dialect = .dash then ("", "") else ("nf", "p")
  withOptions "wait" known valued args fun o => do
    if o.has 'n' then waitAny
    else if o.operands.isEmpty then waitAll (c.jobs.filter (!·.isOver)).reverse
    else waitEach o.operands

def signal? (d : Dialect) (text : String) : Option Nat :=
  match if text.isNat then text.toNat? else none with
  | some n => if n < 65 then some n else none
  | none =>
    if text.toUpper = "EXIT" then some 0
    else if d = .dash && text.toUpper.startsWith "SIG" then none
    else Signal.number? text

def killUsage : Run Unit := do
  match ← dialect with
  | .dash =>
    remark 2 ("kill: Usage: kill [-s sigspec | -signum | -sigspec] [pid | job]... or\n" ++
      "kill -l [exitstatus]")
  | .bash =>
    adviseUsage "kill"
    setStatus 2

def send (signal : Nat) (target : String) : Run Bool := do
  let c ← get
  let absent (text : String) : Run Bool := do
    remark (if c.dialect = .dash then 2 else 1) text
    return false
  if target.startsWith "%" then
    match jobAt? c target with
    | some j =>
      modifyWorld fun w => if signal = 0 then w else w.signal j.process signal
      return true
    | none =>
      match c.dialect with
      | .dash => absent s!"kill: No such job: {target}"
      | .bash => absent s!"kill: {target}: no such job"
  else match integer? target with
  | none =>
    match c.dialect with
    | .dash => absent s!"kill: Illegal number: {target}"
    | .bash => absent s!"kill: {target}: arguments must be process or job IDs"
  | some n =>
    let process := n.natAbs
    let w ← world
    let targets := if n = 0 then (List.range w.processes).map (· + 1) else [process]
    let targets := targets.filter w.isAlive
    if targets.isEmpty then
      match c.dialect with
      | .dash => remark 1 "kill: No such process\n"
      | .bash => remark 1 s!"kill: ({n}) - No such process"
      return false
    else
      if signal ≠ 0 then modifyWorld fun w => targets.foldl (fun w t => w.signal t signal) w
      return true

def sendAll (signal : Nat) : List String → Run Unit
  | [] => return
  | t :: ts => do
    let fine ← send signal t
    if !fine && (← get).status = 2 then return
    sendAll signal ts

def killWith (signal : Nat) (targets : List String) : Run Unit := do
  if targets.isEmpty then killUsage
  else
    done
    sendAll signal targets

def listSignals (args : List String) : Run Unit := do
  let d ← dialect
  done
  match args with
  | [] =>
    match d with
    | .dash =>
      printLine 1 "0"
      for (_, name) in Signal.names do printLine 1 name
    | .bash =>
      let item (e : Nat × String) : String :=
        (if e.1 < 10 then " " else "") ++ s!"{e.1}) SIG{e.2}" ++
          if e.1 % 5 = 0 || e.1 = 31 then "\n" else "\t"
      print 1 (bytesOf (String.join (Signal.names.map item)))
  | args =>
    for a in args do
      match d, integer? a with
      | _, some n =>
        let n := if n > 128 then n - 128 else n
        match Signal.name? n.toNat with
        | some name => printLine 1 name
        | none =>
          match d with
          | .dash => remark 2 s!"kill: invalid signal number or exit status: {a}"
          | .bash => remark 1 s!"kill: {a}: invalid signal specification"
      | .dash, none => remark 2 s!"kill: Illegal number: {a}"
      | .bash, none =>
        match Signal.number? a with
        | some n => printLine 1 (toString n)
        | none => remark 1 s!"kill: {a}: invalid signal specification"

def kill : Action
  | [] => killUsage
  | w :: ws => do
    let d ← dialect
    let named (name : String) (targets : List String) : Run Unit := do
      match signal? d name with
      | some n => killWith n targets
      | none =>
        match d with
        | .dash => remark 2 s!"kill: invalid signal number or name: {name}"
        | .bash => remark 1 s!"kill: {name}: invalid signal specification"
    match w.toList, ws with
    | ['-', '-'], ws => killWith 15 ws
    | ['-', 'l'], ws => listSignals ws
    | ['-', 's'], name :: targets => named name targets
    | ['-', 's'], [] => missingValue "kill" 's'
    | '-' :: name, ws =>
      if d = .bash && name = ['n'] then named (ws.headD "") (ws.drop 1)
      else match signal? d (String.ofList name), name with
      | some n, _ => killWith n ws
      | none, c :: _ =>
        match d with
        | .dash => remark 2 s!"kill: Illegal option -{c}"
        | .bash =>
          let name := String.ofList name
          remark 1 s!"kill: {name}: invalid signal specification"
      | none, [] => remark 2 "kill: Illegal number: -"
    | _, ws => killWith 15 (w :: ws)

def events : List (String × Nat) := [("ERR", 1000), ("DEBUG", 1001), ("RETURN", 1002)]

def condition? (d : Dialect) (text : String) : Option Nat :=
  match signal? d text with
  | some n => some n
  | none => if d = .bash then Keyed.get? events text.toUpper else none

def conditionName (d : Dialect) (n : Nat) : String :=
  if n = 0 then "EXIT"
  else match events.find? (·.2 = n) with
  | some e => e.1
  | none => (if d = .bash then "SIG" else "") ++ (Signal.name? n).getD (toString n)

def listTraps (only : Option (List Nat)) : Run Unit := do
  let c ← get
  for (n, action) in c.traps.mergeSort fun a b => a.1 ≤ b.1 do
    if only.all (·.contains n) then
      printLine 1 ("trap -- " ++ quoted c.dialect action ++ " " ++ conditionName c.dialect n)
  done

def setTraps (action : Option String) : List String → Run Unit
  | [] => return
  | w :: ws => do
    let d ← dialect
    match condition? d w with
    | some n =>
      modify fun c =>
        let others := c.traps.filter (·.1 ≠ n)
        { c with traps := match action with
          | some a => (n, a) :: others
          | none => others }
      setTraps action ws
    | none =>
      match d with
      | .dash =>
        printLine 2 s!"trap: {w}: bad trap"
        setStatus 1
      | .bash =>
        remark 1 s!"trap: {w}: invalid signal specification"
        setTraps action ws

def trap : Action := fun args => do
  let c ← get
  withOptions "trap" (if c.dialect = .dash then "" else "lp") "" args fun o => do
    if o.has 'l' then listSignals []
    else if o.has 'p' then
      if o.operands.isEmpty then listTraps none
      else listTraps (some (o.operands.filterMap (condition? .bash)))
    else match o.operands with
    | [] => listTraps none
    | [w] =>
      done
      setTraps none [w]
    | w :: ws =>
      done
      if (condition? c.dialect w).isSome && (c.dialect = .dash || w.isNat) then
        setTraps none (w :: ws)
      else setTraps (if w = "-" then none else some w) ws

def ownTraps (traps : List (Nat × String)) : List (Nat × String) :=
  traps.filter fun t => t.2 = "" && t.1 ≠ 0

end Freshen.Shell.Builtin
