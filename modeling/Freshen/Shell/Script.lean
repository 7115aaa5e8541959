import Freshen.Shell.Builtin
/-! Scripts, and the processes that run them. How a single command is run is handed in. -/

namespace Freshen.Shell

abbrev Runner := Bool → Command → Run Unit

namespace Script

open Run

def attempt (r : Run Unit) : Run (Option Flow) :=
  tryCatch (do r; return none) fun f => return some f

def misread (isTop : Bool) (base : Nat) (text : String) (s : Source) (f : Fault) : Run Unit := do
  let c ← get
  match c.dialect with
  | .dash =>
    modify fun c => { c with line := s.line }
    fatal 2 ("Syntax error: " ++ f.message)
  | .bash =>
    let lines := List.replicate (base - 1) "" ++ text.splitOn "\n"
    for (n, remark) in f.remarks s.line lines do
      printLine 2 s!"{c.label}: {c.scriptLabel}line {n}: {remark}"
    -- What is not closed before the end is no command, so the status of the last one stays.
    let stays := isTop && c.status ≠ 0 && match f with
      | .unclosed _ opened => opened < s.line
      | _ => false
    if !stays then setStatus 2
    if isTop then throw .leaving

def warnUnended (s : Source) : Run Unit := do
  let c ← get
  if c.dialect = .bash then
    for (delimiter, line, last) in s.unended.reverse do
      printLine 2 (s!"{c.label}: line {last}: warning: here-document at line {line} " ++
        s!"delimited by end-of-file (wanted \x60{delimiter}')")

def run (runner : Runner) (tested isTop : Bool) (base : Nat) (text : String) : Run Unit := do
  let d := (← get).dialect
  let start := { Source.ofText d text with line := base }
  let n := Grammar.depth start.rest
  iterate start fun s => do
    let c ← get
    match Grammar.line? n |>.run { s with aliases := if d = .dash then c.aliases else [] } with
    | .ok none _ => return .done ()
    | .ok (some command) after =>
      if !after.unended.isEmpty then warnUnended after
      if c.settings.echoes && d = .bash then
        let raw := s.rest.take (s.rest.length - after.rest.length)
        print 2 (bytesOf (String.ofList raw))
      if !c.settings.readsOnly then runner tested command
      return .again { after with unended := [] }
    | .error f after =>
      if !after.unended.isEmpty then warnUnended after
      misread isTop base text after f
      return .done ()

def act (runner : Runner) (text : String) : Run Unit := do
  let c ← get
  modify fun c => { c with within := "", label := c.name, line := 1 }
  run runner true false 1 text
  modify fun k => { k with
    status := c.status, within := c.within, label := c.label, line := c.line }

def obey (runner : Runner) (n : Nat) : Run Unit := do
  let c ← get
  modifyWorld (·.receive c.process n)
  match Keyed.get? c.traps n with
  | some action =>
    if n = 9 then throw (.killed n)
    else if action ≠ "" then act runner action
  | none => if !Signal.isHarmless n then throw (.killed n)

def settle (runner : Runner) : Run Unit :=
  iterate () fun _ => do
    let c ← get
    match (← world).pending c.process with
    | [] => return .done ()
    | n :: _ =>
      obey runner n
      return .again ()

def farewell (runner : Runner) : Run Unit := do
  let c ← get
  match Keyed.get? c.traps 0 with
  | none => return
  | some action =>
    set { c with traps := c.traps.filter (·.1 ≠ 0), loops := 0, calls := 0 }
    act runner action

def conclude (runner : Runner) (body : Run Unit) : Run Fate := do
  match ← attempt body with
  | some (.killed n) =>
    if (← get).dialect = .bash && n ≠ 9 then discard (attempt (farewell runner))
    return .signalled n
  | _ =>
    match ← attempt (farewell runner) with
    | some (.killed n) => return .signalled n
    | _ => return .exited ((← get).status % 256)

def copied (c : Context) : Context :=
  { c with
    parent := c.process
    isSubshell := true
    isAlone := false
    traps := Builtin.ownTraps c.traps
    jobs := []
    loops := if c.dialect = .bash then 0 else c.loops
    substituted := none }

def inChild (runner : Runner) (change : Context → Context) (body : Run Unit) : Run Fate := do
  let c ← get
  let number := (← world).processes + 1
  modifyWorld fun w => { w with processes := number }
  set (change { copied c with process := number })
  let fate ← conclude runner body
  modifyWorld (·.finish number fate)
  set c
  return fate

def report (f : Fate) : Run Unit := do
  let c ← get
  match f with
  | .exited _ => pure ()
  | .signalled n =>
    if n ≠ 2 && n ≠ 13 then
      if c.dialect = .dash || n = 15 then printLine 2 (Signal.text n)
      else printLine 2 s!"{c.label}: line {c.line}: {Signal.text n}"
  setStatus f.status

def capture (runner : Runner) (command : Command) : Run Bytes := do
  let id ← changeWorld (·.newBuffer)
  let change (c : Context) : Context :=
    let c := c.connect 1 (.sink id)
    let settings := if c.dialect = .bash && !c.settings.extras.contains "inherit_errexit" then
      { c.settings with stopAtFailure := false } else c.settings
    { c with depth := c.depth + 1, settings }
  let fate ← inChild runner change (runner false command)
  let bs ← drainPipe id
  modify fun c =>
    { c with
      substituted := some fate.status
      status := if c.dialect = .bash then fate.status else c.status }
  return bs

def channelFolder : Location := ["dev", "fd"]

def channelName (number : Nat) : String := toString (63 - number)

def channel (runner : Runner) (command : Command) (reads : Bool) : Run String := do
  let k := (← get).channels
  let l := channelFolder ++ [channelName k]
  let bs ← if reads then
      let before ← get
      let bs ← capture runner command
      modify fun c => { c with substituted := before.substituted, status := before.status }
      pure bs
    else pure []
  modify fun c =>
    { c with
      channels := k + 1
      readers := if reads then c.readers else (k, command) :: c.readers }
  modifyWorld fun w =>
    let (n, d) := w.disk.newBody (.bytes ⟨bs.toArray⟩) 0o666
    { w with disk := (d.put channelFolder .directory).put l (.file n) }
  return l.path.text

def closeChannels (runner : Runner) (count : Nat) : Run Unit := do
  let c ← get
  if c.channels ≠ count then
    for (k, command) in c.readers.reverse do
      if count ≤ k then
        let path : Path := ⟨(channelFolder ++ [channelName k]).path.text⟩
        let bs := (((← world).disk.readAll path).toOption.map (·.data.toList)).getD []
        let id ← changeWorld (·.pipeHolding bs)
        discard (inChild runner (·.connect 0 (.source id)) (runner true command))
    modify fun c =>
      { c with channels := count, readers := c.readers.filter (·.1 < count) }
    modifyWorld fun w =>
      let d := (List.range (c.channels - count)).foldl (fun d i =>
        d.erase (channelFolder ++ [channelName (count + i)])) w.disk
      { w with disk := if count = 0 then d.erase channelFolder else d }

def means (runner : Runner) : Expansion.Means where
  capture := capture runner
  channel := channel runner

end Script
end Freshen.Shell
