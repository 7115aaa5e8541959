import Freshen.Shell.Launch
import Freshen.Shell.Question
/-! What each kind of command does. How the commands inside of it are run is handed in, so that
nothing here refers to itself. -/

namespace Freshen.Shell.Perform

open Run Script

def checked (runner : Runner) (tested : Bool) : Run Unit := do
  settle runner
  let c ← get
  if c.status ≠ 0 && !tested then
    match c.dialect, Keyed.get? c.traps 1000 with
    | .bash, some action => if c.calls = 0 then act runner action
    | _, _ => pure ()
    if c.settings.stopAtFailure then throw .leaving

def restoring (streams : List (Nat × Stream)) (body : Run Unit) : Run Unit := do
  let restore : Run Unit := modify fun c => { c with streams }
  tryCatch body fun f => do
    restore
    throw f
  restore

def prompt (runner : Runner) : Run String := do
  let c ← get
  let text := (c.valueOf? "PS4").getD "+ "
  let shown ← if text.toList.contains '$' then
      let n := Grammar.depth text.toList
      match (Lexeme.quotedText (Grammar.readers n) n text).run (Source.ofText c.dialect "") with
      | .ok w _ => do
        set { c with settings := { c.settings with traces := false } }
        let t ← Expansion.whole (means runner) w
        modify fun k => { k with settings := c.settings, status := c.status }
        pure t
      | .error _ _ => pure text
    else pure text
  match c.dialect, shown.toList with
  | .bash, m :: _ => return String.ofList (List.replicate c.depth m) ++ shown
  | _, _ => return shown

def shown (d : Dialect) (w : String) : String :=
  match d with
  | .dash => w
  | .bash =>
    let special := " \t\n'\"\\|&;()<>!\x7b\x7d*[?]^$\x60".toList
    if w = "" then "''"
    else if w.toList.any fun c => c.toNat < 32 && c ≠ '\n' && c ≠ '\t' then Printf.shellQuoted w
    else if w.toList.any special.contains || w.startsWith "~" || w.startsWith "#" then
      Builtin.quoted .bash w
    else w

def traceLine (runner : Runner) (text : String) : Run Unit := do
  if (← get).settings.traces then printLine 2 ((← prompt runner) ++ text)

def traceBefore (runner : Runner) (streams : List (Nat × Stream)) (text : String) : Run Unit := do
  let c ← get
  if c.settings.traces then
    set { c with streams }
    traceLine runner text
    modify fun k => { k with streams := c.streams }

inductive Value
  | text (s : String)
  | list (items : List (Option String × String))

structure Assigned where
  name : String
  index : Option String := none
  appends : Bool := false
  value : Value

namespace Assigned

def shown (a : Assigned) (d : Dialect) : String :=
  let place := match a.index with
    | some i => s!"{a.name}[{i}]"
    | none => a.name
  let start := place ++ (if a.appends then "+=" else "=")
  match a.value with
  | .text s => start ++ if s = "" then "" else Perform.shown d s
  | .list items =>
    let item (e : Option String × String) : String := match e.1 with
      | some k => s!"[{k}]=" ++ Perform.shown d e.2
      | none => Perform.shown d e.2
    start ++ "(" ++ " ".intercalate (items.map item) ++ ")"

def store (a : Assigned) : Run Unit :=
  match a.value with
  | .text s => Binding.store a.name a.index a.appends s
  | .list items => Binding.storeList a.name a.appends items

end Assigned

def index (m : Expansion.Means) (i : Option Word) : Run (Option String) := do
  match i with
  | none => return none
  | some w => return some (← Expansion.whole m w)

def listItems (m : Expansion.Means) :
    List (Option Word × Word) → Run (List (Option String × String))
  | [] => return []
  | (none, w) :: rest => do
    let fs ← Expansion.fields m [w]
    return fs.map (none, ·) ++ (← listItems m rest)
  | (some i, w) :: rest => do
    let k ← Expansion.whole m i
    let v ← Expansion.assigned m w
    return (some k, v) :: (← listItems m rest)

def expandAssignment (m : Expansion.Means) : Assignment → Run Assigned
  | .value name i appends w => do
    let v ← Expansion.assigned m w
    return { name, index := ← index m i, appends, value := .text v }
  | .list name appends items => return { name, appends, value := .list (← listItems m items) }

def assignAll (runner : Runner) (streams : List (Nat × Stream)) (isExport : Bool) :
    List Assignment → Run (List Assigned)
  | [] => return []
  | a :: rest => do
    let one ← expandAssignment (means runner) a
    let c ← get
    if c.dialect = .bash then traceBefore runner streams (one.shown .bash)
    match c.dialect, isExport, Binding.fault? c one.name with
    | .bash, true, some text => complain 1 text
    | _, _, _ =>
      one.store
      if isExport then modify (·.export_ one.name)
    return one :: (← assignAll runner streams isExport rest)

def nameOf : Assignment → String
  | .value name .. | .list name .. => name

def puttingBack (names : List String) (body : Run Unit) : Run Unit := do
  let c ← get
  let old := names.map fun x => (x, c.binding? x)
  let restore : Run Unit := modify fun c => old.foldl (fun c e => match e.2 with
    | some v => c.bind_ e.1 v
    | none => c.unset e.1) c
  body
  restore

def programPath? (name : String) : Run (Option String) := do
  let c ← get
  let d ← disk
  let places := (c.valueOf? "PATH").getD ""
  match Executable.find d places name with
  | .error _ => return none
  | .ok path => return if (Executable.atPath d path).toOption.isSome then some path else none

def isKeyword (d : Dialect) (name : String) : Bool := (Grammar.keywords d).contains name

def description? (name : String) : Run (Option String) := do
  let c ← get
  match if c.dialect = .dash then Keyed.get? c.aliases name else none with
  | some v => return some s!"{name} is an alias for {v}"
  | none =>
    if isKeyword c.dialect name then return some s!"{name} is a shell keyword"
    else if (Keyed.get? c.functions name).isSome then
      return some (name ++ if c.dialect = .dash then " is a shell function" else " is a function")
    else if Builtin.isBuiltin c.dialect name then
      let isSpecial := c.dialect = .dash && Builtin.isSpecial name
      return some (name ++ if isSpecial then " is a special shell builtin"
        else " is a shell builtin")
    else return (← programPath? name).map fun p => s!"{name} is {p}"

def describe (command : String) : List String → Run Unit
  | [] => return
  | x :: xs => do
    match ← description? x with
    | some text => printLine 1 text
    | none =>
      match (← get).dialect with
      | .dash =>
        printLine 1 s!"{x}: not found"
        setStatus 127
      | .bash => remark 1 s!"{command}: {x}: not found"
    describe command xs

def kind? (name : String) : Run (Option String) := do
  let c ← get
  if isKeyword c.dialect name then return some "keyword"
  else if (Keyed.get? c.functions name).isSome then return some "function"
  else if Builtin.isBuiltin c.dialect name then return some "builtin"
  else return (← programPath? name).map fun _ => "file"

def type (args : List String) : Run Unit := do
  let c ← get
  setStatus 0
  if c.dialect = .dash then describe "type" args
  else Builtin.withOptions "type" "afptP" "" args fun o => do
    if o.has 't' then
      for x in o.operands do
        match ← kind? x with
        | some k => printLine 1 k
        | none => setStatus 1
    else if o.has 'p' || o.has 'P' then
      for x in o.operands do
        match ← programPath? x with
        | some p => if o.has 'P' || !Builtin.isBuiltin .bash x then printLine 1 p
        | none => setStatus 1
    else describe "type" o.operands

def showCommand (name : String) : Run Bool := do
  let c ← get
  match if c.dialect = .dash then Keyed.get? c.aliases name else none with
  | some v =>
    printLine 1 (s!"alias {name}=" ++ Builtin.quoted .dash v)
    return true
  | none =>
    if isKeyword c.dialect name || (Keyed.get? c.functions name).isSome ||
        Builtin.isBuiltin c.dialect name then
      printLine 1 name
      return true
    else
      match ← programPath? name with
      | some p =>
        printLine 1 p
        return true
      | none => return false

def programFault (c : Context) (d : Disk) (name path : String) (isExec : Bool) (e : OsError) :
    String × Nat :=
  let missing := Redirection.Fault.isMissing e
  match c.dialect with
  | .dash =>
    let before := if isExec then "exec: " else ""
    if name = "" then (": " ++ OsError.permissionDenied.text, 127)
    else
      let reason := if missing then "not found" else e.text
      let refused := e = .permissionDenied && (isExec || Executable.hasSlash name)
      (before ++ name ++ ": " ++ reason,
        if refused || e = .argumentsTooLong then 126 else 127)
  | .bash =>
    if e = .argumentsTooLong then (s!"{path}: {e.text}", 126)
    else if !Executable.hasSlash name then
      if isExec then (s!"exec: {name}: not found", 127)
      else if e = .permissionDenied then
        match (Executable.candidates ((c.valueOf? "PATH").getD "") name).find? (d.isFile ⟨·⟩) with
        | some p => (s!"{p}: {e.text}", 126)
        | none => (name ++ ": command not found", 127)
      else (name ++ ": command not found", 127)
    else
      let shown := if isExec then Builtin.joined c.place name else name
      if e = .notFound then
        if d.isFile ⟨name⟩ then (shown ++ ": cannot execute: required file not found", 127)
        else (s!"{shown}: {e.text}", 127)
      else if d.isDirectory ⟨name⟩ then (s!"{shown}: {OsError.isDirectory.text}", 126)
      else (s!"{shown}: {e.text}", 126)

def program (runner : Runner) (isExec : Bool) (name : String) (args : List String) : Run Fate := do
  let c ← get
  let cannot (path : String) (e : OsError) : Run Fate := do
    let (text, status) := programFault c (← disk) name path isExec e
    complain status text
    return .exited status
  let places := (c.valueOf? "PATH").getD ""
  match Executable.find (← disk) places name with
  | .error e => cannot name e
  | .ok path =>
    Launch.start runner (Launch.launch runner Launch.depth) (some c.dialect) path
      (if Executable.hasSlash name then path else name) args (cannot path)

def replace (runner : Runner) (name : String) (args : List String) : Run Unit := do
  let c ← get
  set { c with traps := c.traps.filter (·.2 = ""), isAlone := true }
  match ← program runner true name args with
  | .exited n =>
    setStatus n
    throw .leaving
  | .signalled n => throw (.killed n)

def callLimit : Nat := 100000

def callFunction (runner : Runner) (tested : Bool) (f : Function) (args : List String) :
    Run Unit := do
  let c ← get
  if callLimit ≤ c.calls then throw (.killed 11)
  set (Binding.enter { c with args, label := f.label, loops := 0, isAlone := false })
  let flow ← attempt (runner tested f.body)
  modify fun k =>
    { Binding.leave k with args := c.args, label := c.label, loops := c.loops, line := c.line }
  match flow with
  | none | some .returning => return
  | some f => throw f

def eval (runner : Runner) (tested : Bool) (args : List String) : Run Unit := do
  let c ← get
  let text := " ".intercalate args
  if text.toList.all fun ch => ch = ' ' || ch = '\n' || ch = '\t' then setStatus 0
  else
    let base := match c.dialect with
      | .dash => 1
      | .bash => c.line
    set { c with within := "eval: ", scriptLabel := "eval: ", isAlone := false }
    let leave : Run Unit := modify fun k =>
      { k with within := c.within, scriptLabel := c.scriptLabel, line := c.line }
    if c.dialect = .bash then modify fun k => { k with within := c.within }
    tryCatch (Script.run runner tested false base text) fun f => do
      leave
      throw f
    leave

def sourcePath? (name : String) : Run (Option String) := do
  let c ← get
  let d ← disk
  if Executable.hasSlash name then return some name
  else
    let found := (Executable.candidates ((c.valueOf? "PATH").getD "") name).find? (d.isFile ⟨·⟩)
    return match found, c.dialect with
    | some p, _ => some p
    | none, .dash => none
    | none, .bash => some name

def source (runner : Runner) (tested : Bool) (command : String) (args : List String) :
    Run Unit := do
  let c ← get
  let args := match args with
    | "--" :: r => r
    | args => args
  match args with
  | [] =>
    match c.dialect with
    | .dash => setStatus 0
    | .bash =>
      remark 2 s!"{command}: filename argument required"
      Builtin.adviseUsage command
  | file :: rest =>
    match ← sourcePath? file with
    | none => Builtin.refuse "." 2 s!"{file}: not found"
    | some path =>
      match (← disk).readAll ⟨path⟩ with
      | .error e =>
        match c.dialect with
        | .dash => Builtin.refuse "." 2 ((Redirection.Fault.opening file e).message .dash)
        | .bash =>
          remark 1 (if e = .isDirectory then s!"{command}: {file}: is a directory"
            else s!"{file}: {e.text}")
      | .ok b =>
        setStatus 0
        let inner := { c with
          calls := c.calls + 1, within := file ++ ": ", status := 0
          label := path, origin := path, scriptLabel := "", isAlone := false }
        set (if c.dialect = .bash && !rest.isEmpty then { inner with args := rest } else inner)
        if c.dialect = .bash then modify fun k => { k with within := c.within }
        let flow ← attempt (Script.run runner tested false 1 (Text.Utf8.lenient b))
        modify fun k => { k with
          calls := c.calls, within := c.within, label := c.label, origin := c.origin
          scriptLabel := c.scriptLabel, line := c.line
          args := if c.dialect = .bash && !rest.isEmpty then c.args else k.args }
        match flow with
        | none | some .returning => return
        | some f => throw f

def invokeOwn (runner : Runner) (tested : Bool) (name : String) (args : List String) :
    Run Unit := do
  let c ← get
  match name with
  | "eval" => eval runner tested args
  | "exec" =>
    let args := match args with
      | "--" :: r => r
      | args => args
    match args with
    | [] => setStatus 0
    | x :: args => replace runner x args
  | "." => source runner tested "." args
  | "type" => type args
  | _ =>
    if c.dialect = .bash && name = "source" then source runner tested "source" args
    else match Builtin.find? c.dialect name with
    | some action => action args
    | none => report (← program runner false name args)

def invokeCommand (runner : Runner) (tested : Bool) (args : List String) : Run Unit :=
  Builtin.withOptions "command" "pvV" "" args fun o => do
    match o.operands with
    | [] => setStatus 0
    | x :: args =>
      let c ← get
      if o.has 'v' then
        let names := if c.dialect = .dash then [x] else x :: args
        let mut found := false
        for name in names do
          if ← showCommand name then found := true
        setStatus (if found then 0 else if c.dialect = .dash then 127 else 1)
      else if o.has 'V' then
        setStatus 0
        describe "command" (if c.dialect = .dash then [x] else x :: args)
      else invokeOwn runner tested x args

def invoke (runner : Runner) (tested : Bool) (name : String) (args : List String) : Run Unit := do
  let c ← get
  let isFixed := c.dialect = .dash && Builtin.isSpecial name
  match if isFixed then none else Keyed.get? c.functions name with
  | some f => callFunction runner tested f args
  | none =>
    if name = "command" then invokeCommand runner tested args
    else if name = "builtin" && c.dialect = .bash then
      match args with
      | [] => setStatus 0
      | x :: args =>
        if x = "command" then invokeCommand runner tested args
        else if Builtin.isBuiltin .bash x then invokeOwn runner tested x args
        else remark 1 s!"builtin: {x}: not a shell builtin"
    else invokeOwn runner tested name args

def expandWords (m : Expansion.Means) (words : List Word) : Run (List String) := do
  match words with
  | w :: rest =>
    if (Word.bare? w).any Grammar.declaring.contains then
      return (← Expansion.fields m [w]) ++ (← Expansion.declared m rest)
    else Expansion.fields m words
  | [] => return []

def redirectFailure (f : Redirection.Fault) : Run Unit := do
  let d := (← get).dialect
  match d, f with
  | .dash, .notDescriptor => fatal 2 (f.message d)
  | _, _ => complain (if d = .dash then 2 else 1) (f.message d)

def assignOnly (runner : Runner) (assigns : List Assignment) (redirects : List Redirect) :
    Run Unit := do
  let c ← get
  let assign : Run Unit := do
    let done ← assignAll runner c.streams false assigns
    if c.dialect = .dash && !done.isEmpty then
      traceBefore runner c.streams (" ".intercalate (done.map (·.shown .dash)))
    modify fun k => { k with status := k.substituted.getD 0 }
  match c.dialect with
  | .dash =>
    restoring c.streams do
      match ← Redirection.applyAll (means runner) redirects with
      | some f => redirectFailure f
      | none => assign
  | .bash =>
    assign
    restoring c.streams do
      match ← Redirection.applyAll (means runner) redirects with
      | some f => redirectFailure f
      | none => return

def isList : Assignment → Bool
  | .list .. => true
  | .value .. => false

def traceDeclared (runner : Runner) (name : String) (args : List String) : Run Unit := do
  let c ← get
  if c.dialect = .bash && c.settings.traces && (name = "export" || name = "readonly") then
    for a in args do
      match Binding.ofText? a with
      | some (x, v, _) => traceLine runner (x ++ "=" ++ shown .bash v)
      | none => pure ()

def namedCommand (runner : Runner) (tested : Bool) (assigns : List Assignment)
    (name : String) (args : List String) (redirects : List Redirect) : Run Unit := do
  let c ← get
  let isFixed := c.dialect = .dash && Builtin.isSpecial name
  let declares := Grammar.declaring.contains name
  let lists := if declares then assigns.filter isList else []
  let assigns := if declares then assigns.filter (!isList ·) else assigns
  let body : Run Unit := do
    match ← Redirection.applyAll (means runner) redirects with
    | some f =>
      redirectFailure f
      if isFixed then throw .leaving
    | none =>
      let run : Run Unit := do
        let done ← assignAll runner c.streams (!isFixed) assigns
        let words := (name :: args).map (shown c.dialect)
        let before := if c.dialect = .dash then done.map (·.shown .dash) else []
        traceBefore runner c.streams (" ".intercalate (before ++ words))
        invoke runner tested name args
        for a in lists do
          let one ← expandAssignment (means runner) a
          match one.value with
          | .list items => Binding.forceList one.name one.appends items
          | .text _ => pure ()
        traceDeclared runner name args
      if isFixed || assigns.isEmpty then run else puttingBack (assigns.map nameOf) run
  if name = "exec" && args.isEmpty then
    body
    let c ← get
    modifyWorld (·.rehold c)
  else restoring c.streams body

def simple (runner : Runner) (tested : Bool) (line : Nat) (assigns : List Assignment)
    (words : List Word) (redirects : List Redirect) : Run Unit := do
  modify fun c => { c with line, substituted := none }
  let c ← get
  match c.dialect, Keyed.get? c.traps 1001 with
  | .bash, some action => if c.calls = 0 then act runner action
  | _, _ => pure ()
  let fields ← expandWords (means runner) words
  match fields with
  | [] => assignOnly runner assigns redirects
  | name :: args => namedCommand runner tested assigns name args redirects
  closeChannels runner c.channels

def pipeline (stages : List Command) : Run Unit := do
  let c ← get
  let ids ← stages.drop 1 |>.mapM fun _ => changeWorld (·.newPipe)
  let ends := (none :: ids.map some).zip (ids.map some ++ [none])
  let processes ← (stages.zip ends).mapM fun (stage, input, output) => do
    let own := copied c
    let own := match input with
      | some id => own.connect 0 (.source id)
      | none => own
    let own := match output with
      | some id => own.connect 1 (.sink id)
      | none => own
    start own (.command stage)
  let fates ← processes.mapM fateOf
  report (fates.getLastD (.exited 0))
  let statuses := fates.map Fate.status
  modify fun k => { k with pipeStatuses := statuses }
  if c.settings.failsInPipes then
    setStatus ((statuses.reverse.find? (· ≠ 0)).getD 0)

def background (command : Command) : Run Unit := do
  let c ← get
  let id ← changeWorld (·.open_ { node := .null })
  let number ← start ((copied c).connect 0 (.file id)) (.command command)
  Builtin.addJob number
  setStatus 0

def subshell (runner : Runner) (tested : Bool) (command : Command) : Run Unit := do
  report (← inChild runner id (runner tested command))

def roundEnd : Flow → Option (Option Flow)
  | .breaking 0 | .breaking 1 => some none
  | .breaking (n + 2) => some (some (.breaking (n + 1)))
  | .continuing 0 | .continuing 1 => none
  | .continuing (n + 2) => some (some (.continuing (n + 1)))
  | f => some (some f)

def inRound (body : Run Unit) : Run Bool := do
  match ← attempt body with
  | none => return false
  | some f =>
    match roundEnd f with
    | none => return false
    | some none => return true
    | some (some f) => throw f

def looping (body : Run Unit) : Run Unit := do
  let c ← get
  set { c with loops := c.loops + 1 }
  let leave : Run Unit := modify fun k => { k with loops := c.loops }
  tryCatch body fun f => do
    leave
    throw f
  leave

def loop (runner : Runner) (tested until_ : Bool) (condition body : Command) : Run Unit :=
  looping do
    let last ← iterate (0 : Nat) fun last => do
      -- Leaving the condition may end the loop or begin the next round.
      match ← attempt (runner true condition) with
      | some f =>
        match roundEnd f with
        | none => return .again last
        | some none => return .done 0
        | some (some f) => throw f
      | none =>
        if ((← get).status = 0) = until_ then return .done last
        else if ← inRound (runner tested body) then return .done (← get).status
        else return .again (← get).status
    setStatus last

def each (runner : Runner) (tested : Bool) (line : Nat) (name : String) (body : Command)
    (shownWords : String) (values : List String) : Run Unit := do
  modify fun c => { c with line }
  if values.isEmpty then setStatus 0
  looping do
    iterate values fun values => do
      match values with
      | [] => return .done ()
      | v :: rest =>
        let c ← get
        if c.dialect = .bash then traceLine runner s!"for {name} in {shownWords}"
        match c.dialect, Binding.fault? c name with
        | .bash, some text =>
          complain 1 text
          return .done ()
        | _, _ =>
          Binding.store name none false v
          if ← inRound (runner tested body) then return .done () else return .again rest

def sumOf (before : String) (text : String) : Run (Option Int) := do
  let c ← get
  match Arithmetic.evaluate c.dialect c.parameter? text with
  | .ok (v, assigned) =>
    for (x, n) in assigned do Expansion.assign x (toString n)
    return some v
  | .error e =>
    complain 1 (before ++ e.message text)
    return none

def sum (runner : Runner) (before : String) (w : Word) : Run (Option Int) := do
  let gs ← Expansion.word (means runner) Expansion.depth w
  let text := Expansion.text gs
  let bare := String.ofList ((text.toList.dropWhile (· = ' ')).reverse.dropWhile (· = ' ')).reverse
  if bare ≠ "" then traceLine runner s!"(( {bare} ))"
  sumOf before text

def isNothing (w : Word) : Bool := (Word.bare? w).any fun t => t.toList.all isBlank

def counting (runner : Runner) (tested : Bool) (line : Nat) (first condition next : Word)
    (body : Command) : Run Unit := do
  modify fun c => { c with line }
  let value (w : Word) : Run (Option Int) :=
    if isNothing w then return some 1 else sum runner "((: " w
  setStatus 0
  if (← value first).isNone then return
  looping do
    iterate () fun _ => do
      match ← value condition with
      | none | some 0 => return .done ()
      | some _ =>
        if ← inRound (runner tested body) then return .done ()
        else if (← value next).isNone then return .done ()
        else return .again ()

def anyAccepts (m : Expansion.Means) (t : String) : List Word → Run Bool
  | [] => return false
  | w :: ws => do
    let p ← Expansion.patternOf m w
    let folds := (← get).settings.extras.contains "nocasematch"
    if p.resembles folds t.toList then return true else anyAccepts m t ws

def branch (runner : Runner) (tested : Bool) (t : String) :
    Bool → Command → Run Unit
  | entered, .branch patterns body ending rest => do
    let taken ← if entered then pure true else anyAccepts (means runner) t patterns
    if taken then
      setStatus 0
      runner tested body
      match ending with
      | .done => return
      | .fallThrough => branch runner tested t true rest
      | .searchOn => branch runner tested t false rest
    else branch runner tested t false rest
  | _, _ => return

def choose (runner : Runner) (tested : Bool) (line : Nat) (w : Word) (branches : Command) :
    Run Unit := do
  modify fun c => { c with line }
  let t ← Expansion.whole (means runner) w
  if (← get).dialect = .bash then traceLine runner s!"case {t} in"
  setStatus 0
  branch runner tested t false branches

def redirected (runner : Runner) (tested : Bool) (command : Command)
    (redirects : List Redirect) : Run Unit := do
  let c ← get
  restoring c.streams do
    match ← Redirection.applyAll (means runner) redirects with
    | some f =>
      redirectFailure f
      checked runner tested
    | none => runner tested command
  closeChannels runner c.channels

def command (runner : Runner) (tested : Bool) (c : Command) : Run Unit := do
  match c with
  | .nothing => return
  | .simple line assigns words redirects =>
    simple runner tested line assigns words redirects
    checked runner tested
  | .redirected c redirects => redirected runner tested c redirects
  | .pipe stages =>
    pipeline stages
    checked runner tested
  | .negated c =>
    runner true c
    setStatus (if (← get).status = 0 then 1 else 0)
  | .both a b =>
    runner true a
    if (← get).status = 0 then runner tested b
  | .either a b =>
    runner true a
    if (← get).status ≠ 0 then runner tested b
  | .sequence a b =>
    runner tested a
    runner tested b
  | .background c => background c
  | .subshell c =>
    subshell runner tested c
    checked runner tested
  | .ifThen condition yes no =>
    runner true condition
    if (← get).status = 0 then runner tested yes
    else
      setStatus 0
      runner tested no
  | .loop until_ condition body => loop runner tested until_ condition body
  | .forEach line name words body =>
    let m := means runner
    match words with
    | none =>
      let args := (← get).args
      each runner tested line name body "\"$@\"" args
    | some ws =>
      modify fun c => { c with line }
      let fs ← Expansion.fields m ws
      each runner tested line name body (" ".intercalate (fs.map (shown .bash))) fs
  | .forCount line first condition next body =>
    counting runner tested line first condition next body
  | .choose line w branches => choose runner tested line w branches
  | .branch .. => return
  | .define _ name body =>
    modify fun c =>
      { c with functions := Keyed.set name ⟨body, c.origin⟩ c.functions, status := 0 }
  | .arithmetic line w =>
    modify fun c => { c with line }
    match ← sum runner "((: " w with
    | some v => setStatus (if v = 0 then 1 else 0)
    | none => pure ()
    checked runner tested
  | .question line q =>
    modify fun c => { c with line }
    let hit ← Question.holds (means runner) (prompt runner) q
    setStatus (if hit then 0 else 1)
    checked runner tested
  | .timed c =>
    runner tested c
    printLine 2 "\nreal\t0m0.000s\nuser\t0m0.000s\nsys\t0m0.000s"

def run : Nat → Runner
  | 0 => fun _ _ => throw (.killed 11)
  | n + 1 => command (run n)

def depth : Nat := 200000

end Freshen.Shell.Perform
