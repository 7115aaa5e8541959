import Freshen.Shell.Launch.Awk
import Freshen.Shell.Launch.Search
import Freshen.Shell.Redirection
/-! Running programs. A program is told nothing but its arguments, its streams and what is exported,
and it changes nothing but the disk. -/

namespace Freshen.Shell.Launch

open Run

def sayAll (texts : List String) : Run Unit := do
  for t in texts do printLine 2 t

def inOrder (r : Result) : Run (Option WriteFault) := do
  let mut done := 0
  let mut fault : Option WriteFault := none
  for (text, mark) in r.complaints.zip (r.marks ++ r.complaints.map fun _ => r.out.length) do
    if fault.isNone then fault ← write 1 ((r.out.drop done).take (mark - done))
    done := mark
    printLine 2 text
  if fault.isNone then fault ← write 1 (r.out.drop done)
  return fault

def emit (r : Result) : Run (Option WriteFault) := do
  if r.isDirect then inOrder r
  else
    sayAll r.complaints
    write 1 r.out

def repeated (bs : Bytes) : Run (Option WriteFault) :=
  iterate () fun _ => do
    match ← write 1 bs with
    | some f => return .done (some f)
    | none => return .again ()

def finish (name : String) (r : Result) : Run Fate := do
  setDisk r.disk
  let fault ← if r.isEndless then repeated r.out else emit r
  if 0 < r.lasts then sleep r.lasts
  match fault with
  | some .broken => return .signalled 13
  | some .closed =>
    if r.out.isEmpty then return .exited r.status
    else
      let what := if name = "cat" || name = "tee" then "standard output" else "write error"
      printLine 2 s!"{name}: {what}: Bad file descriptor"
      return .exited 1
  | none => return .exited r.status

def fileOf (w : World) (c : Context) (descriptor : Nat) : Option Nat :=
  match c.stream? descriptor with
  | some (.file id) => w.fileNumber? id
  | _ => none

def call (name : String) (args : List String) (input : Bytes) : Run Call := do
  let c ← get
  let w ← world
  return {
    name, args, input, disk := ← disk, output := fileOf w c 1, source := fileOf w c 0 }

def feed (f : Call → Result) (name : String) (args : List String) : Run Result := do
  match (← get).stream? 0 with
  | some (.source id) =>
    iterate ([] : Bytes) fun before => do
      waitFor (fun w => (w.pipe id).isAtEnd || (w.pipe id).isFull) none
      let atEnd := ((← world).pipe id).isAtEnd
      let bs := before ++ (← changeWorld (·.take id))
      let r := f (← call name args bs)
      return if atEnd || r.isSated then .done r else .again bs
  | some (.file id) =>
    if ((← world).opened.getD id default).node = .directory then
      return Utility.failing (← call name args []) 1 s!"-: {OsError.isDirectory.text}"
    else
      let bs := (← world).remaining id
      let r := f (← call name args bs)
      modifyWorld (·.skipped id (r.taken.getD bs.length))
      return r
  | _ =>
    let c ← call name args []
    let r := Utility.failing c 1 "-: Bad file descriptor"
    return if name = "cat" then
      Utility.complain c r 1 "closing standard input: Bad file descriptor" else r

def utility (f : Call → Result) (name : String) (args : List String) : Run Fate := do
  let c ← call name args []
  -- Only a program that asks for input takes any.
  let r := f c
  let r ← if r.tookInput then feed f name args else pure r
  finish name r

def misused (name : String) (status : Nat) (complaint : String) : Run Fate := do
  let c ← call name [] []
  sayAll (Utility.misuse c status complaint).complaints
  return .exited status

def cannotStart (name shown : String) (e : OsError) : Run Fate := do
  printLine 2 s!"{name}: {shown}: {e.text}"
  return .exited (if e = .notFound then 127 else 126)

def asShell (runner : Runner) (change : Context → Context) (body : Run Unit) : Run Fate := do
  if (← get).isAlone then within change (Script.conclude runner body)
  else Script.inChild runner change body

def fresh (d : Dialect) (i : Invocation) (name label origin scriptLabel : String)
    (args : List String) (c : Context) : Context :=
  { dialect := d
    name, label, origin, scriptLabel, args
    bindings := Keyed.set "OPTIND" { value := some "1" } (c.bindings.filter (·.2.isExported))
    settings := i.settings
    streams := c.streams
    directory := c.directory
    place := c.place
    mask := c.mask
    traps := c.traps.filter (·.2 = "")
    shell := c.process
    process := c.process
    parent := c.parent }

def bashUsage (name complaint : String) : Run Fate := do
  printLine 2 s!"{name}: {complaint}"
  sayAll ["Usage:\t" ++ name ++ " [GNU long option] [option] ...",
    "\t" ++ name ++ " [GNU long option] [option] script-file ...", "GNU long options:"]
  sayAll ((["debug", "debugger", "dump-po-strings", "dump-strings", "help", "init-file", "login",
    "noediting", "noprofile", "norc", "posix", "pretty-print", "rcfile", "restricted", "verbose",
    "version"]).map ("\t--" ++ ·))
  sayAll ["Shell options:", "\t-ilrsD or -c command or -O shopt_option\t\t(invocation only)",
    "\t-abefhkmnptuvxBCEHPT or -o option"]
  return .exited 2

def shell (runner : Runner) (d : Dialect) (name : String) (args : List String) : Run Fate := do
  match ({} : Invocation).parse d (args.length + 1) args with
  | .error (.unknown o) =>
    match d with
    | .dash =>
      printLine 2 s!"{name}: 0: Illegal option {o}"
      return .exited 2
    | .bash => bashUsage name s!"{o}: invalid option"
  | .error (.unknownLong w) => bashUsage name s!"{w}: invalid option"
  | .error .version =>
    printLine 1 "GNU bash, version 5.2.15(1)-release (x86_64-pc-linux-gnu)"
    return .exited 0
  | .ok i =>
    let start (name label origin scriptLabel : String) (args : List String) (text : String) :
        Run Fate :=
      asShell runner (fresh d i name label origin scriptLabel args)
        (Script.run runner false true 1 text)
    if i.isCommand then
      match i.operands with
      | [] =>
        match d with
        | .dash => printLine 2 s!"{name}: 0: -c requires an argument"
        | .bash => printLine 2 s!"{name}: -c: option requires an argument"
        return .exited 2
      | text :: rest =>
        let own := rest.headD name
        start own own "environment" "-c: " (rest.drop 1) text
    else match i.readsInput, i.operands with
    | false, file :: rest =>
      match (← disk).readAll ⟨file⟩ with
      | .ok b => start file file file "" rest (Text.Utf8.lenient b)
      | .error e =>
        match d with
        | .dash =>
          if e = .isDirectory then return .exited 0
          let reason := if Redirection.Fault.isMissing e then "No such file" else e.text
          printLine 2 s!"{name}: 0: cannot open {file}: {reason}"
          return .exited 2
        | .bash =>
          let shown := if e = .isDirectory then file else name
          printLine 2 s!"{shown}: {file}: {e.text}"
          return .exited (if e = .notFound then 127 else 126)
    | _, rest =>
      let bs ← drain 0
      start name name "main" "" rest (Text.Utf8.lenient ⟨(bs.filter (· ≠ 0)).toArray⟩)

def plainScript (runner : Runner) (d : Dialect) (path : String) (args : List String) :
    Run Fate := do
  match (← disk).readAll ⟨path⟩ with
  | .ok b =>
    asShell runner (fresh d {} path path path "" args)
      (Script.run runner false true 1 (Text.Utf8.lenient b))
  | .error _ => return .exited 126

def env (launch : Launcher) (name : String) (args : List String) : Run Fate := do
  match ({} : Surround).read (2 * args.length + 2) args with
  | .error f => misused name 125 f.message
  | .ok e =>
    let c ← get
    let arrive (c : Context) : Run (Option Context) := do
      match e.directory with
      | none => return some c
      | some dir =>
        match (← disk).find ⟨dir⟩ with
        | .ok (l, .directory) => return some { c with directory := l, place := l.path.text }
        | _ =>
          printLine 2 s!"{name}: cannot change directory to '{dir}': {OsError.notFound.text}"
          return none
    match ← arrive (e.applied c) with
    | none => return .exited 125
    | some changed =>
      match e.command with
      | [] =>
        for (x, v) in changed.exported do printLine 1 (x ++ "=" ++ v)
        return .exited 0
      | x :: args => within (fun _ => changed) (launch x args (cannotStart name s!"'{x}'"))

def printenv (name : String) (args : List String) : Run Fate := do
  match Utility.Arguments.parse ⟨['0'], [], [("null", '0')], []⟩ args with
  | .error f => misused name 2 f.message
  | .ok a =>
    let known := (← get).exported
    let ends := if a.has '0' then "\x00" else "\n"
    if a.operands.isEmpty then
      for (x, v) in known do print 1 (bytesOf (x ++ "=" ++ v ++ ends))
      return .exited 0
    else
      let values := a.operands.map (Keyed.get? known)
      for v in values.filterMap id do print 1 (bytesOf (v ++ ends))
      return .exited (if values.all (·.isSome) then 0 else 1)

def callAll (launch : Launcher) (name : String) (b : Batches) :
    Nat → List (List String) → Run Nat
  | status, [] => return status
  | status, words :: more => do
    let args := b.call words
    if b.traces then printLine 2 (" ".intercalate (b.command :: args))
    let fate ← apart (launch b.command args (cannotStart name b.command))
    match fate with
    | .signalled n =>
      printLine 2 s!"{name}: {b.command}: terminated by signal {n}"
      return 125
    | .exited 255 =>
      printLine 2 s!"{name}: {b.command}: exited with status 255; aborting"
      return 124
    | .exited 126 => return 126
    | .exited 127 => return 127
    | .exited n => callAll launch name b (if n = 0 then status else 123) more

def xargs (launch : Launcher) (name : String) (args : List String) : Run Fate := do
  match ({} : Batches).read (2 * args.length + 2) args with
  | .error f => misused name 1 f.message
  | .ok b =>
    match b.cut (← drain 0) with
    | .error q =>
      let kind := if q = '\'' then "single" else "double"
      printLine 2 (s!"{name}: unmatched {kind} quote; by default quotes are special to xargs " ++
        "unless you use the -0 option")
      return .exited 1
    | .ok calls =>
      let id ← changeWorld (·.pipeHolding [])
      within (·.connect 0 (.source id)) do
        return .exited (← callAll launch name b 0 calls)

def timeout (name : String) (args : List String) : Run Fate := do
  let isValue (w : String) : Bool := ["-s", "-k", "--signal", "--kill-after"].contains w
  let rec cut : Nat → List String → List (String × String) → List (String × String) × List String
    | 0, ws, os => (os, ws)
    | _ + 1, [], os => (os, [])
    | n + 1, w :: ws, os =>
      if isValue w then cut n (ws.drop 1) ((w, ws.headD "") :: os)
      else if w.startsWith "-" then cut n ws ((w, "") :: os)
      else (os, w :: ws)
  let (options, operands) := cut (args.length + 1) args []
  let valueOf (short long : String) : Option String :=
    options.findSome? fun (o, v) =>
      if o = short || o = "--" ++ long then some v
      else if o.startsWith ("--" ++ long ++ "=") then some (o.drop (long.length + 3)).toString
      else if o.startsWith short && !o.startsWith "--" then some (o.drop 2).toString
      else none
  match operands with
  | interval :: x :: args =>
    match Duration.ofText? interval with
    | none => misused name 125 s!"invalid time interval '{interval}'"
    | some t =>
      let signal := ((valueOf "-s" "signal").bind (Builtin.signal? .bash)).getD 15
      let c ← get
      let places := (c.valueOf? "PATH").getD Executable.usualPlaces
      match Executable.find (← disk) places x with
      | .error e =>
        printLine 2 s!"{name}: failed to run command '{x}': {e.text}"
        return .exited (if e = .notFound then 127 else 126)
      | .ok _ =>
        let now := (← world).disk.clock
        let number ← start (Script.copied c) (.program x args)
        waitFor (·.hasEnded number) (if t = 0 then none else some (now + t))
        if (← world).hasEnded number then return ← fateOf number
        modifyWorld (·.signal number signal)
        match (valueOf "-k" "kill-after").bind Duration.ofText? with
        | some k =>
          let now := (← world).disk.clock
          waitFor (·.hasEnded number) (some (now + k))
          if !(← world).hasEnded number then modifyWorld (·.signal number 9)
        | none => pure ()
        let fate ← fateOf number
        if signal = 9 then return .signalled 9
        else return .exited (if options.any (·.1 = "--preserve-status") then fate.status else 124)
  | _ =>
    sayAll [s!"Try '{name} --help' for more information."]
    return .exited 125

def plainly (launch : Launcher) (name : String) (args : List String) : Run Fate := do
  let args := match args with
    | "-n" :: _ :: rest => rest
    | args => args
  match args with
  | [] =>
    if name = "nice" then
      printLine 1 "0"
      return .exited 0
    else misused name 125 "missing operand"
  | x :: args =>
    launch x args fun e => do
      if name = "nohup" then
        printLine 2 s!"{name}: failed to run command '{x}': {e.text}"
        return .exited (if e = .notFound then 127 else 126)
      else cannotStart name s!"'{x}'" e

def which (name : String) (args : List String) : Run Fate := do
  let options := args.takeWhile fun a => a.startsWith "-" && a ≠ "-" && a ≠ "--"
  let operands := args.drop options.length
  let names := if operands.head? = some "--" then operands.drop 1 else operands
  let letters := options.flatMap fun o => o.toList.drop 1
  match letters.find? fun l => l ≠ 'a' && l ≠ 's' with
  | some l =>
    printLine 2 s!"Illegal option -{l}"
    let path := if Executable.hasSlash name then name else "/usr/bin/" ++ name
    printLine 1 s!"Usage: {path} [-as] args"
    return .exited 2
  | none =>
    let c ← get
    let d ← disk
    let places := (c.valueOf? "PATH").getD Executable.usualPlaces
    let isProgram (p : String) : Bool := (Executable.atPath d p).toOption.isSome
    let mut missing := names.isEmpty
    for n in names do
      let paths := if Executable.hasSlash n then [n] else
        (Executable.candidates places n).map fun p => if p = n then "./" ++ n else p
      let found := paths.filter isProgram
      if found.isEmpty then missing := true
      if !letters.contains 's' then
        for p in (if letters.contains 'a' then found else found.take 1) do printLine 1 p
    return .exited (if missing then 1 else 0)

def execute (runner : Runner) (launch : Launcher) (s : Executable.Start) : Run Fate := do
  match Dialect.ofProgram? s.program, Utility.find? s.program with
  | some d, _ => shell runner d s.name s.args
  | none, some f => utility f s.name s.args
  | none, none =>
    match s.program with
    | "env" => env launch s.name s.args
    | "printenv" => printenv s.name s.args
    | "xargs" => xargs launch s.name s.args
    | "timeout" => timeout s.name s.args
    | "find" => Search.run (fun x args cannot => apart (launch x args cannot)) s.name s.args
    | "awk" | "mawk" => Awk.run launch s.name s.args
    | "nohup" | "nice" => plainly launch s.name s.args
    | "which" => which s.name s.args
    | "kill" =>
      Builtin.kill s.args
      return .exited (← get).status
    | _ => return .exited 127

def environment (c : Context) : List String := c.exported.map fun e => e.1 ++ "=" ++ e.2

def start (runner : Runner) (launch : Launcher) (plain : Option Dialect) (path name : String)
    (args : List String) (cannot : OsError → Run Fate) : Run Fate := do
  let c ← get
  match Executable.ofPath (← disk) path name args (environment c), plain with
  | .ok s, _ => execute runner launch s
  | .error .badFormat, some d => plainScript runner d path args
  | .error e, _ => cannot e

def launch (runner : Runner) : Nat → Launcher
  | 0 => fun _ _ _ => return .exited 126
  | n + 1 => fun name args cannot => do
    let c ← get
    let places := (c.valueOf? "PATH").getD Executable.usualPlaces
    match Executable.find (← disk) places name with
    | .error e => cannot e
    | .ok path => start runner (launch runner n) (some .dash) path name args cannot

def depth : Nat := 64

end Freshen.Shell.Launch
