import Freshen.Shell.Awk.Session
import Freshen.Shell.Launch.Launcher
/-! Programs for records: what the arguments ask for, and how the program reaches what is around
it. -/

namespace Freshen.Shell.Awk

open Run

structure Request where
  files : List String := []
  assigned : List (String × String) := []
  program : Option String := none
  operands : List String := []

namespace Request

inductive Fault
  | unknown (word : String)
  | valueMissing (option : Char)
  | improper (assignment : String)
  | usage
  | version
  deriving DecidableEq, Repr

def Fault.message : Fault → String
  | unknown w => s!"not an option: {w}"
  | valueMissing c => s!"option -{c} lacks argument"
  | improper a => s!"improper assignment: -v {a}"
  | usage | version => ""

def fieldSeparator (v : String) : String × String := ("FS", v)

def read (r : Request) : Nat → List String → Except Fault Request
  | 0, ws => .ok { r with operands := ws }
  | _ + 1, [] => .ok r
  | n + 1, w :: ws =>
    let rest (r : Request) (ws : List String) : Except Fault Request :=
      if r.files.isEmpty then
        match ws with
        | p :: ws => .ok { r with program := some p, operands := ws }
        | [] => .ok r
      else .ok { r with operands := ws }
    match w.toList with
    | ['-', '-'] => rest r ws
    | '-' :: '-' :: name =>
      let name := String.ofList name
      if name = "version" then .error .version
      else if name = "help" || name = "usage" then .error .usage
      else .error (.unknown w)
    | '-' :: c :: v =>
      if !(['F', 'v', 'f', 'W'].contains c) then .error (.unknown w)
      else
        let (value?, ws) : Option String × List String :=
          if v.isEmpty then (ws.head?, ws.drop 1) else (some (String.ofList v), ws)
        match value? with
        | none => .error (.valueMissing c)
        | some v =>
          match c with
          | 'F' => read { r with assigned := r.assigned ++ [fieldSeparator v] } n ws
          | 'f' => read { r with files := r.files ++ [v] } n ws
          | 'W' =>
            if "version".startsWith v then .error .version
            else if "help".startsWith v || "usage".startsWith v then .error .usage
            else read r n ws
          | _ =>
            match Act.assignment? (bytesOf v) with
            | some a => read { r with assigned := r.assigned ++ [a] } n ws
            | none => .error (.improper v)
    | _ => rest r (w :: ws)

end Request

def usage : List String :=
  ["Usage: mawk [Options] [Program] [file ...]", "", "Program:",
    "    The -f option value is the name of a file containing program text.",
    "    If no -f option is given, a \"--\" ends option processing; the following",
    "    parameters are the program text.", "", "Options:",
    "    -f program-file  Program  text is read from file instead of from the",
    "                     command-line.  Multiple -f options are accepted.",
    "    -F value         sets the field separator, FS, to value.",
    "    -v var=value     assigns value to program variable var.",
    "    --               unambiguous end of options.", "",
    "    Implementation-specific options are prefixed with \"-W\".  They can be",
    "    abbreviated:", "",
    "    -W version       show version information and exit.",
    "    -W compat        pre-POSIX 2001.",
    "    -W dump          show assembler-like listing of program and exit.",
    "    -W help          show this message and exit.",
    "    -W interactive   set unbuffered output, line-buffered input.",
    "    -W exec file     use file as program as well as last option.",
    "    -W posix         stricter POSIX checking.",
    "    -W random=number set initial random seed.",
    "    -W sprintf=number adjust size of sprintf buffer.",
    "    -W usage         show this message and exit."]

def blockSize : Nat := 4096

def statusOf : Fate → Int
  | .exited n => n % 256
  | .signalled n => 256 + n

def runCommand (launch : Launcher) (command : String) (change : Context → Context) : Run Fate :=
  Launch.apart (Launch.within change (launch "/bin/sh" ["-c", command] fun _ => return .exited 127))

def inputFault (c : Context) (w : World) : Option OsError :=
  match c.stream? 0 with
  | some (.file id) =>
    if (w.opened.getD id default).node = .directory then some .isDirectory else none
  | _ => none

def reply (launch : Launcher) : Question → Run Reply
  | .input => do
    match inputFault (← get) (← world) with
    | some e => return { fault := some e }
    | none =>
      let enough (bs : Bytes) : Bool := blockSize ≤ bs.length
      let bs ← takeBy enough (fun bs => min blockSize bs.length) none 0
      return { bytes := bs.getD [] }
  | .read file => do
    match (← disk).readAll ⟨file⟩ with
    | .ok b => return { bytes := b.data.toList }
    | .error e => return { fault := some e }
  | .create file appends => do
    let d ← disk
    let r := if appends then (d.openToWrite ⟨file⟩).map (·.2) else d.write ⟨file⟩ ⟨#[]⟩
    match r with
    | .ok d =>
      setDisk d
      return {}
    | .error e => return { fault := some e }
  | .append file bs => do
    let d ← disk
    match (d.readAll ⟨file⟩).bind fun b => d.write ⟨file⟩ ⟨b.data ++ bs.toArray⟩ with
    | .ok d =>
      setDisk d
      return {}
    | .error e => return { fault := some e }
  | .say descriptor bs => do
    let fault ← write descriptor bs
    return { isBroken := fault matches some .broken }
  | .run command input => do
    match input with
    | some bs =>
      let id ← changeWorld (·.pipeHolding bs)
      return { number := statusOf (← runCommand launch command (·.connect 0 (.source id))) }
    | none => return { number := statusOf (← runCommand launch command id) }
  | .capture command => do
    let id ← changeWorld (·.newBuffer)
    let fate ← runCommand launch command (·.connect 1 (.sink id))
    return { bytes := ← drainPipe id, number := statusOf fate }
  | .time => return { number := (← world).disk.clock / Moment.second }

def answered (launch : Launcher) : Asking α → Run α
  | .done a => return a
  | .asks q next => do answered launch (next (← reply launch q))

def source (r : Request) : Run (Except (String × OsError) (String × List (String × Nat))) := do
  match r.program with
  | some t => return .ok (t, [])
  | none =>
    let d ← disk
    let texts : Except (String × OsError) (List (String × String)) := r.files.mapM fun f =>
      match d.readAll ⟨f⟩ with
      | .ok b => .ok (f, Text.Utf8.lenient b)
      | .error e => .error (f, e)
    return texts.map fun ts =>
      ("\n".intercalate (ts.map (·.2)), ts.map fun (f, t) => (f, (t.splitOn "\n").length))

def placed : Nat → List (String × Nat) → Option String × Nat
  | line, [] => (none, line)
  | line, [(f, _)] => (some f, line)
  | line, (f, k) :: fs => if line ≤ k then (some f, line) else placed (line - k) fs

def explain (name : String) : Request.Fault → Run Fate
  | .usage => do
    for l in usage do printLine 1 l
    return .exited 0
  | .version => do
    printLine 1 "mawk 1.3.4 20240123"
    return .exited 0
  | f => do
    printLine 2 s!"{name}: {f.message}"
    return .exited 2

def run (launch : Launcher) (name : String) (args : List String) : Run Fate := do
  match ({} : Request).read (args.length + 1) args with
  | .error f => explain name f
  | .ok r =>
    if r.program.isNone && r.files.isEmpty then
      for l in usage do printLine 2 l
      return .exited 0
    else match ← source r with
    | .error (f, e) =>
      printLine 2 s!"{name}: cannot open \"{f}\" ({e.text})"
      return .exited 2
    | .ok (text, files) =>
      match Program.parse text with
      | .error (flaw, line) =>
        let (file, line) := placed line files
        for t in flaw.remarks file line do printLine 2 s!"{name}: {t}"
        return .exited 2
      | .ok p =>
        let s : Settings := {
          arguments := name :: r.operands
          environment := (← get).exported
          assigned := r.assigned }
        match ← answered launch (p.run s) with
        | .ended n => return .exited (n % 256).toNat
        | .unheard => return .signalled 13

end Freshen.Shell.Awk
