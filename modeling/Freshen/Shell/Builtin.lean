import Freshen.Shell.Builtin.Declaration
import Freshen.Shell.Builtin.Jobs
import Freshen.Shell.Builtin.Place
import Freshen.Shell.Builtin.Reading
import Freshen.Shell.Condition
/-! Commands that the shell does itself, because they change the shell or ask about it. -/

namespace Freshen.Shell.Builtin

open Run

def emit (name : String) (bs : Bytes) : Run Unit := do
  match ← write 1 bs with
  | none => return
  | some .broken => throw (.killed 13)
  | some .closed =>
    if !bs.isEmpty then
      match ← dialect with
      | .dash => remark 1 s!"{name}: {name}: I/O error"
      | .bash => remark 1 s!"{name}: write error: Bad file descriptor"

def echo : Action := fun args => do
  let c ← get
  done
  let o : Echo.Options := { escapes := c.settings.extras.contains "xpg_echo" }
  emit "echo" (match c.dialect with
    | .dash => Echo.always args
    | .bash => Echo.onRequest o args)

def formatTo (put : Bytes → Run Unit) (args : List String) : Run Unit := do
  let d ← dialect
  match args with
  | [] =>
    match d with
    | .dash => remark 2 "printf: usage: printf format [arg ...]"
    | .bash =>
      adviseUsage "printf"
      setStatus 2
  | f :: args =>
    let o := Printf.format (Printf.Manner.ofDialect d) f args
    for text in o.complaints do remark 1 s!"printf: {text}"
    setStatus (o.fault.getD (if o.failed then 1 else 0))
    put o.bytes

def printf : Action := fun args => do
  withOptions "printf" "" (if (← dialect) = .dash then "" else "v") args fun o =>
    match o.value? 'v' with
    | none => formatTo (emit "printf") o.operands
    | some x => do
      if !Binding.isPlace .bash x then badName "printf" x
      else
        formatTo (fun bs => do
          let value := Text.Utf8.lenient ⟨bs.toArray⟩
          Binding.store (Binding.place x).1 (Binding.place x).2 false value) o.operands

def setting : Run Condition.Setting := do
  let c ← get
  return {
    dialect := c.dialect
    disk := ← disk
    isSet := fun x => (c.parameter? x).isSome
    isOn := fun name => isOn c.settings name }

def test (name : String) : Action := fun args => do
  let s ← setting
  let isOpen := name = "test" || args.getLast? = some "]"
  let args := if name = "[" then args.dropLast else args
  if !isOpen then remark 2 (if s.dialect = .dash then "[: missing ]" else "[: missing \x60]'")
  else match Condition.holds s args with
  | .ok b => setStatus (if b then 0 else 1)
  | .error f => remark 2 s!"{name}: {f.message s.dialect}"

def hash : Action := fun args => do
  let c ← get
  let names := args.filter (!·.startsWith "-")
  done
  if names.isEmpty then
    if c.dialect = .bash && args.isEmpty then printLine 1 "hash: hash table empty"
  else
    let d ← disk
    for x in names do
      let places := (c.valueOf? "PATH").getD ""
      if (Executable.find d places x).toOption.isNone then
        remark 1 s!"hash: {x}: not found"

def noControl (name : String) : Action := fun _ => do
  match ← dialect with
  | .dash => remark 2 s!"{name}: No current job"
  | .bash => remark 1 s!"{name}: no job control"

def inBoth? : String → Option Action
  | ":" | "true" => some fun _ => done
  | "false" => some fun _ => setStatus 1
  | "exit" => some exit
  | "return" => some return_
  | "break" => some break_
  | "continue" => some continue_
  | "cd" => some cd
  | "set" => some set_
  | "shift" => some shift
  | "export" => some export_
  | "readonly" => some readonly
  | "local" => some local_
  | "unset" => some unset
  | "read" => some read
  | "kill" => some kill
  | "trap" => some trap
  | "wait" => some wait
  | "jobs" => some jobs
  | "echo" => some echo
  | "printf" => some printf
  | "test" => some (test "test")
  | "[" => some (test "[")
  | "pwd" => some pwd
  | "umask" => some umask
  | "times" => some times
  | "ulimit" => some ulimit
  | "getopts" => some getopts
  | "alias" => some defineAlias
  | "unalias" => some unalias
  | "hash" => some hash
  | "fg" => some (noControl "fg")
  | "bg" => some (noControl "bg")
  | _ => none

def inBashOnly? : String → Option Action
  | "declare" => some (declareAs "declare" false)
  | "typeset" => some (declareAs "typeset" false)
  | "let" => some let_
  | "shopt" => some shopt
  | "pushd" => some pushd
  | "popd" => some popd
  | "dirs" => some dirs
  | "mapfile" => some (mapfile "mapfile")
  | "readarray" => some (mapfile "readarray")
  | "disown" | "history" | "enable" | "complete" | "bind" => some fun _ => done
  | "caller" | "compgen" => some fun _ => setStatus 1
  | "suspend" => some fun _ => remark 1 "suspend: cannot suspend: no job control"
  | "logout" => some fun _ => remark 1 "logout: not login shell: use \x60exit'"
  | _ => none

def find? (d : Dialect) (name : String) : Option Action :=
  match inBoth? name with
  | some a => some a
  | none =>
    match d with
    | .bash => inBashOnly? name
    | .dash => if name = "chdir" then some cd else none

def runners (d : Dialect) : List String :=
  ["eval", "exec", ".", "command", "type"] ++
    if d = .bash then ["source", "builtin"] else []

def isBuiltin (d : Dialect) (name : String) : Bool :=
  (find? d name).isSome || (runners d).contains name

end Freshen.Shell.Builtin
