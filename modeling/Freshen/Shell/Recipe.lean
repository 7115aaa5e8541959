import Freshen.Recipe
import Freshen.Shell.Schedule
import Freshen.Text.Lines
/-! Recipes run by a shell. The shell stands in the directory of the job, knows the target and its
dependencies by number and by name, and has nothing to read. -/

namespace Freshen.Shell.Recipe

open Run

def invocationName : String := "hashmake"

def arguments (j : Job) : List String :=
  ["-c", j.recipe, invocationName, j.target, j.inputsText, j.outdatedText]

def environment (place : Path) (j : Job) : List (String × Variable) :=
  [("PATH", Executable.usualPlaces), ("HOME", "/root"), ("PWD", place.text), ("TARGET", j.target),
    ("INPUTS", j.inputsText), ("OODATE", j.outdatedText)].map fun e =>
      (e.1, { value := some e.2, isExported := true })

def start (l : Location) (shell : String) (j : Job) : Seed where
  context := {
    name := shell
    bindings := environment l.path j
    streams := [(0, .file 0), (1, .sink 0), (2, .sink 1)]
    directory := l
    place := l.path.text }
  task := .program shell (arguments j)

def begin (disk : Disk) (l : Location) (shell : String) (j : Job) : World :=
  let w : World := { disk, opened := #[{ node := .null }] }
  ((w.newBuffer).2.newBuffer).2.seed (start l shell j)

def isOver (w : World) : Bool := w.hasEnded 1 && (w.pipe 0).isAtEnd && (w.pipe 1).isAtEnd

def outcome (w : World) : Outcome :=
  match Keyed.get? w.ended 1 with
  | some (.exited n) => if n % 256 = 0 then .success else .failed (n % 256 : Nat)
  | _ => .failed (-1)

def linesOf (w : World) (c : Channel) (pipe : Nat) : List OutputLine :=
  (Text.leadingLines (w.pipe pipe).content).map (⟨c, ·⟩)

def holdsNul (s : String) : Bool := s.toList.contains '\x00'

def fault? (d : Disk) (shell : String) (j : Job) : Option OsError :=
  if holdsNul shell || (arguments j).any holdsNul then some .nulInArgument
  else match Executable.find d Executable.usualPlaces shell with
  | .error e => some e
  | .ok path =>
    let told := (environment d.current.path j).map fun e => e.1 ++ "=" ++ e.2.value.getD ""
    match Executable.ofPath d path shell (arguments j) told with
    | .error e => some e
    | .ok _ => none

def execute (shell : String) (disk : Disk) (j : Job) : Response × Disk :=
  let failing (e : OsError) : Response × Disk := (⟨.error (.spawning j.target e), []⟩, disk)
  match disk.find j.workdir with
  | .error e => failing e
  | .ok (l, .directory) =>
    match fault? { disk with current := l } shell j with
    | some e => failing e
    | none =>
      let w := Schedule.run isOver Schedule.limit [] (begin disk l shell j)
      (⟨.ok (outcome w), linesOf w .out 0 ++ linesOf w .err 1⟩,
        { w.disk with current := disk.current, mask := disk.mask })
  | .ok _ => failing .notDirectory

end Freshen.Shell.Recipe
