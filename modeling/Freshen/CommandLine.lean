import Freshen.Error
import Freshen.LogLevel
/-! The command line. Words are taken from left to right and the first error wins. An option whose
value is a word of its own is only checked when something else that is known begins. -/

namespace Freshen

inductive UsageError
  | help
  | version
  | unknownArgument
  | invalidValue
  | repeated
  | unwantedValue
  deriving DecidableEq, Repr

inductive Flag
  | force
  | silent
  | dryRun
  | help
  | version
  deriving DecidableEq, Repr

inductive Setting
  | file
  | logLevel
  deriving DecidableEq, Repr

inductive Switch
  | flag (f : Flag)
  | setting (s : Setting)
  deriving DecidableEq, Repr

namespace Switch

def long? : String → Option Switch
  | "force" => some (.flag .force)
  | "silent" => some (.flag .silent)
  | "dry-run" => some (.flag .dryRun)
  | "help" => some (.flag .help)
  | "version" => some (.flag .version)
  | "file" => some (.setting .file)
  | "log-level" => some (.setting .logLevel)
  | _ => none

def short? : Char → Option Switch
  | 'B' => some (.flag .force)
  | 's' => some (.flag .silent)
  | 'h' => some (.flag .help)
  | 'V' => some (.flag .version)
  | 'f' => some (.setting .file)
  | _ => none

end Switch

structure CommandLine where
  file : Option String := none
  force : Bool := false
  silent : Bool := false
  dryRun : Bool := false
  logLevel : Option LogLevel := none
  words : List String := []
  deriving DecidableEq, Repr

structure CommandLine.Draft where
  line : CommandLine := {}
  pending : Option (Setting × Option String) := none

namespace CommandLine

def defaultFile : String := "Hashmakefile.toml"

def description (c : CommandLine) : Path := ⟨c.file.getD defaultFile⟩

def set (c : CommandLine) : Setting → String → Except UsageError CommandLine
  | .file, v =>
    if c.file.isSome then .error .repeated
    else if v = "" then .error .invalidValue
    else .ok { c with file := some v }
  | .logLevel, v =>
    if c.logLevel.isSome then .error .repeated
    else match LogLevel.ofName? v with
    | none => .error .invalidValue
    | some l => .ok { c with logLevel := some l }

def raise (c : CommandLine) : Flag → Except UsageError CommandLine
  | .force => if c.force then .error .repeated else .ok { c with force := true }
  | .silent => if c.silent then .error .repeated else .ok { c with silent := true }
  | .dryRun => if c.dryRun then .error .repeated else .ok { c with dryRun := true }
  | .help => .error .help
  | .version => .error .version

namespace Draft

def resolve (d : Draft) : Except UsageError CommandLine :=
  match d.pending with
  | none => .ok d.line
  | some (_, none) => .error .invalidValue
  | some (s, some v) => d.line.set s v

def raise (d : Draft) (f : Flag) : Except UsageError Draft := do
  let c ← d.resolve
  return ⟨← c.raise f, none⟩

def set (d : Draft) (s : Setting) : Option String → Except UsageError Draft
  | some v => do
    let c ← d.resolve
    return ⟨← c.set s v, none⟩
  | none => do return ⟨← d.resolve, some (s, none)⟩

def positional (d : Draft) (w : String) : Except UsageError Draft := do
  let c ← d.resolve
  return ⟨{ c with words := c.words ++ [w] }, none⟩

def long (d : Draft) (name : String) (value : Option String) : Except UsageError Draft :=
  match Switch.long? name, value with
  | none, _ => .error .unknownArgument
  | some (.flag f), none => d.raise f
  | some (.flag _), some _ => .error .unwantedValue
  | some (.setting s), v => d.set s v

def shorts (d : Draft) : List Char → Except UsageError Draft
  | [] => .ok d
  | c :: cs =>
    match Switch.short? c with
    | none => .error .unknownArgument
    | some (.flag f) =>
      match d.raise f with
      | .error e => .error e
      | .ok d => shorts d cs
    | some (.setting s) =>
      match cs with
      | [] => d.set s none
      | '=' :: v => d.set s (some (String.ofList v))
      | v => d.set s (some (String.ofList v))

def cut (cs : List Char) : String × Option String :=
  match cs.dropWhile (· != '=') with
  | _ :: v => (String.ofList (cs.takeWhile (· != '=')), some (String.ofList v))
  | [] => (String.ofList cs, none)

def word (d : Draft) (w : String) : Except UsageError Draft :=
  match w.toList with
  | '-' :: '-' :: cs => let (name, value) := cut cs; d.long name value
  | '-' :: c :: cs => d.shorts (c :: cs)
  | _ =>
    match d.pending with
    | some (s, none) => .ok { d with pending := some (s, some w) }
    | _ => d.positional w

def words (d : Draft) : List String → Except UsageError Draft
  | [] => .ok d
  | w :: ws => if w = "--" then ws.foldlM positional d else (d.word w).bind (words · ws)

end Draft

def parse (words : List String) : Except UsageError CommandLine := do
  (← Draft.words {} words).resolve

end CommandLine

structure Request where
  goal : Option String := none
  params : List (String × String) := []
  force : Bool := false
  silent : Bool := false
  dryRun : Bool := false
  deriving DecidableEq, Repr

namespace Request

def addWord (r : Request) (w : String) : Except DescriptionError Request :=
  match CommandLine.Draft.cut w.toList, r.goal with
  | (name, some value), _ =>
    let name := Text.trim name
    if name = "" then .error (.namelessParameter w)
    else .ok { r with params := r.params ++ [(name, value)] }
  | (_, none), some first => .error (.secondGoal first w)
  | (_, none), none => .ok { r with goal := some w }

def ofCommandLine (c : CommandLine) : Except DescriptionError Request :=
  c.words.foldlM addWord { force := c.force, silent := c.silent, dryRun := c.dryRun }

end Request
end Freshen
