import Freshen.Project
import Freshen.Shell.Recipe
/-! The whole program: from the words of a command line to what is printed, the status it ends with
and the changed disk. -/

namespace Freshen

structure Environment where
  searchPath : List String := []
  logLevel : Option String := none

def Shell.site (shell : String) : Site Unit where
  files disk _ := disk.files
  execute disk _ job :=
    let (response, disk) := Shell.Recipe.execute shell disk job
    (response, disk, ())

namespace Program

def name : String := "hashmake"
def version : String := "0.1.0"

structure Performance where
  result : Except BuildError Report
  disk : Disk
  events : List Event := []

def perform (disk : Disk) (env : Environment) (c : CommandLine) : Performance :=
  match Request.ofCommandLine c with
  | .error e => ⟨.error (.description e), disk, []⟩
  | .ok request =>
    let loading := Description.loadChecked disk.files env.searchPath c.description request.params
    let noticed := loading.notices.map Event.noticed
    match loading.result with
    | .error e => ⟨.error e, disk, noticed⟩
    | .ok d =>
      let b := Project.build (Shell.site d.settings.effectiveShell) disk () c.description d request
      ⟨b.result, b.disk, noticed ++ b.events⟩

structure Exit where
  code : Nat
  out : String
  err : String
  disk : Disk

def valueText : Notice.Value → String
  | .text s => s
  | .number n => toString n

def levelText : Level → String
  | .warn => "WARN"
  | .error => "ERROR"

def logged (level : LogLevel) (n : Notice) : Bool :=
  match n.level with
  | .error => true
  | .warn => level ≠ .error

def logLine (n : Notice) : String :=
  levelText n.level ++ " " ++ n.message ++
    String.join (n.fields.map fun f => " " ++ f.1 ++ "=" ++ valueText f.2)

def text (level : LogLevel) (c : Channel) : Event → String
  | .printed l => if l.channel = c then l.text ++ "\n" else ""
  | .noticed n => if c = .err && logged level n then logLine n ++ "\n" else ""
  | _ => ""

def output (level : LogLevel) (c : Channel) (es : List Event) : String :=
  String.join (es.map (text level c))

def usage : String := "Usage: " ++ name ++ " [OPTIONS] [GOAL | NAME=VALUE]...\n"

def help : String :=
  "Rebuild targets whose inputs changed, judged by content digests.\n\n" ++ usage ++
    "\nOptions:\n" ++
    "  -f, --file <FILE>        Build description [default: " ++ CommandLine.defaultFile ++ "]\n" ++
    "  -B, --force              Treat everything as out of date\n" ++
    "  -s, --silent             Print nothing but what recipes print\n" ++
    "      --dry-run            Show what would be done\n" ++
    "      --log-level <LEVEL>  error, warn, info, debug or trace\n" ++
    "  -h, --help               Print help\n" ++
    "  -V, --version            Print version\n"

def usageText : UsageError → String
  | .help | .version => ""
  | .unknownArgument => "unknown argument"
  | .invalidValue => "missing or invalid value of an option"
  | .repeated => "an option is given twice"
  | .unwantedValue => "a flag takes no value"

def run (disk : Disk) (env : Environment) (words : List String) : Exit :=
  match CommandLine.parse words with
  | .error .help => ⟨0, help, "", disk⟩
  | .error .version => ⟨0, name ++ " " ++ version ++ "\n", "", disk⟩
  | .error e => ⟨2, "", "error: " ++ usageText e ++ "\n\n" ++ usage, disk⟩
  | .ok c =>
    let level := LogLevel.chosen c.logLevel env.logLevel
    let p := perform disk env c
    let err := output level .err p.events
    match p.result with
    | .ok _ => ⟨0, output level .out p.events, err, p.disk⟩
    | .error e => ⟨1, output level .out p.events, err ++ name ++ ": " ++ e.message ++ "\n", p.disk⟩

end Program
end Freshen
