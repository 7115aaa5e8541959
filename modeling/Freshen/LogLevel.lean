import Freshen.Text.Blank
import Freshen.Text.Lower
/-! How much is logged: what the command line says, else what the environment says, else
warnings. -/

namespace Freshen

inductive LogLevel
  | error
  | warn
  | info
  | debug
  | trace
  deriving DecidableEq, Repr

namespace LogLevel

def name : LogLevel → String
  | error => "error"
  | warn => "warn"
  | info => "info"
  | debug => "debug"
  | trace => "trace"

def ofName? (s : String) : Option LogLevel :=
  [error, warn, info, debug, trace].find? (·.name = s)

def ofEnvironment? (s : String) : Option LogLevel :=
  let s := Text.lower (Text.trim s)
  if s = "warning" then some warn else ofName? s

def chosen (flag : Option LogLevel) (environment : Option String) : LogLevel :=
  (flag <|> environment.bind ofEnvironment?).getD warn

end LogLevel
end Freshen
