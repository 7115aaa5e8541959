import Freshen.Shell.Executable
import Freshen.Shell.Expansion
/-! What the commands of the shell itself have in common: options, numbers, and what happens when
they are used wrongly. -/

namespace Freshen.Shell

namespace Builtin

open Run

abbrev Action := List String → Run Unit

def isSpecial (name : String) : Bool :=
  ["break", ":", "continue", ".", "eval", "exec", "exit", "export", "readonly", "return", "set",
    "shift", "times", "trap", "unset"].contains name

def dialect : Run Dialect := return (← get).dialect

def refuse (name : String) (status : Nat) (text : String) : Run Unit := do
  remark status s!"{name}: {text}"
  if (← dialect) = .dash && (isSpecial name || name = "local") then throw .leaving

def stop (status : Nat) (text : String) : Run Unit := do
  remark status text
  throw .leaving

def done : Run Unit := setStatus 0

def usage : String → String
  | "alias" => "alias [-p] [name[=value] ... ]"
  | "cd" => "cd [-L|[-P [-e]] [-@]] [dir]"
  | "command" => "command [-pVv] command [arg ...]"
  | "declare" =>
    "declare [-aAfFgiIlnrtux] [name[=value] ...] or declare -p [-aAfFilnrtux] [name ...]"
  | "typeset" =>
    "typeset [-aAfFgiIlnrtux] name[=value] ... or typeset -p [-aAfFilnrtux] [name ...]"
  | "exec" => "exec [-cl] [-a name] [command [argument ...]] [redirection ...]"
  | "export" => "export [-fn] [name[=value] ...] or export -p"
  | "getopts" => "getopts optstring name [arg ...]"
  | "hash" => "hash [-lr] [-p pathname] [-dt] [name ...]"
  | "kill" => "kill [-s sigspec | -n signum | -sigspec] pid | jobspec ... or kill -l [sigspec]"
  | "local" => "local [option] name[=value] ..."
  | "mapfile" => "mapfile [-d delim] [-n count] [-O origin] [-s count] [-t] [-u fd] " ++
      "[-C callback] [-c quantum] [array]"
  | "readarray" => "readarray [-d delim] [-n count] [-O origin] [-s count] [-t] [-u fd] " ++
      "[-C callback] [-c quantum] [array]"
  | "printf" => "printf [-v var] format [arguments]"
  | "pwd" => "pwd [-LP]"
  | "read" => "read [-ers] [-a array] [-d delim] [-i text] [-n nchars] [-N nchars] [-p prompt] " ++
      "[-t timeout] [-u fd] [name ...]"
  | "readonly" => "readonly [-aAf] [name[=value] ...] or readonly -p"
  | "set" => "set [-abefhkmnptuvxBCEHPT] [-o option-name] [--] [-] [arg ...]"
  | "shopt" => "shopt [-pqsu] [-o] [optname ...]"
  | "trap" => "trap [-lp] [[arg] signal_spec ...]"
  | "type" => "type [-afptP] name [name ...]"
  | "ulimit" => "ulimit [-SHabcdefiklmnpqrstuvxPRT] [limit]"
  | "umask" => "umask [-p] [-S] [mode]"
  | "unalias" => "unalias [-a] name [name ...]"
  | "unset" => "unset [-f] [-v] [-n] [name ...]"
  | "wait" => "wait [-fn] [-p var] [id ...]"
  | "." => ". filename [arguments]"
  | "source" => "source filename [arguments]"
  | name => name

def adviseUsage (name : String) : Run Unit := printLine 2 s!"{name}: usage: {usage name}"

def unknownOption (name : String) (o : Char) : Run Unit := do
  match ← dialect with
  | .dash => refuse name 2 s!"Illegal option -{o}"
  | .bash =>
    remark 2 s!"{name}: -{o}: invalid option"
    adviseUsage name

def missingValue (name : String) (o : Char) : Run Unit := do
  match ← dialect with
  | .dash => refuse name 2 s!"No arg for -{o} option"
  | .bash =>
    remark 2 s!"{name}: -{o}: option requires an argument"
    adviseUsage name

structure Options where
  given : List (Char × String) := []
  operands : List String := []

namespace Options

def has (o : Options) (c : Char) : Bool := o.given.any (·.1 = c)

def value? (o : Options) (c : Char) : Option String :=
  (o.given.filter (·.1 = c)).getLast?.map (·.2)

inductive Fault
  | unknown (c : Char)
  | valueMissing (c : Char)

def letters (known valued : List Char) (next : List String) :
    List Char → Except Fault (List (Char × String) × List String)
  | [] => .ok ([], next)
  | c :: cs =>
    if valued.contains c then
      match cs, next with
      | [], v :: next => .ok ([(c, v)], next)
      | [], [] => .error (.valueMissing c)
      | cs, next => .ok ([(c, String.ofList cs)], next)
    else if known.contains c then
      (letters known valued next cs).map fun (os, next) => ((c, "") :: os, next)
    else .error (.unknown c)

def parse (known valued : List Char) : Nat → List String → Except Fault Options
  | 0, ws => .ok { operands := ws }
  | _ + 1, [] => .ok {}
  | n + 1, w :: ws =>
    match w.toList with
    | ['-', '-'] => .ok { operands := ws }
    | '-' :: c :: cs =>
      match letters known valued ws (c :: cs) with
      | .error f => .error f
      | .ok (os, ws) =>
        (parse known valued n ws).map fun o => { o with given := os ++ o.given }
    | _ => .ok { operands := w :: ws }

end Options

def withOptions (name : String) (known valued : String) (args : List String)
    (run : Options → Run Unit) : Run Unit := do
  match Options.parse known.toList valued.toList (args.length + 1) args with
  | .ok o => run o
  | .error (.unknown c) => unknownOption name c
  | .error (.valueMissing c) => missingValue name c

def isSpace (c : Char) : Bool := c = ' ' || ('\t' ≤ c && c ≤ '\r')

def integer? (text : String) : Option Int :=
  let cs := (text.toList.dropWhile isSpace).reverse.dropWhile isSpace |>.reverse
  let (sign, ds) : Int × List Char := match cs with
    | '-' :: ds => (-1, ds)
    | '+' :: ds => (1, ds)
    | ds => (1, ds)
  if ds.isEmpty || !ds.all Char.isDigit then none else some (sign * Lexeme.inBase 10 ds)

def count? (text : String) : Option Nat :=
  (integer? text).bind fun n => if 0 ≤ n && n ≤ 2147483647 then some n.toNat else none

def illegalNumber (name text : String) : Run Unit := refuse name 2 s!"Illegal number: {text}"

def leave (name : String) (flow : Flow) : Action
  | [] => throw flow
  | n :: more => do
    match ← dialect with
    | .dash =>
      match count? n with
      | some n =>
        setStatus n
        throw flow
      | none => illegalNumber name n
    | .bash =>
      match integer? n with
      | none => stop 2 s!"{name}: {n}: numeric argument required"
      | some v =>
        if Arithmetic.saturated v ≠ v then stop 2 s!"{name}: {n}: numeric argument required"
        else if more.isEmpty then
          setStatus (v % 256).toNat
          throw flow
        else stop 1 s!"{name}: too many arguments"

def exit : Action := leave "exit" .leaving

def return_ : Action := fun args => do
  let c ← get
  if c.dialect = .bash && c.calls = 0 then
    remark 2 "return: can only \x60return' from a function or sourced script"
  else leave "return" .returning args

def levels (name : String) (flow : Nat → Flow) : Action := fun args => do
  let c ← get
  let out (n : Nat) : Run Unit := do
    setStatus 0
    if c.loops = 0 then
      if c.dialect = .bash then
        remark 0 s!"{name}: only meaningful in a \x60for', \x60while', or \x60until' loop"
    else throw (flow (min n c.loops))
  match args with
  | [] => out 1
  | a :: _ =>
    match c.dialect, integer? a with
    | .dash, _ =>
      match count? a with
      | some (n + 1) => out (n + 1)
      | _ => illegalNumber name a
    | .bash, none => stop 128 s!"{name}: {a}: numeric argument required"
    | .bash, some n =>
      if 0 < n then out n.toNat
      else
        remark 1 s!"{name}: {a}: loop count out of range"
        if 0 < c.loops then throw (.breaking c.loops)

def break_ : Action := levels "break" .breaking

def continue_ : Action := levels "continue" .continuing

def quoted (d : Dialect) (s : String) : String :=
  match d with
  | .bash => "'" ++ String.join (s.toList.map fun c =>
      if c = '\'' then "'\\''" else c.toString) ++ "'"
  | .dash =>
    let step (acc : String × Nat) (c : Char) : String × Nat :=
      if c = '\'' then (acc.1, acc.2 + 1)
      else if acc.2 = 0 then (acc.1.push c, 0)
      else (acc.1 ++ "'\"" ++ String.ofList (List.replicate acc.2 '\'') ++ "\"'" ++ c.toString, 0)
    let (text, quotes) := s.toList.foldl step ("'", 0)
    if quotes = 0 then text ++ "'"
    else text ++ "'\"" ++ String.ofList (List.replicate quotes '\'') ++ "\""

def doubleQuoted (s : String) : String :=
  if s.toList.any fun c => c.toNat < 32 && c ≠ '\n' && c ≠ '\t' then Printf.shellQuoted s
  else "\"" ++ String.join (s.toList.map fun c =>
    if ['"', '\\', '$', '\x60'].contains c then "\\" ++ c.toString else c.toString) ++ "\""

end Builtin
end Freshen.Shell
