import Freshen.Shell.Binding
import Freshen.Shell.Builtin.Basic
/-! Commands about variables: declaring them, taking them away, and settings. -/

namespace Freshen.Shell.Builtin

open Run

def badName (name x : String) : Run Unit := do
  match ← dialect with
  | .dash => refuse name 2 s!"{x}: bad variable name"
  | .bash => remark 1 s!"{name}: \x60{x}': not a valid identifier"

structure Declaration where
  exported : Option Bool := none
  readonly : Bool := false
  isArray : Bool := false
  isKeyed : Bool := false
  isInteger : Option Bool := none
  cased : Option Char := none
  isLocal : Bool := false

namespace Declaration

def apply (k : Declaration) (v : Variable) : Variable :=
  let v := if k.isArray || k.isKeyed then v.asArray else v
  { v with
    isExported := k.exported.getD v.isExported
    isInteger := k.isInteger.getD v.isInteger
    isKeyed := v.isKeyed || k.isKeyed
    isReadonly := v.isReadonly || k.readonly }

def value (k : Declaration) (text : String) : String :=
  match k.cased with
  | some 'l' => text.toLower
  | some 'u' => text.toUpper
  | _ => text

def one (k : Declaration) (command : String) (w : String) : Run Bool := do
  let c ← get
  let given := Binding.ofText? w
  let x := match given with
    | some (x, _, appends) => if appends && c.dialect = .dash then x ++ "+" else x
    | none => w
  let (name, index) := Binding.place x
  if !isName name.toList || (index.isSome && c.dialect = .dash) then
    badName command (if c.dialect = .dash then x else w)
    return false
  else if c.isReadonly name && (given.isSome || k.isLocal) then
    match c.dialect with
    | .dash => refuse command 2 (Expansion.readonlyText .dash name)
    | .bash =>
      remark 1 ((if k.isLocal then command ++ ": " else "") ++
        Expansion.readonlyText .bash name)
    return false
  else
    if k.isLocal then modify (Binding.hide name)
    modify fun c =>
      c.bind_ name ({ k with readonly := false }.apply ((c.binding? name).getD {}))
    match given with
    | some (_, value, appends) => Binding.force name index appends (k.value value)
    | none => pure ()
    modify fun c => c.bind_ name (k.apply ((c.binding? name).getD {}))
    return true

def all (k : Declaration) (command : String) (ws : List String) : Run Unit := do
  let mut fine := true
  for w in ws do
    if !(← k.one command w) then fine := false
  setStatus (if fine then 0 else 1)

end Declaration

def attributes (v : Variable) : String :=
  let letters := (if v.isKeyed then "A" else if v.isArray then "a" else "") ++
    (if v.isInteger then "i" else "") ++ (if v.isReadonly then "r" else "") ++
    if v.isExported then "x" else ""
  "-" ++ if letters = "" then "-" else letters

def described (x : String) (v : Variable) : String :=
  let start := s!"declare {attributes v} {x}"
  if v.isArray then
    let item (e : String × String) : String := s!"[{e.1}]=" ++ doubleQuoted e.2
    let items := " ".intercalate (v.elements.map item)
    if v.elements.isEmpty then start
    else start ++ "=(" ++ items ++ (if v.isKeyed then " " else "") ++ ")"
  else match v.value with
  | some value => start ++ "=" ++ doubleQuoted value
  | none => start

def sortedBindings (c : Context) : List (String × Variable) :=
  c.bindings.mergeSort fun a b => (compare a.1 b.1).isLE

def list (command : String) (shows : Variable → Bool) : Run Unit := do
  let c ← get
  for (x, v) in sortedBindings c do
    if shows v then
      match c.dialect with
      | .bash => printLine 1 (described x v)
      | .dash => printLine 1 (command ++ " " ++ x ++ match v.value with
        | some value => "=" ++ quoted .dash value
        | none => "")
  done

def listValues : Run Unit := do
  let c ← get
  for (x, v) in sortedBindings c do
    match c.dialect, v.value with
    | .dash, some value => printLine 1 (x ++ "=" ++ quoted .dash value)
    | .bash, some value =>
      let isPlain := value.toList.all fun c => isNamePart c || "/.,:+-@%".toList.contains c
      printLine 1 (x ++ "=" ++ if isPlain then value else Printf.shellQuoted value)
    | _, none => pure ()
  done

def export_ : Action := fun args => do
  let c ← get
  let known := if c.dialect = .dash then "p" else "pnf"
  withOptions "export" known "" args fun o => do
    if o.operands.isEmpty then list "export" (·.isExported)
    else if o.has 'f' then
      for f in o.operands do
        if (Keyed.get? c.functions f).isNone then remark 1 s!"export: {f}: not a function"
        else done
    else Declaration.all { exported := some (!o.has 'n') } "export" o.operands

def readonly : Action := fun args => do
  let known := if (← dialect) = .dash then "p" else "pafA"
  withOptions "readonly" known "" args fun o => do
    if o.operands.isEmpty then list "readonly" (·.isReadonly)
    else
      let k : Declaration := { readonly := true, isArray := o.has 'a', isKeyed := o.has 'A' }
      k.all "readonly" o.operands

def withPluses (args : List String) : List Char × List String :=
  let isPlus (w : String) : Bool := w.startsWith "+" && w.length > 1
  let pluses := args.takeWhile fun w => isPlus w || w.startsWith "-"
  ((pluses.filter isPlus).flatMap fun w => w.toList.drop 1, args.filter fun w =>
    !(pluses.contains w && isPlus w))

def declareAs (name : String) (isLocal : Bool) : Action := fun args => do
  let c ← get
  let (taken, args) := withPluses args
  withOptions name "aAfFgilnprtux" "" args fun o => do
    let isLocal := (isLocal || 0 < c.calls) && !o.has 'g'
    if o.has 'f' || o.has 'F' then
      let missing := o.operands.any fun f => (Keyed.get? c.functions f).isNone
      if o.has 'F' then
        for f in o.operands do
          if (Keyed.get? c.functions f).isSome then printLine 1 f
      setStatus (if missing then 1 else 0)
    else if o.has 'p' then
      if o.operands.isEmpty then list name fun _ => true
      else
        done
        for x in o.operands do
          match c.binding? x with
          | some v => printLine 1 (described x v)
          | none => remark 1 s!"{name}: {x}: not found"
    else if o.operands.isEmpty then
      if o.given.isEmpty then listValues
      else list name fun v => (o.has 'x' && v.isExported) || (o.has 'r' && v.isReadonly) ||
        (o.has 'i' && v.isInteger) || (o.has 'a' && v.isArray && !v.isKeyed) ||
        (o.has 'A' && v.isKeyed)
    else
      let choice (c : Char) : Option Bool :=
        if taken.contains c then some false else if o.has c then some true else none
      let k : Declaration := {
        exported := choice 'x', isInteger := choice 'i', readonly := o.has 'r'
        isArray := o.has 'a', isKeyed := o.has 'A', isLocal
        cased := if o.has 'l' then some 'l' else if o.has 'u' then some 'u' else none }
      k.all name o.operands

def local_ : Action := fun args => do
  let c ← get
  if c.calls = 0 then
    match c.dialect with
    | .dash => refuse "local" 2 "not in a function"
    | .bash => remark 1 "local: can only be used in a function"
  else match c.dialect with
  | .dash => Declaration.all { isLocal := true } "local" (args.filter fun w => w ≠ "-" && w ≠ "--")
  | .bash => declareAs "local" true args

def unset : Action := fun args => do
  let c ← get
  withOptions "unset" (if c.dialect = .dash then "fv" else "fvn") "" args fun o => do
    done
    for w in o.operands do
      let c ← get
      let (x, index) := Binding.place w
      if o.has 'f' then modify fun c => { c with functions := Keyed.erase w c.functions }
      else if c.dialect = .dash && !isName w.toList then
        refuse "unset" 2 s!"{w}: bad variable name"
      else if c.isReadonly x then
        match c.dialect with
        | .dash => refuse "unset" 2 s!"{x}: is read only"
        | .bash => remark 1 s!"unset: {x}: cannot unset: readonly variable"
      else match index with
      | some i =>
        match c.binding? x with
        | none => pure ()
        | some v =>
          if i = "@" || i = "*" then modify (·.unset x)
          else
            let key ← Binding.keyOf x v i
            modify fun c =>
              c.bind_ x { v.asArray with elements := Keyed.erase key v.asArray.elements }
      | none =>
        if (c.binding? x).isNone && c.dialect = .bash && !o.has 'v' then
          modify fun c => { c with functions := Keyed.erase x c.functions }
        else modify (·.unset x)

def shift : Action := fun args => do
  let c ← get
  let text := args.headD "1"
  match c.dialect with
  | .dash =>
    match count? text with
    | none => illegalNumber "shift" text
    | some n =>
      if c.args.length < n then refuse "shift" 2 "can't shift that many"
      else
        modify fun c => { c with args := c.args.drop n }
        done
  | .bash =>
    match integer? text with
    | none => remark 1 s!"shift: {text}: numeric argument required"
    | some n =>
      if n < 0 then remark 1 s!"shift: {text}: shift count out of range"
      else if c.args.length < n.toNat then setStatus 1
      else
        modify fun c => { c with args := c.args.drop n.toNat }
        done

def settingNames : Dialect → List (String × Option Char)
  | .dash => [("errexit", some 'e'), ("noglob", some 'f'), ("ignoreeof", some 'I'),
      ("interactive", some 'i'), ("monitor", some 'm'), ("noexec", some 'n'), ("stdin", some 's'),
      ("xtrace", some 'x'), ("verbose", some 'v'), ("vi", some 'V'), ("emacs", some 'E'),
      ("noclobber", some 'C'), ("allexport", some 'a'), ("notify", some 'b'),
      ("nounset", some 'u'), ("nolog", none), ("debug", none)]
  | .bash => [("allexport", some 'a'), ("braceexpand", some 'B'), ("emacs", none),
      ("errexit", some 'e'), ("errtrace", some 'E'), ("functrace", some 'T'),
      ("hashall", some 'h'), ("histexpand", some 'H'), ("history", none), ("ignoreeof", none),
      ("interactive-comments", none), ("keyword", some 'k'), ("monitor", some 'm'),
      ("noclobber", some 'C'), ("noexec", some 'n'), ("noglob", some 'f'), ("nolog", none),
      ("notify", some 'b'), ("nounset", some 'u'), ("onecmd", some 't'),
      ("physical", some 'P'), ("pipefail", none), ("posix", none), ("privileged", some 'p'),
      ("verbose", some 'v'), ("vi", none), ("xtrace", some 'x')]

def isOn (s : Settings) (name : String) : Bool :=
  match name with
  | "errexit" => s.stopAtFailure
  | "nounset" => s.refuseUnset
  | "noglob" => s.plainNames
  | "xtrace" => s.traces
  | "noclobber" => s.keepsFiles
  | "allexport" => s.exportsAll
  | "noexec" => s.readsOnly
  | "verbose" => s.echoes
  | "pipefail" => s.failsInPipes
  | "braceexpand" | "hashall" | "interactive-comments" => !s.extras.contains ("no " ++ name)
  | name => s.extras.contains name

def put (on : Bool) (name : String) (s : Settings) : Settings :=
  match name with
  | "errexit" => { s with stopAtFailure := on }
  | "nounset" => { s with refuseUnset := on }
  | "noglob" => { s with plainNames := on }
  | "xtrace" => { s with traces := on }
  | "noclobber" => { s with keepsFiles := on }
  | "allexport" => { s with exportsAll := on }
  | "noexec" => { s with readsOnly := on }
  | "verbose" => { s with echoes := on }
  | "pipefail" => { s with failsInPipes := on }
  | "braceexpand" | "hashall" | "interactive-comments" =>
    let off := "no " ++ name
    { s with extras := if on then s.extras.filter (· ≠ off) else off :: s.extras }
  | name => { s with extras := if on then name :: s.extras else s.extras.filter (· ≠ name) }

def settingOf? (d : Dialect) (c : Char) : Option String :=
  ((settingNames d).find? (·.2 = some c)).map (·.1)

def sign (on : Bool) : String := if on then "-" else "+"

def showSettings (asCommands : Bool) : Run Unit := do
  let c ← get
  let isSet (name : String) : Bool := match c.dialect with
    | .bash => isOn c.settings name
    | .dash => isOn c.settings name && name ≠ "hashall"
  if c.dialect = .dash && !asCommands then printLine 1 "Current option settings"
  for (name, _) in settingNames c.dialect do
    let on := isSet name
    if asCommands then printLine 1 ("set " ++ sign on ++ "o " ++ name)
    else
      let width := if c.dialect = .dash then 16 else 15
      let gap := String.ofList (List.replicate (width - name.length) ' ')
      printLine 1 (name ++ gap ++ (if c.dialect = .dash then "" else "\t") ++
        if on then "on" else "off")
  done

def setByName (on : Bool) (name : String) : Run Bool := do
  let c ← get
  if (settingNames c.dialect).any (·.1 = name) then
    modify fun c => { c with settings := put on name c.settings }
    return true
  else
    match c.dialect with
    | .dash => refuse "set" 2 ("Illegal option " ++ sign on ++ "o " ++ name)
    | .bash => remark 2 s!"set: {name}: invalid option name"
    return false

def setLetters (on : Bool) : List Char → List String → Run (Option (List String))
  | [], ws => return some ws
  | 'o' :: cs, name :: ws => do
    if ← setByName on name then setLetters on cs ws else return none
  | 'o' :: _, [] => do
    showSettings (!on)
    return some []
  | c :: cs, ws => do
    match settingOf? (← dialect) c with
    | some name =>
      modify fun k => { k with settings := put on name k.settings }
      setLetters on cs ws
    | none =>
      match ← dialect with
      | .dash => refuse "set" 2 ("Illegal option " ++ sign on ++ c.toString)
      | .bash =>
        remark 2 ("set: " ++ sign on ++ c.toString ++ ": invalid option")
        adviseUsage "set"
      return none

def setAll : Nat → Action
  | 0, _ => done
  | _ + 1, [] => done
  | n + 1, w :: ws => do
    match w.toList with
    | ['-', '-'] =>
      modify fun c => { c with args := ws }
      done
    | ['-'] =>
      modify fun c => { c with settings := { c.settings with traces := false, echoes := false } }
      if !ws.isEmpty then modify fun c => { c with args := ws }
      done
    | sign :: cs =>
      if (sign = '-' || sign = '+') && !cs.isEmpty then
        match ← setLetters (sign = '-') cs ws with
        | some ws => setAll n ws
        | none => return
      else
        modify fun c => { c with args := w :: ws }
        done
    | [] =>
      modify fun c => { c with args := w :: ws }
      done

def set_ : Action := fun args =>
  if args.isEmpty then listValues else setAll (args.length + 1) args

def extraNames : List String :=
  ["nullglob", "dotglob", "extglob", "failglob", "globstar", "nocaseglob", "nocasematch",
    "expand_aliases", "lastpipe", "sourcepath", "inherit_errexit", "checkwinsize", "cmdhist",
    "xpg_echo", "cdspell", "huponexit", "interactive_comments", "patsub_replacement",
    "globskipdots", "extquote", "promptvars", "progcomp", "hostcomplete", "force_fignore",
    "globasciiranges", "complete_fullquote"]

def shopt : Action := fun args =>
  withOptions "shopt" "pqsuo" "" args fun o => do
    done
    if o.operands.isEmpty && !o.has 'q' then
      let on := (← get).settings.extras
      for name in extraNames do
        if !(o.has 's' && !on.contains name) && !(o.has 'u' && on.contains name) then
          let gap := String.ofList (List.replicate (15 - name.length) ' ')
          printLine 1 (name ++ gap ++ "\t" ++ if on.contains name then "on" else "off")
    for name in o.operands do
      if o.has 'o' then
        if o.has 's' || o.has 'u' then discard (setByName (o.has 's') name)
        else if !isOn (← get).settings name then setStatus 1
      else if !extraNames.contains name then
        remark 1 s!"shopt: {name}: invalid shell option name"
      else if o.has 's' || o.has 'u' then
        modify fun c => { c with settings := put (o.has 's') name c.settings }
      else
        let on := (← get).settings.extras.contains name
        if !o.has 'q' then
          let gap := String.ofList (List.replicate (15 - name.length) ' ')
          printLine 1 (name ++ gap ++ "\t" ++ if on then "on" else "off")
        if !on then setStatus 1

structure OptionStep where
  letter : Option String
  value : Option String
  index : Nat
  place : Nat
  complaint : Option String := none

def optionStep (d : Dialect) (name spec : String) (args : List String) (index place : Nat) :
    OptionStep :=
  let silent := spec.startsWith ":"
  let word := (args[index - 1]?).getD ""
  let cs := word.toList
  if place = 0 && (!(word.startsWith "-") || word = "-") then ⟨none, none, index, 0, none⟩
  else if place = 0 && word = "--" then ⟨none, none, index + 1, 0, none⟩
  else
    let place := if place = 0 then 1 else place
    let c := cs.getD place '-'
    let rest := cs.drop (place + 1)
    let after (index place : Nat) : Nat × Nat :=
      if rest.isEmpty then (index + 1, 0) else (index, place + 1)
    let found := spec.toList.drop (if silent then 1 else 0) |>.dropWhile (· ≠ c)
    if c = ':' || found.isEmpty then
      let (i, p) := after index place
      let said := match d with
        | .dash => s!"Illegal option -{c}"
        | .bash => s!"{name}: illegal option -- {c}"
      ⟨some "?", if silent then some c.toString else none, i, p,
        if silent then none else some said⟩
    else match found.drop 1 with
    | ':' :: _ =>
      if !rest.isEmpty then ⟨some c.toString, some (String.ofList rest), index + 1, 0, none⟩
      else match args[index]? with
      | some v => ⟨some c.toString, some v, index + 2, 0, none⟩
      | none =>
        let said := match d with
          | .dash => s!"No arg for -{c} option"
          | .bash => s!"{name}: option requires an argument -- {c}"
        if silent then ⟨some ":", some c.toString, index + 1, 0, none⟩
        else ⟨some "?", none, index + 1, 0, some said⟩
    | _ =>
      let (i, p) := after index place
      ⟨some c.toString, none, i, p, none⟩

def getopts : Action
  | spec :: x :: args => do
    let c ← get
    let args := if args.isEmpty then c.args else args
    let index := max 1 (((c.valueOf? "OPTIND").bind count?).getD 1)
    let place := match c.dialect with
      | .dash => if c.optionPlace = 0 then 0 else c.optionPlace
      | .bash => c.optionPlace
    let index := if c.dialect = .dash && place ≠ 0 then index - 1 else index
    let s := optionStep c.dialect c.name spec args index place
    let shown := if c.dialect = .dash && s.place ≠ 0 then s.index + 1 else s.index
    let silenced := c.dialect = .bash && c.valueOf? "OPTERR" = some "0"
    if !silenced then
      match s.complaint with
      | some text => printLine 2 text
      | none => pure ()
    if !isName x.toList then
      badName "getopts" x
    else
      match Binding.fault? c x with
      | some text =>
        match c.dialect with
        | .dash => refuse "getopts" 2 text
        | .bash => remark 2 text
      | none =>
        Binding.force "OPTIND" none false (toString shown)
        modify fun c => { c with optionPlace := s.place }
        match s.value with
        | some v => Binding.force "OPTARG" none false v
        | none => modify (·.unset "OPTARG")
        Binding.force x none false (s.letter.getD "?")
        setStatus (if s.letter.isSome then 0 else 1)
  | _ => do
    match ← dialect with
    | .dash => refuse "getopts" 2 "Usage: getopts optstring var [arg...]"
    | .bash =>
      adviseUsage "getopts"
      setStatus 2

def let_ : Action := fun args => do
  if args.isEmpty then remark 1 "let: expression expected"
  else
    let mut last : Int := 0
    for t in args do
      let c ← get
      match Arithmetic.evaluate c.dialect c.parameter? t with
      | .ok (v, assigned) =>
        for (x, n) in assigned do Expansion.assign x (toString n)
        last := v
      | .error e =>
        remark 1 s!"let: {e.message t}"
        return
    setStatus (if last = 0 then 1 else 0)

def defineAlias : Action := fun args => do
  let c ← get
  let shown (x v : String) : String := match c.dialect with
    | .dash => x ++ "=" ++ quoted .dash v
    | .bash => s!"alias {x}=" ++ quoted .bash v
  let args := if args.head? = some "-p" then args.drop 1 else args
  done
  if args.isEmpty then
    for (x, v) in c.aliases.mergeSort fun a b => (compare a.1 b.1).isLE do printLine 1 (shown x v)
  for w in args do
    match w.toList.dropWhile (· ≠ '=') with
    | [] =>
      match Keyed.get? (← get).aliases w with
      | some v => printLine 1 (shown w v)
      | none =>
        match c.dialect with
        | .dash =>
          printLine 2 s!"alias: {w} not found"
          setStatus 1
        | .bash => remark 1 s!"alias: {w}: not found"
    | _ :: v =>
      let x := String.ofList (w.toList.takeWhile (· ≠ '='))
      modify fun c => { c with aliases := Keyed.set x (String.ofList v) c.aliases }

def unalias : Action := fun args =>
  withOptions "unalias" "a" "" args fun o => do
    done
    if o.has 'a' then modify fun c => { c with aliases := [] }
    else if o.operands.isEmpty then
      if (← dialect) = .bash then
        adviseUsage "unalias"
        setStatus 2
    else for x in o.operands do
      let c ← get
      if (Keyed.get? c.aliases x).isSome then
        modify fun c => { c with aliases := Keyed.erase x c.aliases }
      else match c.dialect with
        | .dash =>
          printLine 2 s!"unalias: {x} not found"
          setStatus 1
        | .bash => remark 1 s!"unalias: {x}: not found"

end Freshen.Shell.Builtin
