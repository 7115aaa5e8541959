import Freshen.Shell.Binding
import Freshen.Shell.Builtin.Basic
import Freshen.Shell.Utility.Files
/-! Commands about where the shell is, and about the rights of the files that it makes. -/

namespace Freshen.Shell.Builtin

open Run

def joined (place target : String) : String :=
  let start := if target.startsWith "/" then [] else (Text.pieces '/' place.toList)
  let step (done : List (List Char)) (p : List Char) : List (List Char) :=
    if p.isEmpty || p = ['.'] then done
    else if p = ['.', '.'] then done.drop 1
    else p :: done
  let pieces := ((start ++ Text.pieces '/' target.toList).foldl step []).reverse
  let whole := if target.startsWith "/" then target else place
  let slashes := if whole.startsWith "//" && !whole.startsWith "///" then "//" else "/"
  slashes ++ "/".intercalate (pieces.map String.ofList)

def tell (x value : String) (c : Context) : Context :=
  if c.isReadonly x then c
  else c.bind_ x { ((c.binding? x).getD {}) with value := some value, isExported := true }

def goTo (physical : Bool) (target : String) : Run (Option OsError) := do
  let c ← get
  let path := if physical then target else joined c.place target
  match (← disk).find ⟨path⟩ with
  | .ok (l, .directory) =>
    let place := if physical then l.path.text else path
    modify fun c => (tell "PWD" place (tell "OLDPWD" c.place c) : Context)
    modify fun c => { c with directory := l, place }
    return none
  | .ok _ => return some .notDirectory
  | .error e => return some e

def foundIn (c : Context) (target : String) : List (String × Bool) :=
  let first := (Text.pieces '/' target.toList).headD []
  if target.startsWith "/" || first = ['.'] || first = ['.', '.'] then [(target, false)]
  else
    match c.valueOf? "CDPATH" with
    | none => [(target, false)]
    | some places =>
      ((Text.pieces ':' places.toList).map fun p =>
        if p.isEmpty then (target, false) else (String.ofList p ++ "/" ++ target, true)) ++
          [(target, false)]

def goToFirst (physical : Bool) (target : String) : List (String × Bool) → Run Unit
  | [] => do
    match ← dialect with
    | .dash => remark 2 s!"cd: can't cd to {target}"
    | .bash =>
      let e := match (← disk).find ⟨target⟩ with
        | .error e => e
        | .ok _ => .notDirectory
      remark 1 s!"cd: {target}: {e.text}"
  | (path, tells) :: more => do
    match ← goTo physical path with
    | none =>
      done
      if tells then printLine 1 (← get).place
    | some _ => goToFirst physical target more

def cd : Action := fun args => do
  let c ← get
  withOptions "cd" (if c.dialect = .dash then "LP" else "LPe@") "" args fun o => do
    let physical := (o.given.filter fun e => e.1 = 'P' || e.1 = 'L').getLast?.any (·.1 = 'P')
    match c.dialect, o.operands with
    | .bash, _ :: _ :: _ => remark 1 "cd: too many arguments"
    | d, operands =>
      match operands.head? with
      | none =>
        match c.valueOf? "HOME" with
        | some home => if home = "" then done else goToFirst physical home [(home, false)]
        | none => if d = .bash then remark 1 "cd: HOME not set" else done
      | some "-" =>
        match c.valueOf? "OLDPWD" with
        | some old => goToFirst physical old [(old, true)]
        | none =>
          match d with
          | .bash => remark 1 "cd: OLDPWD not set"
          | .dash =>
            printLine 1 c.place
            done
      | some "" => done
      | some target => goToFirst physical target (foundIn c target)

def pwd : Action := fun args =>
  withOptions "pwd" "LP" "" args fun o => do
    let c ← get
    printLine 1 (if o.has 'P' then c.directory.path.text else c.place)
    done

def showStack : Run Unit := do
  let c ← get
  let home := (c.valueOf? "HOME").getD ""
  let short (p : String) : String :=
    if home ≠ "" && (p = home || p.startsWith (home ++ "/")) then
      "~" ++ (p.drop home.length).toString
    else p
  printLine 1 (" ".intercalate ((c.place :: c.stack).map short))
  done

def pushd : Action := fun args => do
  let c ← get
  match args.filter (· ≠ "-n"), c.stack with
  | [], [] => remark 1 "pushd: no other directory"
  | [], top :: rest =>
    match ← goTo false top with
    | none =>
      modify fun k => { k with stack := c.place :: rest }
      showStack
    | some e => remark 1 s!"pushd: {top}: {e.text}"
  | target :: _, _ =>
    match ← goTo false target with
    | none =>
      modify fun k => { k with stack := c.place :: c.stack }
      showStack
    | some e => remark 1 s!"pushd: {target}: {e.text}"

def popd : Action := fun _ => do
  match (← get).stack with
  | [] => remark 1 "popd: directory stack empty"
  | top :: rest =>
    match ← goTo false top with
    | none =>
      modify fun c => { c with stack := rest }
      showStack
    | some e => remark 1 s!"popd: {top}: {e.text}"

def dirs : Action := fun args => do
  if args.contains "-c" then
    modify fun c => { c with stack := [] }
    done
  else if args.contains "-p" || args.contains "-l" then
    let c ← get
    if args.contains "-p" then for p in c.place :: c.stack do printLine 1 p
    else printLine 1 (" ".intercalate (c.place :: c.stack))
    done
  else showStack

def maskLetters (mask : Nat) : String :=
  let part (name : String) (shift : Nat) : String :=
    let bits := (0o777 - mask) / shift % 8
    name ++ "=" ++ (if bits / 4 % 2 = 1 then "r" else "") ++
      (if bits / 2 % 2 = 1 then "w" else "") ++ if bits % 2 = 1 then "x" else ""
  ",".intercalate [part "u" 64, part "g" 8, part "o" 1]

def umask : Action := fun args => do
  let c ← get
  withOptions "umask" (if c.dialect = .dash then "S" else "Sp") "" args fun o => do
    let digits := Utility.octalMode c.mask
    let octal := Floating.zeros (4 - digits.length) ++ digits
    match o.operands.head? with
    | none =>
      let before := if o.has 'p' then if o.has 'S' then "umask -S " else "umask " else ""
      printLine 1 (before ++ if o.has 'S' then maskLetters c.mask else octal)
      done
    | some text =>
      let cs := text.toList
      if cs.all Char.isDigit && !cs.isEmpty then
        if cs.all Lexeme.isOctal && Lexeme.inBase 8 cs ≤ 0o777 then
          modify fun c => { c with mask := Lexeme.inBase 8 cs }
          done
        else match c.dialect with
        | .dash => remark 2 s!"umask: Illegal number: {text}"
        | .bash => remark 1 s!"umask: {text}: octal number out of range"
      else match Utility.mode? 0 text with
      | some change =>
        let mask := 0o777 - change false (0o777 - c.mask)
        modify fun c => { c with mask }
        done
      | none =>
        match c.dialect with
        | .dash => remark 2 s!"umask: Illegal mode: {text}"
        | .bash =>
          let rest := cs.dropWhile "ugoa".toList.contains
          match rest with
          | o :: more =>
            if ['+', '-', '='].contains o then
              let stray := (more.dropWhile "rwxXstugo".toList.contains).headD o
              remark 1 s!"umask: \x60{stray}': invalid symbolic mode character"
            else remark 1 s!"umask: \x60{o}': invalid symbolic mode operator"
          | [] => remark 1 "umask: \x60': invalid symbolic mode operator"

def times : Action := fun _ => do
  let d ← dialect
  let zero := match d with
    | .dash => "0m0.000000s"
    | .bash => "0m0.000s"
  printLine 1 s!"{zero} {zero}\n{zero} {zero}"
  done

def limitOf : Option Char → String
  | some 'c' => "0"
  | some 's' => "8192"
  | some 'n' => "1024"
  | _ => "unlimited"

def ulimit : Action := fun args => do
  let c ← get
  let letters := if c.dialect = .dash then "HSatfdsmclpnvwr" else "SHabcdefiklmnpqrstuvxPRT"
  withOptions "ulimit" letters "" args fun o => do
    match o.operands with
    | [] =>
      printLine 1 (limitOf ((o.given.map (·.1)).find? fun l => l ≠ 'H' && l ≠ 'S'))
      done
    | t :: rest =>
      let isKnown := t = "unlimited" || t.toList.all Char.isDigit
      match c.dialect with
      | .dash =>
        if !rest.isEmpty then refuse "ulimit" 2 "too many arguments"
        else if isKnown then done
        else refuse "ulimit" 2 "bad number"
      | .bash =>
        if isKnown then done
        else remark 1 s!"ulimit: {t}: invalid number"

end Freshen.Shell.Builtin
