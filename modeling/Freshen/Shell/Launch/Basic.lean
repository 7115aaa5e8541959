import Freshen.Shell.Script
import Freshen.Shell.Utility
/-! What the arguments of those programs ask for that run others: shells, and programs that are
given a changed environment or words that are read. -/

namespace Freshen.Shell

def Dialect.ofProgram? : String → Option Dialect
  | "sh" | "dash" => some .dash
  | "bash" => some .bash
  | _ => none

structure Surround where
  cleared : Bool := false
  removed : List String := []
  assigned : List (String × String) := []
  directory : Option String := none
  command : List String := []

namespace Surround

def read (e : Surround) : Nat → List String → Except Utility.Arguments.Fault Surround
  | 0, ws => .ok { e with command := ws }
  | _ + 1, [] => .ok e
  | n + 1, w :: ws =>
    let taking (c : Char) (rest : List Char) (f : String → Surround) :
        Except Utility.Arguments.Fault Surround :=
      match rest, ws with
      | [], v :: ws => read (f v) n ws
      | [], [] => .error (.valueMissing c)
      | rest, ws => read (f (String.ofList rest)) n ws
    match w with
    | "-" | "-i" | "--ignore-environment" => read { e with cleared := true } n ws
    | "--" => readAssignments e ws
    | "--unset" | "--chdir" => taking (if w = "--unset" then 'u' else 'C') [] fun v =>
      if w = "--unset" then { e with removed := v :: e.removed } else { e with directory := some v }
    | _ =>
      match w.toList with
      | '-' :: 'u' :: rest => taking 'u' rest fun v => { e with removed := v :: e.removed }
      | '-' :: 'C' :: rest => taking 'C' rest fun v => { e with directory := some v }
      | '-' :: 'S' :: rest =>
        let (text, ws) := if rest.isEmpty then (ws.headD "", ws.drop 1)
          else (String.ofList rest, ws)
        read e n ((text.splitOn " ").filter (· ≠ "") ++ ws)
      | '-' :: '-' :: rest => .error (.unrecognized (String.ofList rest))
      | '-' :: c :: _ => .error (.unknown c)
      | _ => readAssignments e (w :: ws)
where
  readAssignments (e : Surround) : List String → Except Utility.Arguments.Fault Surround
    | [] => .ok e
    | w :: ws =>
      match w.toList.dropWhile (· ≠ '=') with
      | _ :: v =>
        let x := String.ofList (w.toList.takeWhile (· ≠ '='))
        readAssignments { e with assigned := e.assigned ++ [(x, String.ofList v)] } ws
      | [] => .ok { e with command := w :: ws }

def applied (e : Surround) (c : Context) : Context :=
  let own := c.bindings.filter (·.2.isExported)
  let kept := if e.cleared then [] else own.filter fun b => !e.removed.contains b.1
  { c with bindings := e.assigned.foldl (fun bs a =>
    Keyed.set a.1 { value := some a.2, isExported := true } bs) kept }

end Surround

structure Batches where
  size : Option Nat := none
  lines : Option Nat := none
  skipsNone : Bool := false
  traces : Bool := false
  mark : Option String := none
  delimiter : Option UInt8 := none
  command : String := "echo"
  args : List String := []

namespace Batches

def read (b : Batches) : Nat → List String → Except Utility.Arguments.Fault Batches
  | 0, _ => .ok b
  | _ + 1, [] => .ok b
  | n + 1, w :: ws =>
    match w.toList with
    | ['-', '-'] => .ok { b with command := ws.headD "echo", args := ws.drop 1 }
    | '-' :: '-' :: name =>
      match String.ofList name with
      | "null" => read { b with delimiter := some 0 } n ws
      | "no-run-if-empty" => read { b with skipsNone := true } n ws
      | "verbose" => read { b with traces := true } n ws
      | name =>
        if name.startsWith "max-args=" then
          read { b with size := (name.drop 9).toString.toNat? } n ws
        else if name.startsWith "delimiter=" then
          read { b with delimiter := (bytesOf (name.drop 10).toString).head? } n ws
        else .error (.unrecognized name)
    | '-' :: c :: rest =>
      if c = '0' then read { b with delimiter := some 0 } n (more rest ws)
      else if c = 'r' then read { b with skipsNone := true } n (more rest ws)
      else if c = 't' then read { b with traces := true } n (more rest ws)
      else if c = 'x' || c = 'o' then read b n (more rest ws)
      else if !(['n', 'L', 'I', 'd', 'P', 's', 'a', 'E'].contains c) then .error (.unknown c)
      else
        let (value?, ws) : Option String × List String :=
          if rest.isEmpty then (ws.head?, ws.drop 1) else (some (String.ofList rest), ws)
        match value? with
        | none => .error (.valueMissing c)
        | some v =>
          let delimiter := (Printf.escaped .alone .bare v.toList).1.head?
          read (match c with
            | 'n' => { b with size := v.toNat? }
            | 'L' => { b with lines := v.toNat? }
            | 'I' => { b with mark := some v }
            | 'd' => { b with delimiter }
            | _ => b) n ws
    | _ => .ok { b with command := w, args := ws }
where
  more (rest : List Char) (ws : List String) : List String :=
    if rest.isEmpty then ws else String.ofList ('-' :: rest) :: ws

def wordsOf : Nat → List Char → Option (List Char) → List String → Option Char →
    Except Char (List String)
  | 0, _, _, done, _ => .ok done.reverse
  | _ + 1, [], word, done, open_ =>
    match open_, word with
    | some q, _ => .error q
    | none, some w => .ok (String.ofList w.reverse :: done).reverse
    | none, none => .ok done.reverse
  | n + 1, c :: cs, word, done, open_ =>
    let add (c : Char) : Option (List Char) := some (c :: word.getD [])
    match open_ with
    | some q => if c = q then wordsOf n cs (some (word.getD [])) done none
      else wordsOf n cs (add c) done open_
    | none =>
      if c = '\'' || c = '"' then wordsOf n cs word done (some c)
      else if c = '\\' then
        match cs with
        | d :: cs => wordsOf n cs (add d) done none
        | [] => wordsOf n [] word done none
      else if c = ' ' || c = '\t' then
        match word with
        | some w => wordsOf n cs none (String.ofList w.reverse :: done) none
        | none => wordsOf n cs none done none
      else wordsOf n cs (add c) done none

def chunks (size : Nat) : Nat → List α → List (List α)
  | 0, _ => []
  | _ + 1, [] => []
  | n + 1, xs => xs.take size :: chunks size n (xs.drop size)

def cut (b : Batches) (input : Bytes) : Except Char (List (List String)) := do
  let text (bs : Bytes) : String := Text.Utf8.lenient ⟨bs.toArray⟩
  let alone (ws : List String) : List (List String) :=
    if ws.isEmpty && b.mark.isNone then if b.skipsNone then [] else [[]]
    else if b.mark.isSome then ws.map ([·])
    else match b.size with
    | some (k + 1) => chunks (k + 1) ws.length ws
    | _ => [ws]
  match b.delimiter with
  | some d =>
    let pieces := Text.pieces d input
    let pieces := if pieces.getLast? = some [] then pieces.dropLast else pieces
    return alone (pieces.map text)
  | none =>
    let lines := (Utility.lines input).map text
    if b.mark.isSome then
      let items := lines.map fun l => l.toList.dropWhile fun c => c = ' ' || c = '\t'
      return (items.filter (!·.isEmpty)).map fun l => [String.ofList l]
    else
      let rows ← lines.mapM fun l => wordsOf (2 * l.length + 2) l.toList none [] none
      match b.lines with
      | some (k + 1) =>
        let rows := rows.filter (!·.isEmpty)
        return if rows.isEmpty then alone [] else (chunks (k + 1) rows.length rows).map List.flatten
      | _ => return alone rows.flatten

def call (b : Batches) (words : List String) : List String :=
  match b.mark, words with
  | some m, w :: _ => b.args.map fun a => w.intercalate (a.splitOn m)
  | _, words => b.args ++ words

end Batches

structure Invocation where
  settings : Settings := {}
  isCommand : Bool := false
  readsInput : Bool := false
  operands : List String := []

namespace Invocation

inductive Fault
  | unknown (option : String)
  | unknownLong (word : String)
  | version

def letters (d : Dialect) (on : Bool) (i : Invocation) (next : List String) :
    List Char → Except Fault (Invocation × List String)
  | [] => .ok (i, next)
  | c :: cs =>
    let sign := if on then "-" else "+"
    if c = 'c' then letters d on { i with isCommand := true } next cs
    else if c = 's' then letters d on { i with readsInput := true } next cs
    else if c = 'o' || (c = 'O' && d = .bash) then
      let name := next.headD ""
      if c = 'o' && !(Builtin.settingNames d).any (·.1 = name) then
        .error (.unknown (sign ++ "o " ++ name))
      else letters d on { i with settings := Builtin.put on name i.settings } (next.drop 1) cs
    else match Builtin.settingOf? d c with
    | some name => letters d on { i with settings := Builtin.put on name i.settings } next cs
    | none =>
      if c = 'i' || c = 'l' || (d = .bash && (c = 'r' || c = 'D')) then letters d on i next cs
      else .error (.unknown (sign ++ c.toString))

def longWords : List String :=
  ["debug", "debugger", "help", "init-file", "login", "noediting", "noprofile", "norc", "posix",
    "pretty-print", "rcfile", "restricted", "verbose"]

def parse (d : Dialect) (i : Invocation) : Nat → List String → Except Fault Invocation
  | 0, ws => .ok { i with operands := ws }
  | _ + 1, [] => .ok i
  | n + 1, w :: ws =>
    match w.toList with
    | ['-', '-'] | ['-'] => .ok { i with operands := ws }
    | '-' :: '-' :: name =>
      let name := String.ofList name
      if d = .dash then .error (.unknown "--")
      else if name = "version" then .error .version
      else if longWords.contains name then parse d i n ws
      else .error (.unknownLong w)
    | sign :: c :: cs =>
      if sign = '-' || sign = '+' then
        match letters d (sign = '-') i ws (c :: cs) with
        | .ok (i, ws) => parse d i n ws
        | .error f => .error f
      else .ok { i with operands := w :: ws }
    | _ => .ok { i with operands := w :: ws }

end Invocation
end Freshen.Shell
