import Freshen.Shell.Launch.Launcher
/-! Finding files by what they are, and doing something with each. -/

namespace Freshen.Shell

namespace Search

open Run

inductive Sign
  | exactly
  | more
  | less
  deriving DecidableEq, Repr

def Sign.compare (s : Sign) (x n : Int) : Bool :=
  match s with
  | exactly => x = n
  | more => n < x
  | less => x < n

inductive Criterion
  | constant (b : Bool)
  | name (p : Pattern) (folds : Bool)
  | path (p : Pattern) (folds : Bool)
  | kind (letters : List Char)
  | empty
  | newer (time : Int)
  | size (s : Sign) (n unit_ : Nat)
  | age (s : Sign) (n unit_ : Nat)
  | mode (how : Option Char) (bits : Nat)
  | matching (r : Regular)
  | executable
  | not (c : Criterion)
  | both (a b : Criterion)
  | either (a b : Criterion)
  | print (terminator : String)
  | printed (format : String)
  | delete
  | prune
  | quit
  | run (words : List String)
  | runOnce (id : Nat) (words : List String)

structure Options where
  minimum : Nat := 0
  maximum : Option Nat := none
  depthFirst : Bool := false
  follows : Bool := false
  acts : Bool := false
  batches : List (Nat × List String) := []

abbrev Reading (α : Type) := EStateM String (Options × List String) α

def take : Reading (Option String) := do
  let (o, ws) ← get
  set (o, ws.drop 1)
  return ws.head?

def peek : Reading (Option String) := return (← get).2.head?

def act : Reading Unit := modify fun (o, ws) => ({ o with acts := true }, ws)

def value (predicate : String) : Reading String := do
  match ← take with
  | some v => return v
  | none => throw s!"missing argument to \x60{predicate}'"

def signed (text : String) : Sign × String :=
  match text.toList with
  | '+' :: r => (.more, String.ofList r)
  | '-' :: r => (.less, String.ofList r)
  | r => (.exactly, String.ofList r)

def number (predicate text : String) : Reading (Sign × Nat) := do
  let (s, digits) := signed text
  match digits.toNat? with
  | some n => return (s, n)
  | none => throw s!"invalid argument \x60{text}' to \x60{predicate}'"

def lowered (p : Pattern) : Pattern := p.map fun m => { m with char := m.char.toLower }

def programWords : Nat → List String → Reading (List String × Bool)
  | 0, acc => return (acc.reverse, false)
  | n + 1, acc => do
    match ← take with
    | none => throw "missing argument to \x60-exec'"
    | some ";" => return (acc.reverse, false)
    | some "+" =>
      if acc.head? = some "\x7b\x7d" then return (acc.drop 1 |>.reverse, true)
      else programWords n ("+" :: acc)
    | some w => programWords n (w :: acc)

def unitOf (c : Char) : Option Nat :=
  match c with
  | 'c' => some 1
  | 'w' => some 2
  | 'b' => some 512
  | 'k' => some 1024
  | 'M' => some 1048576
  | 'G' => some 1073741824
  | _ => none

def primary (d : Disk) (word : String) : Reading Criterion := do
  match word with
  | "-name" => return .name (.ofText (← value word)) false
  | "-iname" => return .name (lowered (.ofText (← value word))) true
  | "-path" | "-wholename" => return .path (.ofText (← value word)) false
  | "-ipath" | "-iwholename" => return .path (lowered (.ofText (← value word))) true
  | "-regex" | "-iregex" =>
    let text ← value word
    match Regular.parse .basic text with
    | .ok r =>
      let r := if word = "-iregex" then r.anyCase else r
      return .matching (.both (.boundary .lineStart) (.both r (.boundary .lineEnd)))
    | .error f => throw f.message
  | "-type" =>
    let text ← value word
    let letters := text.toList.filter (· ≠ ',')
    match letters.find? fun c => !"bcdpflsD".toList.contains c with
    | some c => throw s!"Unknown argument to -type: {c}"
    | none => return .kind letters
  | "-empty" => return .empty
  | "-newer" | "-anewer" | "-cnewer" =>
    let file ← value word
    match Condition.timeOf? d ⟨file⟩ with
    | some t => return .newer t
    | none => throw s!"'{file}': {OsError.notFound.text}"
  | "-size" =>
    let text ← value word
    let (s, rest) := signed text
    let digits := rest.toList.takeWhile Char.isDigit
    let unit? := match rest.toList.drop digits.length with
      | [] => some 512
      | [c] => unitOf c
      | _ => none
    match (String.ofList digits).toNat?, unit? with
    | some n, some u => return .size s n u
    | _, _ => throw s!"Invalid argument \x60{text}' to -size"
  | "-mtime" | "-atime" | "-ctime" =>
    let (s, n) ← number word (← value word)
    return .age s n 86400
  | "-mmin" | "-amin" | "-cmin" =>
    let (s, n) ← number word (← value word)
    return .age s n 60
  | "-perm" =>
    let text ← value word
    let (how, rest) : Option Char × String := match text.toList with
      | '-' :: r => (some '-', String.ofList r)
      | '/' :: r => (some '/', String.ofList r)
      | r => (none, String.ofList r)
    match Utility.mode? 0 rest with
    | some f => return .mode how (f false 0)
    | none => throw s!"invalid mode '{text}'"
  | "-executable" => return .executable
  | "-readable" | "-writable" | "-true" | "-mount" | "-xdev" | "-noleaf" => return .constant true
  | "-false" => return .constant false
  | "-user" | "-group" | "-uid" | "-gid" =>
    let who ← value word
    return .constant (who = "root" || who = "0")
  | "-maxdepth" | "-mindepth" =>
    let text ← value word
    match text.toNat? with
    | some n =>
      modify fun (o, ws) =>
        (if word = "-maxdepth" then { o with maximum := some n } else { o with minimum := n }, ws)
      return .constant true
    | none =>
      throw s!"Expected a positive decimal integer argument to {word}, but got '{text}'"
  | "-depth" =>
    modify fun (o, ws) => ({ o with depthFirst := true }, ws)
    return .constant true
  | "-follow" =>
    modify fun (o, ws) => ({ o with follows := true }, ws)
    return .constant true
  | "-print" =>
    act
    return .print "\n"
  | "-print0" =>
    act
    return .print "\x00"
  | "-printf" =>
    let format ← value word
    act
    return .printed format
  | "-delete" =>
    act
    modify fun (o, ws) => ({ o with depthFirst := true }, ws)
    return .delete
  | "-prune" => return .prune
  | "-quit" =>
    act
    return .quit
  | "-exec" | "-execdir" | "-ok" =>
    if (← peek).isNone then throw s!"missing argument to \x60{word}'"
    let (words, once) ← programWords (← get).2.length.succ []
    act
    if once then
      let (o, ws) ← get
      set ({ o with batches := o.batches ++ [(o.batches.length, [])] }, ws)
      return .runOnce o.batches.length words
    else return .run words
  | w =>
    if w.startsWith "-" then throw s!"unknown predicate \x60{w}'"
    else throw s!"paths must precede expression: \x60{w}'"

mutual

def either (d : Disk) (n : Nat) : Reading Criterion := do
  match n with
  | 0 => return .constant true
  | n + 1 =>
    let a ← both d n
    match ← peek with
    | some "-o" | some "-or" =>
      let _ ← take
      return .either a (← either d n)
    | _ => return a

def both (d : Disk) (n : Nat) : Reading Criterion := do
  match n with
  | 0 => return .constant true
  | n + 1 =>
    let a ← single d n
    match ← peek with
    | none | some "-o" | some "-or" | some ")" => return a
    | some "-a" | some "-and" =>
      let _ ← take
      return .both a (← both d n)
    | some _ => return .both a (← both d n)

def single (d : Disk) (n : Nat) : Reading Criterion := do
  match n with
  | 0 => return .constant true
  | n + 1 =>
    match ← take with
    | none => throw "expected an expression"
    | some "!" | some "-not" => return .not (← single d n)
    | some "(" =>
      let c ← either d n
      match ← take with
      | some ")" => return c
      | _ =>
        throw "invalid expression; I was expecting to find a ')' somewhere but did not see one."
    | some w => primary d w

end

def isPath (w : String) : Bool := !(w.startsWith "-" || w = "!" || w = "(" || w = ")" || w = ",")

structure State where
  pruned : Bool := false
  ended : Bool := false
  failed : Bool := false
  batches : List (Nat × List String) := []

structure Visit where
  file : String
  root : String
  depth : Nat
  node : Node
  launch : Launcher
  program : String

def kindLetter (n : Node) : Char :=
  match n with
  | .directory => 'd'
  | .file _ => 'f'
  | .link _ => 'l'
  | .null => 'c'

def below (root file : String) : String :=
  let rest := (file.drop root.length).toString
  if rest.startsWith "/" then (rest.drop 1).toString else rest

def sizeOf (d : Disk) (n : Node) : Nat :=
  match n with
  | .file k => (d.content k).image.size
  | .directory => 4096
  | .link t => t.utf8ByteSize
  | .null => 0

def modeOf (d : Disk) (n : Node) : Nat :=
  match n with
  | .file k => (d.bodies[k]?.map (·.mode)).getD 0o644
  | .link _ => 0o777
  | _ => 0o755

def formatText (d : Disk) (v : Visit) : Nat → List Char → String
  | 0, _ | _, [] => ""
  | n + 1, '%' :: c :: r =>
    (match c with
      | 'p' => v.file
      | 'f' => Utility.baseName v.file
      | 'h' => if v.file.toList.contains '/' then Utility.directoryName v.file else "."
      | 'P' => below v.root v.file
      | 'd' => toString v.depth
      | 's' => toString (sizeOf d v.node)
      | 'm' => Utility.octalMode (modeOf d v.node)
      | 'y' => (kindLetter v.node).toString
      | 'H' => v.root
      | 'l' => (match v.node with
        | .link t => t
        | _ => "")
      | '%' => "%"
      | c => "%" ++ c.toString) ++ formatText d v n r
  | n + 1, '\\' :: c :: r =>
    (match c with
      | 'n' => "\n"
      | 't' => "\t"
      | '0' => "\x00"
      | '\\' => "\\"
      | c => "\\" ++ c.toString) ++ formatText d v n r
  | n + 1, c :: r => c.toString ++ formatText d v n r

def printText (text : String) : StateT State Run Unit := do
  match ← Run.write 1 (bytesOf text) with
  | some .broken => throw (.killed 13)
  | _ => return

def say (text : String) : StateT State Run Unit := do Run.printLine 2 text

def cannotStart (v : Visit) (name : String) (e : OsError) : Run Fate := do
  Run.printLine 2 s!"{v.program}: '{name}': {e.text}"
  return .exited 127

def holds (v : Visit) : Criterion → StateT State Run Bool
  | .constant b => return b
  | .name p folds =>
    let name := Utility.baseName v.file
    return p.accepts (if folds then name.toLower else name).toList
  | .path p folds => return p.accepts (if folds then v.file.toLower else v.file).toList
  | .matching r => return r.occursIn (bytesOf v.file)
  | .kind letters => return letters.contains (kindLetter v.node)
  | .empty => do
    let d ← Run.disk
    match v.node with
    | .directory => return (d.namesIn ⟨v.file⟩).isEmpty
    | .file k => return (d.content k).image.size = 0
    | _ => return false
  | .newer t => do return t < (Condition.timeOf? (← Run.disk) ⟨v.file⟩).getD 0
  | .size s n u => do
    let size := sizeOf (← Run.disk) v.node
    return s.compare ((size + u - 1) / u : Nat) n
  | .age s n u => do
    let d ← Run.disk
    let age := (d.clock - (Condition.timeOf? d ⟨v.file⟩).getD 0) / (1000000000 * u)
    return s.compare age n
  | .mode how bits => do
    let m := modeOf (← Run.disk) v.node
    match how with
    | some '-' => return m &&& bits = bits
    | some _ => return bits = 0 || m &&& bits ≠ 0
    | none => return m = bits
  | .executable => do
    return v.node = .directory || modeOf (← Run.disk) v.node &&& 0o111 ≠ 0
  | .not c => do return !(← holds v c)
  | .both a b => do if ← holds v a then holds v b else return false
  | .either a b => do if ← holds v a then return true else holds v b
  | .print terminator => do
    printText (v.file ++ terminator)
    return true
  | .printed format => do
    printText (formatText (← Run.disk) v (format.length + 1) format.toList)
    return true
  | .delete => do
    if v.file = "." then return true
    let d ← Run.disk
    let removed := if v.node = .directory then d.removeDirectory ⟨v.file⟩
      else d.removeFile ⟨v.file⟩
    match removed with
    | .ok d =>
      Run.setDisk d
      return true
    | .error e =>
      say s!"{v.program}: cannot delete '{v.file}': {e.text}"
      modify fun s => { s with failed := true }
      return false
  | .prune => do
    modify fun s => { s with pruned := true }
    return true
  | .quit => do
    modify fun s => { s with ended := true }
    return true
  | .run words => do
    let words := words.map fun w => v.file.intercalate (w.splitOn "\x7b\x7d")
    let name := words.headD ""
    let fate ← v.launch name (words.drop 1) (cannotStart v name)
    return fate = .exited 0
  | .runOnce id _ => do
    modify fun s =>
      { s with batches := s.batches.map fun b => if b.1 = id then (id, v.file :: b.2) else b }
    return true

def visit (o : Options) (c : Criterion) (launch : Launcher) (program root : String) :
    Nat → Nat → String → StateT State Run Unit
  | 0, _, _ => return
  | n + 1, depth, file => do
    if (← get).ended then return
    let d ← Run.disk
    let found := if o.follows && d.exists_ ⟨file⟩ then d.find ⟨file⟩ else d.findEntry ⟨file⟩
    match found with
    | .error e =>
      say s!"{program}: '{file}': {e.text}"
      modify fun s => { s with failed := true }
    | .ok (_, node) =>
      let v : Visit := { file, root, depth, node, launch, program }
      let look : StateT State Run Unit := do
        if o.minimum ≤ depth then
          let hit ← holds v c
          if hit && !o.acts then printText (file ++ "\n")
      if !o.depthFirst then look
      let pruned := (← get).pruned && !o.depthFirst
      modify fun s => { s with pruned := false }
      if node = .directory && !pruned && o.maximum.all (depth < ·) then
        for name in (← Run.disk).namesIn ⟨file⟩ do
          let inner := if file.endsWith "/" then file ++ name else file ++ "/" ++ name
          visit o c launch program root n (depth + 1) inner
      if o.depthFirst then look

def runsOnce : Criterion → List (Nat × List String)
  | .runOnce id words => [(id, words)]
  | .not c => runsOnce c
  | .both a b | .either a b => runsOnce a ++ runsOnce b
  | _ => []

def finish (c : Criterion) (launch : Launcher) (program : String) : StateT State Run Unit := do
  let s ← get
  for (id, words) in runsOnce c do
    let files := ((Keyed.get? s.batches id).getD []).reverse
    if !files.isEmpty then
      let name := words.headD ""
      let v : Visit := ⟨"", "", 0, .directory, launch, program⟩
      let fate ← launch name (words.drop 1 ++ files) (cannotStart v name)
      if fate ≠ .exited 0 then modify fun s => { s with failed := true }

def run (launch : Launcher) (program : String) (args : List String) : Run Fate := do
  let d ← Run.disk
  let leading := args.takeWhile fun w => ["-L", "-P", "-H"].contains w
  let args := args.drop leading.length
  let roots := args.takeWhile isPath
  let words := args.drop roots.length
  let start : Options := { follows := leading.getLast? = some "-L" }
  let parsed : EStateM.Result String (Options × List String) Criterion :=
    if words.isEmpty then .ok (.constant true) (start, [])
    else ((do
      let c ← either d (4 * words.length + 4)
      match ← peek with
      | none => return c
      | some ")" => throw "invalid expression; you have too many ')'"
      | some w => throw s!"paths must precede expression: \x60{w}'" :
      Reading Criterion)).run (start, words)
  match parsed with
  | .error text _ =>
    Run.printLine 2 s!"{program}: {text}"
    return .exited 1
  | .ok c (o, _) =>
    let all : StateT State Run Unit := do
      for root in (if roots.isEmpty then ["."] else roots) do
        visit o c launch program root (d.nodes.length + 2) 0 root
      finish c launch program
    let (_, s) ← all.run { batches := o.batches }
    return .exited (if s.failed then 1 else 0)

end Search
end Freshen.Shell
