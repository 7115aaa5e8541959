import Freshen.Shell.Pattern
import Freshen.Shell.Utility.Files
/-! Programs that list, name, link and describe files. -/

namespace Freshen.Shell.Utility

def basename (c : Call) : Result :=
  withArguments ['a', 'z'] ['s'] c fun a =>
    let ending := if a.has 'z' then "\x00" else "\n"
    let cut (suffix f : String) : String :=
      let b := baseName f
      (if suffix ≠ b && b.endsWith suffix then (b.dropEnd suffix.length).toString else b) ++ ending
    let show_ (names : List String) := printing c (bytesOf (String.join names))
    let suffix := (a.value? 's').getD ""
    if a.operands.isEmpty then missingOperand c
    else if a.has 'a' || (a.value? 's').isSome then show_ (a.operands.map (cut suffix))
    else match a.operands with
    | [f] => show_ [cut "" f]
    | [f, suffix] => show_ [cut suffix f]
    | _ :: _ :: extra :: _ => extraOperand c extra
    | [] => missingOperand c

def dirname (c : Call) : Result :=
  withArguments ['z'] [] c fun a =>
    if a.operands.isEmpty then missingOperand c
    else printing c (bytesOf (String.join (a.operands.map fun f => directoryName f ++ "\n")))

def relativePath (directory l : Location) : String :=
  let common := ((directory.zip l).takeWhile fun (a, b) => a = b).length
  let up := List.replicate (directory.length - common) ".."
  match up ++ l.drop common with
  | [] => "."
  | ps => "/".intercalate ps

def linkOne (c : Call) (a : Arguments) (target : String) (r : Result) (source : String) :
    Result :=
  let d := r.disk
  let isPlace := d.isDirectory ⟨target⟩ && !a.has 'T' &&
    !(a.has 'n' && Condition.isLink d ⟨target⟩)
  let t := if isPlace then ((Path.mk target).join (baseName source)).text else target
  let symbolic := a.has 's'
  let text := if symbolic && a.has 'r' then
      match d.locate ⟨source⟩, d.locate ⟨directoryName t⟩ with
      | .ok l, .ok m => relativePath m l
      | _, _ => source
    else source
  let kind := if symbolic then "symbolic link" else "hard link"
  let finish (d : Disk) : Result :=
    let made := if symbolic then d.makeLink text ⟨t⟩
      else (d.findEntry ⟨source⟩).bind fun (_, n) => d.addName n ⟨t⟩
    match made with
    | .ok disk =>
      let arrow := if symbolic then "->" else "=>"
      tell { r with disk } (a.has 'v') s!"{quoted t} {arrow} {quoted text}"
    | .error e =>
      if symbolic && e ≠ .alreadyExists then
        complain c r 1 s!"failed to create {kind} {quoted t}: {e.text}"
      else
        let shown := if symbolic || e = .alreadyExists then quoted t
          else s!"{quoted t} => {quoted source}"
        complain c r 1 s!"failed to create {kind} {shown}: {e.text}"
  if !symbolic && !(d.findEntry ⟨source⟩).toOption.isSome then
    complain c r 1 s!"failed to access {quoted source}: {OsError.notFound.text}"
  else if !symbolic && d.isDirectory ⟨source⟩ && !Condition.isLink d ⟨source⟩ then
    complain c r 1 s!"{shown source}: hard link not allowed for directory"
  else if a.has 'f' && (d.findEntry ⟨t⟩).toOption.isSome then
    if !symbolic && sameFile d ⟨source⟩ ⟨t⟩ then
      complain c r 1 s!"{quoted source} and {quoted t} are the same file"
    else match d.removeFile ⟨t⟩ with
    | .ok d => finish d
    | .error e =>
      if e = .isDirectory then complain c r 1 (shown t ++ ": cannot overwrite directory")
      else finish d
  else finish d

def ln (c : Call) : Result :=
  withArguments ['s', 'f', 'n', 'v', 'r', 'T', 'L', 'P', 'i'] ['t'] c fun a =>
    match a.value? 't', a.operands with
    | some t, files => files.foldl (linkOne c a t) (unchanged c)
    | none, [] => misuse c 1 "missing file operand"
    | none, [s] => linkOne c a "." (unchanged c) s
    | none, [s, t] => linkOne c a t (unchanged c) s
    | none, files =>
      let t := files.getLastD ""
      if c.disk.isDirectory ⟨t⟩ then files.dropLast.foldl (linkOne c a t) (unchanged c)
      else
        let e := if c.disk.exists_ ⟨t⟩ then OsError.notDirectory else .notFound
        failing c 1 s!"target {quoted t}: {e.text}"

def link (c : Call) : Result :=
  withArguments [] [] c fun a =>
    match a.operands with
    | [] => missingOperand c
    | [f] => misuse c 1 s!"missing operand after {quoted f}"
    | [f, g] =>
      let refuse (text : String) : Result :=
        failing c 1 s!"cannot create link {quoted g} to {quoted f}: {text}"
      match c.disk.findEntry ⟨f⟩ with
      | .error e => refuse e.text
      | .ok (_, .directory) => refuse "Operation not permitted"
      | .ok (_, n) =>
        match c.disk.addName n ⟨g⟩ with
        | .ok disk => { disk }
        | .error e => refuse e.text
    | _ :: _ :: extra :: _ => extraOperand c extra

def unlink (c : Call) : Result :=
  withArguments [] [] c fun a =>
    match a.operands with
    | [] => missingOperand c
    | [f] =>
      match c.disk.removeFile ⟨f⟩ with
      | .ok disk => { disk }
      | .error e => failing c 1 s!"cannot unlink {quoted f}: {e.text}"
    | _ :: extra :: _ => extraOperand c extra

def resolved (d : Disk) (a : Arguments) (f : String) : Except OsError Location :=
  if a.has 'm' then
    match d.locate ⟨f⟩ with
    | .ok l => .ok l
    | .error _ =>
      let base := if f.startsWith "/" then [] else d.current
      .ok ((Text.pieces '/' f.toList).foldl (fun l p =>
        if p = [] || p = ['.'] then l
        else if p = ['.', '.'] then l.dropLast
        else l ++ [String.ofList p]) base)
  else (d.locate ⟨f⟩).bind fun l =>
    if a.has 'e' then (d.nodeAt l).map (·.1)
    else if (d.node? l).isSome || d.node? l.dropLast = some .directory then .ok l
    else .error .notFound

def realpath (c : Call) : Result :=
  withArguments ['e', 'f', 'm', 's', 'q', 'z', 'L', 'P'] ['>'] c fun a =>
    if a.operands.isEmpty then missingOperand c
    else a.operands.foldl (fun r f =>
      match resolved c.disk a f with
      | .ok l =>
        let text := match (a.value? '>').map fun p => resolved c.disk a p with
          | some (.ok m) => relativePath m l
          | _ => l.path.text
        { r with out := r.out ++ bytesOf (text ++ "\n") }
      | .error e =>
        if a.has 'q' then { r with status := 1 } else complain c r 1 (plainFault f e))
      (unchanged c)

def readlink (c : Call) : Result :=
  withArguments ['e', 'f', 'm', 'n', 'q', 's', 'z', 'v'] [] c fun a =>
    let ending := if a.has 'n' then "" else "\n"
    if a.operands.isEmpty then missingOperand c
    else a.operands.foldl (fun r f =>
      let text? : Option String :=
        if a.has 'f' || a.has 'e' || a.has 'm' then
          (resolved c.disk a f).toOption.map (·.path.text)
        else match c.disk.findEntry ⟨f⟩ with
        | .ok (_, .link t) => some t
        | _ => none
      match text? with
      | some t => { r with out := r.out ++ bytesOf (t ++ ending) }
      | none => { r with status := 1 }) (unchanged c)

def kindMark (d : Disk) (file : String) : String :=
  match d.findEntry ⟨file⟩ with
  | .ok (_, .directory) => "/"
  | .ok (_, .link _) => "@"
  | .ok (_, .file n) => if (d.bodies[n]?).any (·.isExecutable) then "*" else ""
  | _ => ""

def within (dir name : String) : String :=
  if dir = "" then name else if dir.endsWith "/" then dir ++ name else dir ++ "/" ++ name

def timeOfEntry (d : Disk) (file : String) : Int :=
  match d.findEntry ⟨file⟩ with
  | .ok (_, .file n) => (d.bodies[n]?.map (·.time)).getD 0
  | _ => d.clock

def sizeOfEntry (d : Disk) (file : String) : Nat :=
  match d.findEntry ⟨file⟩ with
  | .ok (_, .file n) => (d.content n).image.size
  | .ok (_, .link t) => t.utf8ByteSize
  | .ok (_, .directory) => 4096
  | _ => 0

def linkCount (d : Disk) (n : Node) : Nat := (d.nodes.filter (·.2 = n)).length

def longRow (d : Disk) (sizeWidth : Nat) (file name : String) : String :=
  let (kind, mode, links, target) : String × Nat × Nat × String :=
    match d.findEntry ⟨file⟩ with
    | .ok (_, .directory) => ("d", 0o755, 2, "")
    | .ok (_, .link t) => ("l", 0o777, 1, " -> " ++ t)
    | .ok (_, .file n) => ("-", (d.bodies[n]?.map (·.mode)).getD 0, linkCount d (.file n), "")
    | _ => ("c", 0o666, 1, "")
  let size := toString (sizeOfEntry d file)
  let pad := String.ofList (List.replicate (sizeWidth - size.length) ' ')
  let time := Moment.text (timeOfEntry d file) "%b %e %H:%M"
  s!"{kind}{modeLetters mode} {links} root root {pad}{size} {time} {name}{target}"

def ordered (d : Disk) (a : Arguments) (dir : String) (names : List String) : List String :=
  let names := match a.lastOf ['t', 'S', 'U'] with
    | some 't' => names.mergeSort fun x y =>
        timeOfEntry d (within dir y) ≤ timeOfEntry d (within dir x)
    | some 'S' => names.mergeSort fun x y =>
        sizeOfEntry d (within dir y) ≤ sizeOfEntry d (within dir x)
    | _ => names
  if a.has 'r' then names.reverse else names

def entriesOf (d : Disk) (a : Arguments) (dir : String) : List String :=
  let all := d.namesIn ⟨dir⟩
  match a.lastOf ['a', 'A'] with
  | some 'a' => ordered d a dir ("." :: ".." :: all)
  | some _ => ordered d a dir all
  | none => ordered d a dir (all.filter (!·.startsWith "."))

def rowsOf (d : Disk) (a : Arguments) (dir : String) (names : List String) : String :=
  let width := (names.map fun n => (toString (sizeOfEntry d (within dir n))).length).foldl max 0
  String.join (names.map fun n =>
    let file := within dir n
    let shown := n ++ if a.has 'F' || (a.has 'p' && kindMark d file = "/") then kindMark d file
      else ""
    (if a.has 'l' then longRow d width file shown else shown) ++ "\n")

def blockOf (d : Disk) (a : Arguments) (dir : String) : String :=
  let names := entriesOf d a dir
  let blocks := (names.map fun n => (sizeOfEntry d (within dir n) + 4095) / 4096 * 4).foldl
    (· + ·) 0
  (if a.has 'l' then s!"total {blocks}\n" else "") ++ rowsOf d a dir names

def listedBelow (d : Disk) (a : Arguments) : Nat → String → List String
  | 0, _ => []
  | n + 1, dir =>
    let subs := (entriesOf d a dir).filter fun e =>
      e ≠ "." && e ≠ ".." && d.isDirectory ⟨within dir e⟩ && !Condition.isLink d ⟨within dir e⟩
    dir :: subs.flatMap fun e => listedBelow d a n (within dir e)

def ls (c : Call) : Result :=
  withArgumentsOr 2 ['1', 'a', 'A', 'd', 'F', 'l', 'r', 'R', 't', 'S', 'U', 'h', 'x', 'C', 'p', 'n',
      'o', 'g', 'i', 's', 'L', 'H', 'q', 'N', 'k', 'm'] [] c fun a =>
    let d := c.disk
    let operands := ordered d a "" ((if a.operands.isEmpty then ["."] else a.operands).mergeSort
      fun x y => (compare x y).isLE)
    let isThere (f : String) : Bool := (d.findEntry ⟨f⟩).toOption.isSome
    let isListed (f : String) := d.isDirectory ⟨f⟩ && !a.has 'd'
    let plain := operands.filter fun f => isThere f && !isListed f
    let roots := operands.filter isListed
    let dirs := if a.has 'R' then roots.flatMap (listedBelow d a (d.nodes.length + 1)) else roots
    let blocks := dirs.map fun f =>
      (if operands.length > 1 || a.has 'R' then f ++ ":\n" else "") ++ blockOf d a f
    let text := "\n".intercalate ((if plain.isEmpty then [] else [rowsOf d a "" plain]) ++ blocks)
    (operands.filter (!isThere ·)).foldl (fun r f =>
      let e := match d.findEntry ⟨f⟩ with
        | .error e => e
        | .ok _ => .notFound
      complain c r 2 s!"cannot access {quoted f}: {e.text}")
      (printing c (bytesOf text))

def kindName (d : Disk) : Node → String
  | .directory => "directory"
  | .link _ => "symbolic link"
  | .null => "character special file"
  | .file n => if (d.content n).image.isEmpty then "regular empty file" else "regular file"

def statText (d : Disk) (file : String) (n : Node) : Nat → List Char → String
  | 0, _ => ""
  | _, [] => ""
  | k + 1, '%' :: r =>
    let digits := r.takeWhile fun c => c.isDigit || c = '-'
    match r.drop digits.length with
    | [] => "%"
    | x :: r =>
      let (mode, letters) : Nat × String := match n with
        | .directory => (0o755, "d")
        | .link _ => (0o777, "l")
        | .null => (0o666, "c")
        | .file m => ((d.bodies[m]?.map (·.mode)).getD 0, "-")
      let time := match n with
        | .file m => (d.bodies[m]?.map (·.time)).getD 0
        | _ => d.clock
      let size := match n with
        | .file m => (d.content m).image.size
        | .link t => t.utf8ByteSize
        | .directory => 4096
        | .null => 0
      let text : String := match x with
        | 'n' => file
        | 'N' =>
          match n with
          | .link t => s!"{quoted file} -> {quoted t}"
          | _ => quoted file
        | 's' => toString size
        | 'a' => octalMode mode
        | 'A' => letters ++ modeLetters mode
        | 'F' => kindName d n
        | 'h' => toString (linkCount d n)
        | 'U' | 'G' => "root"
        | 'u' | 'g' => "0"
        | 'Y' | 'X' | 'Z' | 'W' => toString (Int.fdiv time Moment.second)
        | 'y' | 'x' | 'z' | 'w' => Moment.text time "%Y-%m-%d %H:%M:%S.%N +0000"
        | 'b' => toString ((size + 4095) / 4096 * 8)
        | 'B' => "512"
        | 'o' => "4096"
        | '%' => "%"
        | x => "%" ++ x.toString
      text ++ statText d file n k r
  | k + 1, c :: r => c.toString ++ statText d file n k r

def stat (c : Call) : Result :=
  withArguments ['L', 't'] ['c', '%'] c fun a =>
    let (format, ending) : String × String := match a.value? 'c', a.value? '%' with
      | some f, _ => (f, "\n")
      | none, some f => (String.fromUTF8? ⟨(Printf.escaped .alone .bare f.toList).1.toArray⟩
          |>.getD f, "")
      | none, none => ("  File: %n\n  Size: %s", "\n")
    if a.operands.isEmpty then missingOperand c
    else a.operands.foldl (fun r f =>
      match if a.has 'L' then c.disk.find ⟨f⟩ else c.disk.findEntry ⟨f⟩ with
      | .ok (_, n) =>
        { r with out := r.out ++
            bytesOf (statText c.disk f n (format.length + 1) format.toList ++ ending) }
      | .error e => complain c r 1 s!"cannot statx {quoted f}: {e.text}") (unchanged c)

end Freshen.Shell.Utility
