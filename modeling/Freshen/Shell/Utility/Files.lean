import Freshen.Shell.Utility.Basic
import Freshen.Shell.Utility.Moment
/-! Programs that make, copy, move and remove files. -/

namespace Freshen.Shell.Utility

def baseName (s : String) : String :=
  match (Text.pieces '/' s.toList).filter (!·.isEmpty) with
  | [] => if s = "" then "" else "/"
  | ps => String.ofList (ps.getLastD [])

def directoryName (s : String) : String :=
  let cs := (s.toList.reverse.dropWhile (· = '/')).dropWhile (· ≠ '/')
  match cs with
  | [] => "."
  | cs =>
    match cs.dropWhile (· = '/') with
    | [] => "/"
    | cs => String.ofList cs.reverse

def tell (r : Result) (talks : Bool) (text : String) : Result :=
  if talks then { r with out := r.out ++ bytesOf (text ++ "\n") } else r

def destination (d : Disk) (a : Arguments) (source target : String) : String :=
  if !a.has 'T' && d.isDirectory ⟨target⟩ then ((Path.mk target).join (baseName source)).text
  else target

def sameFile (d : Disk) (p q : Path) : Bool := Condition.isSameFile d p q

def leaves (a : Arguments) (d : Disk) (source target : String) : Bool :=
  (a.has 'n' && (d.findEntry ⟨target⟩).toOption.isSome) ||
    (a.has 'u' && (match Condition.timeOf? d ⟨source⟩, Condition.timeOf? d ⟨target⟩ with
      | some x, some y => x ≤ y
      | _, _ => false))

def withStamp (d : Disk) (a : Arguments) (source target : String) : Disk :=
  if a.has 'p' || a.has 'a' then
    match d.fileAt? ⟨source⟩, d.find ⟨target⟩ with
    | some b, .ok (_, .file n) => d.modifyBody n fun c => { c with mode := b.mode, time := b.time }
    | _, _ => d
  else d

def copyOne (c : Call) (a : Arguments) (target : String) (r : Result) (source : String) :
    Result :=
  let recursive := a.has 'r' || a.has 'R' || a.has 'a'
  let keepsLinks := (recursive || a.has 'P' || a.has 'd') && !a.has 'L' && !a.has 'H'
  let d := r.disk
  let t := destination d a source target
  let talk (r : Result) : Result := tell r (a.has 'v') s!"{quoted source} -> {quoted t}"
  let create (result : Except OsError Disk) : Result := match result with
    | .ok disk => talk { r with disk := withStamp disk a source t }
    | .error e => complain c r 1 s!"cannot create regular file {quoted t}: {e.text}"
  match if keepsLinks then d.findEntry ⟨source⟩ else d.find ⟨source⟩ with
  | .error e => complain c r 1 s!"cannot stat {quoted source}: {e.text}"
  | .ok (l, .directory) =>
    if !recursive then complain c r 1 s!"-r not specified; omitting directory {quoted source}"
    else match d.locate ⟨t⟩ with
    | .error e => complain c r 1 s!"cannot create directory {quoted t}: {e.text}"
    | .ok m =>
      if l = m then complain c r 1 s!"{quoted source} and {quoted t} are the same file"
      else if l.isPrefixOf m then
        complain c r 1 s!"cannot copy a directory, {quoted source}, into itself, {quoted t}"
      else if (d.node? m).isSome && d.node? m ≠ some .directory then
        complain c r 1 s!"cannot overwrite non-directory {quoted t} with directory {quoted source}"
      else if d.node? m.dropLast ≠ some .directory then
        complain c r 1 s!"cannot create directory {quoted t}: {OsError.notFound.text}"
      else talk { r with disk := d.copyTree (a.has 'p' || a.has 'a') l m }
  | .ok (_, .link text) =>
    let d := (d.removeFile ⟨t⟩).toOption.getD d
    match d.makeLink text ⟨t⟩ with
    | .ok disk => talk { r with disk }
    | .error e => complain c r 1 s!"cannot create symbolic link {quoted t}: {e.text}"
  | .ok (_, n) =>
    if leaves a d source t then r
    else if sameFile d ⟨source⟩ ⟨t⟩ && !a.has 'l' && !a.has 's' then
      complain c r 1 s!"{quoted source} and {quoted t} are the same file"
    else if d.isDirectory ⟨t⟩ then
      complain c r 1 s!"cannot overwrite directory {quoted t} with non-directory"
    else if a.has 's' then create (d.makeLink source ⟨t⟩)
    else if a.has 'l' then create (d.addName n ⟨t⟩)
    else match n with
    | .file k =>
      if Condition.isLink d ⟨t⟩ && !d.exists_ ⟨t⟩ then
        complain c r 1 s!"not writing through dangling symlink {quoted t}"
      else
        let isNew := !d.exists_ ⟨t⟩
        create ((d.writeContent ⟨t⟩ (d.content k)).map fun d' =>
          match isNew, d'.find ⟨t⟩, d.bodies[k]? with
          | true, .ok (_, .file m), some b =>
            d'.modifyBody m fun x => { x with mode := b.mode &&& (0o777 - d'.mask) }
          | _, _, _ => d')
    | _ => create (d.write ⟨t⟩ ⟨#[]⟩)

def transfer (one : String → Result → String → Result) (c : Call) (a : Arguments) : Result :=
  match a.value? 't' with
  | some t =>
    if a.operands.isEmpty then misuse c 1 "missing file operand"
    else if c.disk.isDirectory ⟨t⟩ then a.operands.foldl (one t) (unchanged c)
    else
      let e := if c.disk.exists_ ⟨t⟩ then OsError.notDirectory else .notFound
      failing c 1 s!"target directory {quoted t}: {e.text}"
  | none =>
    match a.operands.getLast?, a.operands.dropLast with
    | none, _ => misuse c 1 "missing file operand"
    | some s, [] => misuse c 1 s!"missing destination file operand after {quoted s}"
    | some t, [s] => one t (unchanged c) s
    | some t, ss =>
      if c.disk.isDirectory ⟨t⟩ then ss.foldl (one t) (unchanged c)
      else
        let e := if c.disk.exists_ ⟨t⟩ then OsError.notDirectory else .notFound
        failing c 1 s!"target {quoted t}: {e.text}"

def cp (c : Call) : Result :=
  -- The long option takes its value in the same word only.
  let args := c.args.map fun w => if w.startsWith "--preserve=" then "-p" else w
  withArguments ['r', 'R', 'a', 'f', 'p', 'v', 'n', 'L', 'P', 'H', 'd', 'l', 's', 'u', 'T', 'x']
    ['t'] { c with args } fun a => transfer (copyOne c a) c a

def moveOne (c : Call) (a : Arguments) (target : String) (r : Result) (source : String) : Result :=
  let d := r.disk
  let t := destination d a source target
  let refused (e : OsError) :=
    complain c r 1 s!"cannot move {quoted source} to {quoted t}: {e.text}"
  match d.findEntry ⟨source⟩ with
  | .error e => complain c r 1 s!"cannot stat {quoted source}: {e.text}"
  | .ok (l, n) =>
    match d.walk false ((Path.mk t).withoutSlashes) with
    | .error e => refused e
    | .ok m =>
      if l = m then complain c r 1 s!"{quoted source} and {quoted t} are the same file"
      else if leaves a d source t then r
      else if d.node? m.dropLast ≠ some .directory then refused .notFound
      else if n = .directory && l.isPrefixOf m then
        complain c r 1 s!"cannot move {quoted source} to a subdirectory of itself, {quoted t}"
      else match n, d.node? m with
      | .directory, some .directory =>
        if (d.namesAt m).isEmpty then { r with disk := d.move l m }
        else refused .notEmpty
      | .directory, some _ =>
        complain c r 1 s!"cannot overwrite non-directory {quoted t} with directory {quoted source}"
      | _, some .directory =>
        complain c r 1 s!"cannot overwrite directory {quoted t} with non-directory"
      | _, _ =>
        tell { r with disk := d.move l m } (a.has 'v') s!"renamed {quoted source} -> {quoted t}"

def mv (c : Call) : Result :=
  withArguments ['f', 'n', 'v', 'u', 'T', 'i'] ['t'] c fun a => transfer (moveOne c a) c a

def removeTree (a : Arguments) (file : String) (l : Location) (r : Result) : Result :=
  let below := (r.disk.nodes.filter fun e => l.isPrefixOf e.1).mergeSort
    fun x y => (compare y.1.length x.1.length).isLE
  let talk (r : Result) (e : Location × Node) : Result :=
    let name := "/".intercalate (file :: e.1.drop l.length)
    tell r (a.has 'v') ((if e.2 = .directory then "removed directory " else "removed ") ++
      quoted name)
  let r := if a.has 'v' then below.foldl talk r else r
  { r with disk := r.disk.clear l }

def removeOne (c : Call) (a : Arguments) (r : Result) (file : String) : Result :=
  let recursive := a.has 'r' || a.has 'R'
  let refused (e : OsError) := complain c r 1 s!"cannot remove {quoted file}: {e.text}"
  match r.disk.findEntry ⟨file⟩ with
  | .error e => if a.has 'f' && (e = .notFound || e = .notDirectory) then r else refused e
  | .ok (l, .directory) =>
    let last := baseName file
    if recursive && (last = "." || last = "..") then
      complain c r 1 s!"refusing to remove '.' or '..' directory: skipping {quoted file}"
    else if recursive && l.isEmpty then
      complain c r 1 "it is dangerous to operate recursively on '/'"
    else if recursive then removeTree a file l r
    else if a.has 'd' then
      match r.disk.removeDirectory ⟨file⟩ with
      | .ok disk => tell { r with disk } (a.has 'v') s!"removed directory {quoted file}"
      | .error e => refused e
    else refused .isDirectory
  | .ok (l, _) => tell { r with disk := r.disk.erase l } (a.has 'v') s!"removed {quoted file}"

def rm (c : Call) : Result :=
  withArguments ['f', 'r', 'R', 'v', 'd', 'i', 'I'] [] c fun a =>
    if a.operands.isEmpty && !a.has 'f' then missingOperand c
    else a.operands.foldl (removeOne c a) (unchanged c)

def stepsTo (p : String) : List String :=
  let root := if p.startsWith "/" then "/" else ""
  let ps := ((Text.pieces '/' p.toList).filter (!·.isEmpty)).map String.ofList
  (List.range ps.length).map fun i => root ++ "/".intercalate (ps.take (i + 1))

def makeOne (c : Call) (a : Arguments) (r : Result) (name : String) : Result :=
  if a.has 'p' then
    let fresh := (stepsTo name).filter fun p => !r.disk.exists_ ⟨p⟩
    match r.disk.makeDirectories ⟨name⟩ with
    | .ok disk =>
      fresh.foldl (fun r p => tell r (a.has 'v') s!"{c.name}: created directory {quoted p}")
        { r with disk }
    | .error e => complain c r 1 s!"cannot create directory {quoted name}: {e.text}"
  else match r.disk.makeDirectory ⟨name⟩ with
    | .ok disk => tell { r with disk } (a.has 'v') s!"{c.name}: created directory {quoted name}"
    | .error e => complain c r 1 s!"cannot create directory {quoted name}: {e.text}"

def mkdir (c : Call) : Result :=
  withArguments ['p', 'v'] ['m'] c fun a =>
    if a.operands.isEmpty then missingOperand c
    else a.operands.foldl (makeOne c a) (unchanged c)

def rmdir (c : Call) : Result :=
  withArguments ['p', 'v', 'i'] [] c fun a =>
    let removeAt (r : Result) (name : String) : Result :=
      match r.disk.removeDirectory ⟨name⟩ with
      | .ok disk => tell { r with disk } (a.has 'v') s!"{c.name}: removing directory, {quoted name}"
      | .error e =>
        if a.has 'i' && e = .notEmpty then r
        else complain c r 1 s!"failed to remove {quoted name}: {e.text}"
    if a.operands.isEmpty then missingOperand c
    else a.operands.foldl (fun r name =>
      let names := if a.has 'p' then (stepsTo name).reverse else [name]
      (names.foldl (fun (acc : Result × Bool) n =>
        if acc.2 then acc
        else
          let r' := removeAt acc.1 n
          (r', r'.complaints.length > acc.1.complaints.length)) (r, false)).1) (unchanged c)

def setTime (time : Int) (d : Disk) (file : String) : Disk :=
  match d.find ⟨file⟩ with
  | .ok (_, .file n) => d.modifyBody n fun b => { b with time }
  | _ => d

def touchOne (c : Call) (create : Bool) (time : Int) (r : Result) (file : String) : Result :=
  if r.disk.exists_ ⟨file⟩ then { r with disk := setTime time r.disk file }
  else if !create then r
  else match r.disk.write ⟨file⟩ ⟨#[]⟩ with
  | .ok disk => { r with disk := setTime time disk file }
  | .error e =>
    let e := if e = .isDirectory then OsError.notFound else e
    complain c r 1 s!"cannot touch {quoted file}: {e.text}"

def touch (c : Call) : Result :=
  withArguments ['c', 'a', 'm', 'h', 'f'] ['d', 't', 'r'] c fun a =>
    let touchAll (time : Int) : Result :=
      if a.operands.isEmpty then misuse c 1 "missing file operand"
      else a.operands.foldl (touchOne c (!a.has 'c') time) (unchanged c)
    let now := c.disk.clock
    match a.value? 't', a.value? 'd', a.value? 'r' with
    | some t, _, _ =>
      match Moment.ofStamp? now t with
      | some m => touchAll m
      | none => failing c 1 s!"invalid date format {quoted t}"
    | none, some t, _ =>
      match Moment.ofText? now t with
      | some m => touchAll m
      | none => failing c 1 s!"invalid date format {quoted t}"
    | none, none, some f =>
      match Condition.timeOf? c.disk ⟨f⟩ with
      | some m => touchAll m
      | none => failing c 1 s!"failed to get attributes of {quoted f}: {OsError.notFound.text}"
    | none, none, none => touchAll now

structure Clause where
  who : Nat
  operator : Char
  rights : List Char

def whoMask (cs : List Char) : Nat :=
  cs.foldl (fun m c => m ||| (match c with
    | 'u' => 0o700
    | 'g' => 0o070
    | 'o' => 0o007
    | _ => 0o777)) 0

def clauses? : Nat → List Char → List Char → Option (List Clause)
  | 0, _, _ => none
  | n + 1, who, cs =>
    match cs with
    | o :: r =>
      if ['+', '-', '='].contains o then
        let rights := r.takeWhile "rwxXstugo".toList.contains
        let clause : Clause := ⟨whoMask who, o, rights⟩
        match r.drop rights.length with
        | [] => some [clause]
        | ',' :: r =>
          let who := r.takeWhile "ugoa".toList.contains
          (clauses? n who (r.drop who.length)).map (clause :: ·)
        | r => (clauses? n who r).map (clause :: ·)
      else none
    | [] => none

def Clause.apply (mask : Nat) (isDirectory : Bool) (k : Clause) (mode : Nat) : Nat :=
  let bits := k.rights.foldl (fun m c => m ||| (match c with
    | 'r' => 0o444
    | 'w' => 0o222
    | 'x' => 0o111
    | 'X' => if isDirectory || mode &&& 0o111 ≠ 0 then 0o111 else 0
    | 'u' => (mode / 64 % 8) * 0o111
    | 'g' => (mode / 8 % 8) * 0o111
    | 'o' => (mode % 8) * 0o111
    | _ => 0)) 0
  let who := if k.who = 0 then 0o777 - mask else k.who
  let bits := bits &&& who
  match k.operator with
  | '+' => mode ||| bits
  | '-' => mode &&& (0o777 - bits)
  | _ => (mode &&& (0o777 - if k.who = 0 then 0o777 else k.who)) ||| bits

def mode? (mask : Nat) (text : String) : Option (Bool → Nat → Nat) :=
  let cs := text.toList
  if !cs.isEmpty && cs.all Lexeme.isOctal then
    let n := Lexeme.inBase 8 cs
    if n > 0o7777 then none else some fun _ _ => n % 512
  else
    let who := cs.takeWhile "ugoa".toList.contains
    (clauses? (cs.length + 1) who (cs.drop who.length)).map fun ks isDirectory mode =>
      ks.foldl (fun m k => k.apply mask isDirectory m) mode

def modeLetters (mode : Nat) : String :=
  let bit (k : Nat) (c : Char) : Char := if mode / Nat.pow 2 k % 2 = 1 then c else '-'
  String.ofList [bit 8 'r', bit 7 'w', bit 6 'x', bit 5 'r', bit 4 'w', bit 3 'x', bit 2 'r',
    bit 1 'w', bit 0 'x']

def octalMode (mode : Nat) : String := String.ofList (Nat.toDigits 8 mode)

def reached (d : Disk) (recursive : Bool) (file : String) : List (Location × Node) :=
  match d.find ⟨file⟩ with
  | .ok (l, n) => if recursive then d.nodes.filter fun e => l.isPrefixOf e.1 else [(l, n)]
  | .error _ => []

def chmodOne (c : Call) (a : Arguments) (change : Bool → Nat → Nat) (r : Result) (file : String) :
    Result :=
  match r.disk.find ⟨file⟩ with
  | .error e =>
    if a.has 'f' then { r with status := 1 }
    else if Condition.isLink r.disk ⟨file⟩ then
      complain c r 1 s!"cannot operate on dangling symlink {quoted file}"
    else complain c r 1 s!"cannot access {quoted file}: {e.text}"
  | .ok _ =>
    (reached r.disk (a.has 'R') file).foldl (fun r e =>
      match e.2 with
      | .file n =>
        let old := (r.disk.bodies[n]?.map (·.mode)).getD 0
        let new := change false old
        let r := { r with disk := r.disk.modifyBody n fun b => { b with mode := new } }
        let numbers := if old = new then
            s!"retained as {Floating.zeros (4 - (octalMode new).length)}{octalMode new}" ++
              s!" ({modeLetters new})"
          else "changed from " ++ Floating.zeros (4 - (octalMode old).length) ++ octalMode old ++
            s!" ({modeLetters old}) to " ++ Floating.zeros (4 - (octalMode new).length) ++
            octalMode new ++ s!" ({modeLetters new})"
        tell r (a.has 'v' || (a.has 'c' && old ≠ new)) s!"mode of {quoted file} {numbers}"
      | _ => r) r

def chmod (c : Call) : Result :=
  let isOption (w : String) : Bool :=
    w.startsWith "--" || (w.startsWith "-" && w.length > 1 &&
      (w.drop 1).toString.toList.all ['R', 'v', 'c', 'f'].contains)
  let options := c.args.filter isOption
  let operands := c.args.filter (!isOption ·)
  withArguments ['R', 'v', 'c', 'f'] ['='] { c with args := options } fun a =>
    match a.value? '=', operands with
    | some f, files =>
      match c.disk.fileAt? ⟨f⟩ with
      | some b => files.foldl (chmodOne c a fun _ _ => b.mode) (unchanged c)
      | none => failing c 1 s!"failed to get attributes of {quoted f}: {OsError.notFound.text}"
    | none, [] => missingOperand c
    | none, mode :: files =>
      if files.isEmpty then misuse c 1 ("missing operand after " ++ quoted mode)
      else match mode? c.disk.mask mode with
      | none => misuse c 1 ("invalid mode: " ++ quoted mode)
      | some change => files.foldl (chmodOne c a change) (unchanged c)

def truncate (c : Call) : Result :=
  withArguments ['c', 'o'] ['s', 'r'] c fun a =>
    match a.value? 's' with
    | none => misuse c 1 "you must specify either '--size' or '--reference'"
    | some text =>
      let (sign, digits) : Option Char × List Char := match text.toList with
        | '+' :: r => (some '+', r)
        | '-' :: r => (some '-', r)
        | r => (none, r)
      let ds := digits.takeWhile Char.isDigit
      let factor : Option Nat := match String.ofList (digits.drop ds.length) with
        | "" => some 1
        | "K" | "k" | "KiB" => some 1024
        | "M" | "MiB" => some 1048576
        | "KB" | "kB" => some 1000
        | "MB" => some 1000000
        | _ => none
      match (String.ofList ds).toNat?, factor with
      | some n, some factor =>
        let n := n * factor
        if a.operands.isEmpty then misuse c 1 "missing file operand"
        else a.operands.foldl (fun r f =>
          let old := ((r.disk.readAll ⟨f⟩).toOption.map (·.data.toList)).getD []
          let size := match sign with
            | some '+' => old.length + n
            | some _ => old.length - n
            | none => n
          let new := old.take size ++ List.replicate (size - old.length) 0
          if a.has 'c' && !r.disk.exists_ ⟨f⟩ then r
          else match write r.disk f new with
          | .ok disk => { r with disk }
          | .error e => complain c r 1 s!"cannot open {quoted f} for writing: {e.text}")
          (unchanged c)
      | _, _ => failing c 1 s!"Invalid number: {quoted text}"

def mktemp (c : Call) : Result :=
  withArguments ['d', 'u', 'q', 't'] ['p'] c fun a =>
    let template := a.operands.headD "tmp.XXXXXXXXXX"
    let folder := if a.operands.isEmpty || a.has 't' then some ((a.value? 'p').getD "/tmp")
      else a.value? 'p'
    let stem := String.ofList (template.toList.reverse.dropWhile (· = 'X')).reverse
    let count := template.length - stem.length
    if count < 3 then failing c 1 s!"too few X's in template {quoted template}"
    else
      let name (i : Nat) : String :=
        let tail := Floating.padded count (1000003 * (i + 1) % Nat.pow 10 (min count 10))
        let path := stem ++ tail
        match folder with
        | some f => f ++ "/" ++ path
        | none => path
      let candidates := (List.range (c.disk.nodes.length + 1)).map name
      let path := (candidates.find? fun p => !c.disk.exists_ ⟨p⟩).getD template
      let made := if a.has 'u' then .ok c.disk
        else if a.has 'd' then c.disk.makeDirectory ⟨path⟩
        else (c.disk.write ⟨path⟩ ⟨#[]⟩).map fun d =>
          match d.find ⟨path⟩ with
          | .ok (_, .file n) => d.modifyBody n fun b => { b with mode := 0o600 }
          | _ => d
      match made with
      | .ok disk => { printing c (bytesOf (path ++ "\n")) with disk }
      | .error e =>
        let kind := if a.has 'd' then "directory" else "file"
        let shown := match folder with
          | some f => f ++ "/" ++ template
          | none => template
        if a.has 'q' then { unchanged c with status := 1 }
        else failing c 1 s!"failed to create {kind} via template {quoted shown}: {e.text}"

def install (c : Call) : Result :=
  withArguments ['d', 'v', 'D', 'p', 'c'] ['m', 't'] c fun a =>
    let mode := ((a.value? 'm').bind (mode? 0)).map fun f => f false 0
    let withMode (r : Result) (f : String) : Result :=
      match r.disk.find ⟨f⟩ with
      | .ok (_, .file n) =>
        { r with disk := r.disk.modifyBody n fun b => { b with mode := mode.getD 0o755 } }
      | _ => r
    if a.has 'd' then
      if a.operands.isEmpty then misuse c 1 "missing file operand"
      else a.operands.foldl (makeOne c { a with flags := 'p' :: a.flags }) (unchanged c)
    else
      let start := if a.has 'D' then
          match a.operands with
          | [_, t] => (c.disk.makeDirectories ⟨directoryName t⟩).toOption.getD c.disk
          | _ => c.disk
        else c.disk
      transfer (fun target r source =>
        withMode (copyOne c { a with flags := a.flags.filter (· ≠ 'D') } target r source)
          (destination r.disk a source target)) { c with disk := start } a

end Freshen.Shell.Utility
