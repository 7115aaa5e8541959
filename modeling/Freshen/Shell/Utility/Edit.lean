import Freshen.Shell.Edit.Session
import Freshen.Shell.Edit.Written
import Freshen.Shell.Utility.Basic
/-! Editing a text line by line, by a script from the arguments. -/

namespace Freshen.Shell.Utility

namespace Edit

open Freshen.Shell.Edit

structure Source where
  file : Option String := none
  text : String

def sources (c : Call) (a : Arguments) :
    Except (String × OsError) (List Source × List String) := do
  let given := a.values.reverse.filter fun v => v.1 = 'e' || v.1 = 'f'
  if given.isEmpty then
    return (a.operands.take 1 |>.map fun text => { text }, a.operands.drop 1)
  let parts ← given.mapM fun (kind, v) =>
    if kind = 'e' then .ok { text := v }
    else match contents c v with
    | .ok bs =>
      let bs := if bs.getLast? = some 10 then bs.dropLast else bs
      .ok { file := some v, text := Text.Utf8.lenient ⟨bs.toArray⟩ }
    | .error e => .error (v, e)
  return (parts, a.operands)

def placed (offset : Nat) : Nat → List Source → String
  | n, [] => s!"-e expression #{n}, char {offset}: "
  | n, s :: rest =>
    if offset ≤ s.text.length || rest.isEmpty then
      match s.file with
      | some f =>
        let line := ((s.text.toList.take (offset - 1)).filter (· = '\n')).length + 1
        s!"file {f} line {line}: "
      | none => s!"-e expression #{n}, char {offset}: "
    else placed (offset - s.text.length - 1) (if s.file.isNone then n + 1 else n) rest

def complaint (ss : List Source) (text : String) : Flaw → String × Nat
  | .at_ left t => (placed (text.length - left) 1 ss ++ t, 1)
  | .openBlock => (placed 0 1 ss ++ "unmatched \x60\x7b'", 1)
  | .nothingSought => (placed 0 1 ss ++ "no previous regular expression", 1)
  | .noLabel name => (s!"can't find label for jump to \x60{name}'", 4)
  | .plain t => (t, 4)

def fault (file : String) : OsError → String × Nat
  | .isDirectory => (s!"read error on {file}: {OsError.isDirectory.text}", 4)
  | e => (s!"can't read {file}: {e.text}", 2)

structure Work where
  result : Result
  files : List (String × Output)

def Work.written (c : Call) (w : Work) : Result :=
  w.files.foldl (fun r (f, o) =>
    if f = "/dev/stderr" then
      let ls := (lines o.text).map fun l => Text.Utf8.lenient ⟨l.toArray⟩
      { r with complaints := r.complaints ++ ls }
    else if f = "/dev/stdout" then { r with out := r.out ++ o.text }
    else match Utility.write r.disk f o.text with
    | .ok disk => { r with disk }
    | .error e => complain c r 4 s!"couldn't open file {f}: {e.text}") w.result

def start (a : Arguments) (silent : Bool) (disk : Disk) (files : List (String × Output))
    (input : List Row) : Session where
  disk := disk
  mark := a.mark
  isSilent := a.has 'n' || silent
  width := ((a.value? 'l').bind String.toNat?).getD 70
  input := input
  files := files

def gather (c : Call) (a : Arguments) : List String → Result → List Row × Result
  | [], r => ([], r)
  | f :: fs, r =>
    match contents c f with
    | .ok bs =>
      let (more, r) := gather c a fs r
      (Edit.rows a.mark f bs ++ more, r)
    | .error e =>
      let (text, status) := fault f e
      let r := complain c r status text
      if e = .isDirectory then ([], r) else gather c a fs r

def Work.after (c : Call) (ss : List Source) (text : String) (w : Work) (s : Session) : Work :=
  let r := { w.result with out := w.result.out ++ s.out.text }
  let r := match s.flaw with
    | none => { r with status := if s.status ≠ 0 then s.status else r.status }
    | some f =>
      let (t, status) := complaint ss text f
      complain c r status t
  { result := { r with isSated := s.isOver && !s.input.isEmpty }, files := s.files }

def backup (suffix file : String) : String :=
  if suffix.toList.contains '*' then
    let name := (file.splitOn "/").getLastD file
    let folder := (file.dropEnd name.length).toString
    let copy := name.intercalate (suffix.splitOn "*")
    if copy.toList.contains '/' then copy else folder ++ copy
  else file ++ suffix

def inPlace (c : Call) (a : Arguments) (silent : Bool) (p : Program) (suffix : String) (w : Work)
    (file : String) : Work × Session :=
  let idle : Session := { start a silent w.result.disk w.files [] with isOver := true }
  let failing (status : Nat) (text : String) : Work × Session :=
    ({ w with result := complain c w.result status text }, idle)
  match contents { c with disk := w.result.disk } file with
  | .error .isDirectory => failing 4 s!"couldn't edit {file}: not a regular file"
  | .error e => failing (fault file e).2 (fault file e).1
  | .ok bs =>
    let s := start a silent w.result.disk w.files (Edit.rows a.mark file bs)
    let s := { s with isInPlace := true }.complete p
    let rest := s.input.flatMap fun r => if r.isEnded then r.text ++ [s.mark] else r.text
    let kept := if suffix = "" then .ok w.result.disk
      else Utility.write w.result.disk (backup suffix file) bs
    match kept.bind fun d => Utility.write d file (s.out.text ++ rest) with
    | .ok disk => ({ w with result := { w.result with disk } }, s)
    | .error e => failing 4 s!"couldn't open file {file}: {e.text}"

def run (c : Call) (a : Arguments) (ss : List Source) (files : List String) : Result :=
  let text := "\n".intercalate (ss.map (·.text))
  let style : Regular.Style := { isExtended := a.has 'E' || a.has 'r' }
  let silent := text = "#n" || text.startsWith "#n\n"
  match parse style text with
  | .error f =>
    let (t, status) := complaint ss text f
    failing c status t
  | .ok p =>
    let w : Work := {
      result := { disk := c.disk, tookInput := readsInput files }
      files := p.files.map (·, {}) }
    match a.value? 'i' with
    | some suffix =>
      if files.isEmpty then failing c 4 "no input files"
      else
        let done := files.foldl (fun (w : Work) f =>
          let (w, s) := inPlace c a silent p suffix w f
          { w.after c ss text { s with out := {} } with files := s.files }) w
        done.written c
    | none =>
      let names := if files.isEmpty then ["-"] else files
      if a.has 's' then
        let done := names.foldl (fun (w : Work) f =>
          let (input, r) := gather c a [f] w.result
          let s := (start a silent r.disk w.files input).complete p
          { w with result := r }.after c ss text s) w
        done.written c
      else
        let (input, r) := gather c a names w.result
        let s := (start a silent r.disk w.files input).complete p
        ({ w with result := r }.after c ss text s).written c

end Edit

def sed (c : Call) : Result :=
  let menu : Arguments.Menu := {
    known := ['n', 'E', 'r', 's', 'u', 'z', 'b', 'p', 'F', 'S', 'D']
    valued := ['e', 'f', 'l']
    optional := ['i']
    long := longNames c.name }
  match Arguments.parse menu c.args with
  | .error f => misuse c 1 f.message
  | .ok a =>
    match Edit.sources c a with
    | .error (f, e) => failing c 1 s!"couldn't open file {f}: {e.text}"
    | .ok ([], _) =>
      { disk := c.disk, status := 1
        complaints := [s!"Usage: {c.name} [OPTION]... " ++
          "\x7bscript-only-if-no-other-script\x7d [input-file]..."] }
    | .ok (ss, files) => Edit.run c a ss files

end Freshen.Shell.Utility
