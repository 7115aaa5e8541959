import Freshen.Shell.Edit.Basic
import Freshen.Disk
/-! Lines under way through an editing script. -/

namespace Freshen.Shell.Edit

structure Row where
  text : Bytes
  isEnded : Bool
  file : String

def rows (mark : UInt8) (file : String) (bs : Bytes) : List Row :=
  let ps := Text.pieces mark bs
  ps.dropLast.map (⟨·, true, file⟩) ++
    (ps.getLast?.filter (!·.isEmpty)).toList.map (⟨·, false, file⟩)

structure Output where
  chunks : List Bytes := []
  owesEnd : Bool := false

namespace Output

def text (o : Output) : Bytes := o.chunks.reverse.flatten

def add (o : Output) (mark : UInt8) (bs : Bytes) : Output :=
  { chunks := bs :: (if o.owesEnd then [mark] :: o.chunks else o.chunks), owesEnd := false }

def line (o : Output) (mark : UInt8) (bs : Bytes) (isEnded : Bool) : Output :=
  { o.add mark (if isEnded then bs ++ [mark] else bs) with owesEnd := !isEnded }

end Output

inductive Progress
  | active (last : Option Nat)
  | closed
  deriving DecidableEq, Repr

inductive Addition
  | text (bs : Bytes)
  | file (path : String)

structure Session where
  disk : Disk
  mark : UInt8 := 10
  isSilent : Bool := false
  isInPlace : Bool := false
  width : Nat := 70
  line : Bytes := []
  isEnded : Bool := true
  held : Bytes := []
  heldIsEnded : Bool := true
  number : Nat := 0
  file : String := "-"
  input : List Row
  place : Nat := 0
  ranges : List (Nat × Progress) := []
  sought : Option Regular := none
  hasReplaced : Bool := false
  after : List Addition := []
  out : Output := {}
  files : List (String × Output) := []
  readers : List (String × List Row) := []
  status : Nat := 0
  isOver : Bool := false
  flaw : Option Flaw := none

namespace Session

def isLast (s : Session) : Bool := s.input.isEmpty

def addText (s : Session) (bs : Bytes) : Session := { s with out := s.out.add s.mark bs }

def printed (s : Session) (bs : Bytes) : Session := { s with out := s.out.line s.mark bs s.isEnded }

def writeTo (s : Session) (file : String) (bs : Bytes) : Session :=
  if file = "/dev/stdout" && !s.isInPlace then s.printed bs
  else
    let o := (Keyed.get? s.files file).getD {}
    { s with files := Keyed.set file (o.line s.mark bs s.isEnded) s.files }

def seek (s : Session) (r : Option Regular) (found : Session → Regular → Bool × Session) :
    Bool × Session :=
  match r <|> s.sought with
  | some r => found { s with sought := some r } r
  | none =>
    (false, { s with isOver := true, flaw := some .nothingSought })

def isAt (s : Session) : Address → Bool × Session
  | .line n => (s.number = n, s)
  | .every first k =>
    (if k = 0 then s.number = first else first ≤ s.number && (s.number - first) % k = 0, s)
  | .last => (s.isLast, s)
  | .matching r => s.seek r fun s r => (r.occursIn s.line, s)

def setRange (s : Session) (i : Nat) (p : Progress) : Session :=
  { s with ranges := Keyed.set i p s.ranges }

def opened (s : Session) (i : Nat) (e : Extent) : Session :=
  match e with
  | .address (.line n) => if n ≤ s.number then s else s.setRange i (.active (some n))
  | .address _ => s.setRange i (.active none)
  | .further k => if k = 0 then s else s.setRange i (.active (some (s.number + k)))
  | .multiple k =>
    if k = 0 then s else s.setRange i (.active (some ((s.number / k + 1) * k)))

def within (s : Session) (i : Nat) (last : Option Nat) (e : Extent) : Bool × Session :=
  match last, e with
  | some n, _ => (s.number ≤ n, if n ≤ s.number then s.setRange i .closed else s)
  | none, .address b =>
    let (ends, s) := s.isAt b
    (true, if ends then s.setRange i .closed else s)
  | none, _ => (true, s)

/-- Whether a command is for the line. A range begins at its first address; its end is looked for
from the next line on, or from the first line on if it begins at line nought. -/
def selects (s : Session) (i : Nat) (c : Command) : Bool × Session :=
  match c.first, c.extent with
  | none, _ => (true, s)
  | some a, none => s.isAt a
  | some a, some e =>
    match Keyed.get? s.ranges i with
    | some (.active last) => s.within i last e
    | p =>
      if a = .line 0 && p.isNone then s.within i none e
      else
        let (begins, s) := s.isAt a
        (begins, if begins then s.opened i e else s)

def isInside (s : Session) (i : Nat) : Bool :=
  match Keyed.get? s.ranges i with
  | some (.active _) => true
  | _ => false

structure Assembly where
  bytes : Bytes := []
  all : Casing := .asIs
  next : Casing := .asIs

def upper (b : UInt8) : UInt8 := if 97 ≤ b && b ≤ 122 then b - 32 else b

def lower (b : UInt8) : UInt8 := if 65 ≤ b && b ≤ 90 then b + 32 else b

namespace Assembly

def cased (c : Casing) (bs : Bytes) : Bytes :=
  match c with
  | .asIs => bs
  | .upper => bs.map upper
  | .lower => bs.map lower
  | .upperNext => (bs.take 1).map upper ++ bs.drop 1
  | .lowerNext => (bs.take 1).map lower ++ bs.drop 1

def add (a : Assembly) (bs : Bytes) : Assembly :=
  if bs.isEmpty then a
  else { a with bytes := a.bytes ++ cased a.next (cased a.all bs), next := .asIs }

def addPiece (f : Regular.Found) (a : Assembly) : Piece → Assembly
  | .literal bs => a.add bs
  | .whole => a.add f.matched
  | .group n => a.add ((Keyed.get? f.after.groups n).getD [])
  | .casing c =>
    match c with
    | .upperNext | .lowerNext => { a with next := c }
    | c => { a with all := c, next := .asIs }

end Assembly

def replacement (ps : List Piece) (f : Regular.Found) : Bytes :=
  (ps.foldl (Assembly.addPiece f) {}).bytes

def replaced (u : Substitution) (r : Regular) (line : Bytes) : Option Bytes :=
  let (fs, last) := r.cuts line
  if fs.length < u.nth then none
  else
    let isReplaced (i : Nat) : Bool := i = u.nth || (u.isGlobal && u.nth < i)
    let pieces := (fs.zipIdx 1).map fun (f, i) =>
      f.1 ++ if isReplaced i then replacement u.replacement f.2 else f.2.matched
    some (pieces.flatten ++ last)

def substitute (s : Session) (u : Substitution) : Session :=
  (s.seek u.pattern fun s r =>
    match replaced u r s.line with
    | none => (false, s)
    | some line =>
      let s := { s with line, hasReplaced := true }
      let s := if u.prints then s.printed line else s
      (true, match u.file with
        | some f => s.writeTo f line
        | none => s)).2

def listed (b : UInt8) : String :=
  match b with
  | 92 => "\\\\"
  | 7 => "\\a"
  | 8 => "\\b"
  | 9 => "\\t"
  | 10 => "\\n"
  | 11 => "\\v"
  | 12 => "\\f"
  | 13 => "\\r"
  | b =>
    if 32 ≤ b && b < 127 then (Char.ofNat b.toNat).toString
    else
      let digit (n : Nat) : Char := Char.ofNat (48 + n % 8)
      String.ofList ['\\', digit (b.toNat / 64), digit (b.toNat / 8), digit b.toNat]

def wrapped (width : Nat) : List String → Nat → String → String
  | [], _, done => done ++ "$\n"
  | t :: ts, column, done =>
    if 1 < width && width - 1 < column + t.length then
      wrapped width ts t.length (done ++ "\\\n" ++ t)
    else wrapped width ts (column + t.length) (done ++ t)

def flushed (s : Session) : Session :=
  let s' := s.after.foldl (fun (s : Session) a => match a with
    | .text bs => s.addText bs
    | .file f => s.addText (((s.disk.readAll ⟨f⟩).toOption.map (·.data.toList)).getD [])) s
  { s' with after := [] }

def autoPrinted (s : Session) : Session := if s.isSilent then s else s.printed s.line

def ended (s : Session) : Session := { s with isOver := true }

def taken (s : Session) (change : Bytes → Bytes) : Session :=
  match s.input with
  | [] => s.ended
  | r :: input =>
    { s with
      line := change r.text, isEnded := r.isEnded, file := r.file, input
      number := s.number + 1, hasReplaced := false }

def round (s : Session) : Session := { (s.flushed.taken id) with place := 0 }

def toEnd (s : Session) (p : Array Command) : Session := { s with place := p.size }

def hasRow (s : Session) (file : String) : Option (Row × Session) :=
  let all := match Keyed.get? s.readers file with
    | some rs => rs
    | none =>
      rows s.mark file (((s.disk.readAll ⟨file⟩).toOption.map (·.data.toList)).getD [])
  match all with
  | [] => none
  | r :: rs => some (r, { s with readers := Keyed.set file rs s.readers })

def beforeMark (s : Session) : Bytes := s.line.takeWhile (· ≠ s.mark)

def perform (p : Array Command) (s : Session) (i : Nat) (a : Action) : Session :=
  match a with
  | .nothing | .label _ | .block _ | .blockEnd => s
  | .jump w name =>
    let target := if name = "" then p.size
      else ((p.findIdx? (·.action = .label name)).map (· + 1)).getD p.size
    match w with
    | .always => { s with place := target }
    | .ifReplaced => if s.hasReplaced then { s with place := target, hasReplaced := false } else s
    | .unlessReplaced =>
      if s.hasReplaced then { s with hasReplaced := false } else { s with place := target }
  | .substitute u => s.substitute u
  | .exchange table =>
    { s with line := s.line.map fun b => (Keyed.get? table b).getD b }
  | .print => s.printed s.line
  | .printFirst =>
    let isEnded := s.isEnded || s.line.contains s.mark
    { s with out := s.out.line s.mark s.beforeMark isEnded }
  | .delete => s.round
  | .deleteFirst =>
    if s.line.contains s.mark then
      { s.flushed with line := s.line.drop (s.beforeMark.length + 1), place := 0 }
    else s.round
  | .next => if s.isLast then (s.toEnd p) else s.autoPrinted.flushed.taken id
  | .appendNext =>
    if s.isLast then s.toEnd p else s.flushed.taken (s.line ++ [s.mark] ++ ·)
  | .hold => { s with held := s.line, heldIsEnded := s.isEnded }
  | .holdMore => { s with held := s.held ++ [s.mark] ++ s.line, heldIsEnded := s.isEnded }
  | .fetch => { s with line := s.held, isEnded := s.heldIsEnded }
  | .fetchMore => { s with line := s.line ++ [s.mark] ++ s.held, isEnded := s.heldIsEnded }
  | .swap =>
    { s with line := s.held, isEnded := s.heldIsEnded, held := s.line, heldIsEnded := s.isEnded }
  | .empty => { s with line := [] }
  | .number => s.addText (bytesOf (toString s.number ++ "\n"))
  | .fileName => s.addText (bytesOf (s.file ++ "\n"))
  | .list width =>
    s.addText (bytesOf (wrapped (width.getD s.width) (s.line.map listed) 0 ""))
  | .append t => { s with after := s.after ++ [.text t] }
  | .insert t => s.addText t
  | .change t => (if s.isInside i then s else s.addText t).round
  | .readFile f => { s with after := s.after ++ [.file f] }
  | .readLine f =>
    match s.hasRow f with
    | some (r, s) => { s with after := s.after ++ [.text (r.text ++ [s.mark])] }
    | none => s
  | .write f => s.writeTo f s.line
  | .writeFirst f => s.writeTo f s.beforeMark
  | .quit n => { s.autoPrinted.flushed.ended with status := n }
  | .leave n => { s.ended with status := n }

def step (p : Array Command) (s : Session) : Session :=
  match p[s.place]? with
  | none => s.autoPrinted.round
  | some c =>
    let i := s.place
    let (selected, s) := s.selects i c
    if s.isOver then s
    else match c.action, selected != c.inverted with
    | a, true => perform p { s with place := i + 1 } i a
    | .block size, false => { s with place := i + 1 + size }
    | _, false => { s with place := i + 1 }

def run (p : Array Command) : Nat → Session → Session
  | 0, s => s
  | n + 1, s => if s.isOver then s else run p n (step p s)

def limit : Nat := 10000000

def complete (p : Program) (s : Session) : Session := run p.toArray limit (s.taken id)

end Session
end Freshen.Shell.Edit
