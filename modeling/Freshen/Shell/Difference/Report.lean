import Freshen.Shell.ByteSet
import Freshen.Shell.Difference
import Freshen.Shell.Pattern
import Freshen.Shell.Regular
/-! How the differences of two texts are told: change by change, or with the lines around them. -/

namespace Freshen.Shell.Difference

inductive Report
  | plain
  | unified (context : Nat)
  | context (context : Nat)
  | script
  | brief
  deriving DecidableEq

structure Options where
  report : Report := .plain
  words : List String := []
  foldsCase : Bool := false
  dropsBlanks : Bool := false
  joinsBlanks : Bool := false
  trimsEnds : Bool := false
  dropsReturns : Bool := false
  skipsEmpty : Bool := false
  skipped : List Regular := []
  tellsSame : Bool := false
  recursive : Bool := false
  assumesEmpty : Bool := false
  isText : Bool := false
  labels : List String := []
  excluded : List Pattern := []

abbrev Line := Bytes × Bool

def rowsOf (bs : Bytes) : List Bytes :=
  let ps := Text.pieces 10 bs
  (ps.dropLast.map (· ++ [10])) ++ (ps.getLast?.filter (!·.isEmpty)).toList

def linesOf (bs : Bytes) : List Line :=
  (rowsOf bs).map fun l => if l.getLast? = some 10 then (l.dropLast, true) else (l, false)

namespace Options

def isBlank (b : UInt8) : Bool := ByteSet.space.contains b

def joined : Bytes → Bytes
  | [] => []
  | b :: r => if isBlank b then 32 :: joined (r.dropWhile isBlank) else b :: joined r
  termination_by bs => bs.length
  decreasing_by
    · have := (List.dropWhile_suffix (l := r) isBlank).length_le
      simp only [List.length_cons]; omega
    · simp

def key (o : Options) (l : Line) : Line :=
  let bs := l.1
  let trimmed (bs : Bytes) : Bytes := (bs.reverse.dropWhile isBlank).reverse
  let bs := if o.dropsReturns && bs.getLast? = some 13 then bs.dropLast else bs
  let bs := if o.dropsBlanks then bs.filter (!isBlank ·)
    else if o.joinsBlanks then joined (trimmed bs)
    else if o.trimsEnds then trimmed bs
    else bs
  let bs := if o.foldsCase then bs.map fun b => if 65 ≤ b && b ≤ 90 then b + 32 else b else bs
  (bs, l.2 || o.dropsBlanks || o.joinsBlanks || o.trimsEnds || o.report = .script)

def margin (o : Options) : Nat :=
  match o.report with
  | .unified n | .context n => n
  | _ => 0

def ignores (o : Options) (ls : List Line) : Bool :=
  (o.skipsEmpty || !o.skipped.isEmpty) && ls.all fun l =>
    (o.skipsEmpty && l.1.isEmpty) || o.skipped.any fun r => r.occursIn l.1

end Options

structure Side where
  name : String
  lines : List Line
  stamp : String := ""

def range (first count : Nat) : String :=
  if count ≤ 1 then toString (first + count) else s!"{first + 1},{first + count}"

def shownLines (sign : String) (ls : List Line) : Bytes :=
  ls.flatMap fun l =>
    bytesOf sign ++ l.1 ++ (if l.2 then [10] else bytesOf "\n\\ No newline at end of file\n")

namespace Change

def removedLines (c : Change) (s : Side) : List Line := (s.lines.drop c.first).take c.removed

def addedLines (c : Change) (s : Side) : List Line := (s.lines.drop c.second).take c.added

def letter (c : Change) : String :=
  if c.removed = 0 then "a" else if c.added = 0 then "d" else "c"

def plain (x y : Side) (c : Change) : Bytes :=
  bytesOf (range c.first c.removed ++ c.letter ++ range c.second c.added ++ "\n") ++
    shownLines "< " (c.removedLines x) ++
    (if 0 < c.removed && 0 < c.added then bytesOf "---\n" else []) ++
    shownLines "> " (c.addedLines y)

def script (y : Side) (c : Change) : Bytes :=
  bytesOf (range c.first c.removed ++ c.letter ++ "\n") ++
    if c.added = 0 then []
    else (c.addedLines y).flatMap (fun l => l.1 ++ [10]) ++ bytesOf ".\n"

end Change

def hunks (context : Nat) : List Change → List (List Change)
  | [] => []
  | c :: cs =>
    match hunks context cs with
    | (d :: ds) :: rest =>
      if d.first - (c.first + c.removed) ≤ 2 * context then (c :: d :: ds) :: rest
      else [c] :: (d :: ds) :: rest
    | rest => [c] :: rest

def extent (context : Nat) (x y : Side) (cs : List Change) : (Nat × Nat) × (Nat × Nat) :=
  let first := cs.headD ⟨0, 0, 0, 0⟩
  let last := cs.getLastD ⟨0, 0, 0, 0⟩
  let before := min context first.first
  let after := min context (min (x.lines.length - (last.first + last.removed))
    (y.lines.length - (last.second + last.added)))
  ((first.first - before, last.first + last.removed + after - (first.first - before)),
    (first.second - before, last.second + last.added + after - (first.second - before)))

def unifiedHunk (context : Nat) (x y : Side) (cs : List Change) : Bytes :=
  let ((i, n), (j, m)) := extent context x y cs
  let place (first count : Nat) : String :=
    if count = 0 then s!"{first},0" else if count = 1 then s!"{first + 1}"
    else s!"{first + 1},{count}"
  let (at_, body) := cs.foldl (fun (acc : Nat × Bytes) c =>
    (c.first + c.removed, acc.2 ++ shownLines " " ((x.lines.drop acc.1).take (c.first - acc.1)) ++
      shownLines "-" (c.removedLines x) ++ shownLines "+" (c.addedLines y))) (i, [])
  bytesOf s!"@@ -{place i n} +{place j m} @@\n" ++ body ++
    shownLines " " ((x.lines.drop at_).take (i + n - at_))

def contextHunk (context : Nat) (x y : Side) (cs : List Change) : Bytes :=
  let ((i, n), (j, m)) := extent context x y cs
  let part (lines : List Line) (first count : Nat) (start : Change → Nat)
      (size : Change → Nat) (sign : Change → String) : Bytes :=
    let (at_, body) := cs.foldl (fun (acc : Nat × Bytes) c =>
      (start c + size c, acc.2 ++ shownLines "  " ((lines.drop acc.1).take (start c - acc.1)) ++
        shownLines (sign c) ((lines.drop (start c)).take (size c)))) (first, [])
    body ++ shownLines "  " ((lines.drop at_).take (first + count - at_))
  let isChange (c : Change) : Bool := 0 < c.removed && 0 < c.added
  bytesOf ("***************\n*** " ++ range i n ++ " ****\n") ++
    (if cs.any (0 < ·.removed) then
      part x.lines i n (·.first) (·.removed) fun c => if isChange c then "! " else "- "
    else []) ++
    bytesOf ("--- " ++ range j m ++ " ----\n") ++
    (if cs.any (0 < ·.added) then
      part y.lines j m (·.second) (·.added) fun c => if isChange c then "! " else "+ "
    else [])

def report (o : Options) (x y : Side) (cs : List Change) : Bytes :=
  let head (sign : String) (s : Side) (i : Nat) : Bytes :=
    match o.labels[i]? with
    | some l => bytesOf (sign ++ " " ++ l ++ "\n")
    | none => bytesOf (sign ++ " " ++ s.name ++ "\t" ++ s.stamp ++ "\n")
  match o.report with
  | .plain => cs.flatMap (·.plain x y)
  | .script => cs.reverse.flatMap (·.script y)
  | .unified n =>
    head "---" x 0 ++ head "+++" y 1 ++ (hunks n cs).flatMap (unifiedHunk n x y)
  | .context n =>
    head "***" x 0 ++ head "---" y 1 ++ (hunks n cs).flatMap (contextHunk n x y)
  | .brief => bytesOf s!"Files {x.name} and {y.name} differ\n"

def texts (o : Options) (f g : String) (stamps : String × String) (x y : Bytes) :
    Nat × Bytes :=
  let isBinary := !o.isText && (x.contains 0 || y.contains 0)
  let same : Nat × Bytes :=
    (0, if o.tellsSame then bytesOf s!"Files {f} and {g} are identical\n" else [])
  if x = y then same
  else if isBinary then
    (1, bytesOf (if o.report = .brief then s!"Files {f} and {g} differ\n"
      else s!"Binary files {f} and {g} differ\n"))
  else
    let a : Side := ⟨f, linesOf x, stamps.1⟩
    let b : Side := ⟨g, linesOf y, stamps.2⟩
    let cs := Difference.ofLines o.margin (a.lines.map o.key) (b.lines.map o.key)
    let counted := cs.filter fun c => !(o.ignores (c.removedLines a ++ c.addedLines b))
    if counted.isEmpty then same else (1, report o a b counted)

end Freshen.Shell.Difference
