import Freshen.Shell.Regular.Written
import Freshen.Shell.Utility.Basic
/-! How lines are laid out: their numbers, how long they may be, and tabs for blanks. -/

namespace Freshen.Shell.Utility

inductive NumberStyle
  | all
  | filled
  | nothing
  | matching (r : Regular)

inductive NumberPlace
  | left
  | right
  | padded
  deriving DecidableEq

structure Numbering where
  body : NumberStyle := .filled
  header : NumberStyle := .nothing
  footer : NumberStyle := .nothing
  first : Int := 1
  step : Int := 1
  width : Nat := 6
  gap : Bytes := [9]
  place : NumberPlace := .right
  restarts : Bool := true
  emptyRun : Nat := 1
  delimiter : Bytes := [92, 58]

namespace Numbering

inductive Section
  | header
  | body
  | footer
  deriving DecidableEq

def styleOf (k : Numbering) : Section → NumberStyle
  | .header => k.header
  | .body => k.body
  | .footer => k.footer

def sectionOf? (k : Numbering) (l : Bytes) : Option Section :=
  if k.delimiter.isEmpty then none
  else if l = k.delimiter ++ k.delimiter ++ k.delimiter then some .header
  else if l = k.delimiter ++ k.delimiter then some .body
  else if l = k.delimiter then some .footer
  else none

def digits (k : Numbering) (n : Int) : Bytes :=
  let s := toString n
  let room := k.width - s.length
  bytesOf (match k.place with
    | .left => s ++ String.ofList (List.replicate room ' ')
    | .right => padLeft k.width s
    | .padded => (if n < 0 then "-" else "") ++ String.ofList (List.replicate room '0') ++
        toString n.natAbs)

structure State where
  inside : Section := .body
  next : Int
  empty : Nat := 0

def line (k : Numbering) (s : State) (l : Bytes) : State × Bytes :=
  match k.sectionOf? l with
  | some inside =>
    ({ s with inside, next := if k.restarts then k.first else s.next }, [10])
  | none =>
    let (isNumbered, empty) : Bool × Nat := match k.styleOf s.inside with
      | .nothing => (false, s.empty)
      | .filled => (!l.isEmpty, s.empty)
      | .matching r => (r.occursIn l, s.empty)
      | .all =>
        if k.emptyRun ≤ 1 then (true, 0)
        else if !l.isEmpty then (true, 0)
        else if s.empty + 1 = k.emptyRun then (true, 0)
        else (false, s.empty + 1)
    if isNumbered then
      ({ s with next := s.next + k.step, empty }, k.digits s.next ++ k.gap ++ l ++ [10])
    else ({ s with empty }, List.replicate (k.width + k.gap.length) 32 ++ l ++ [10])

def text (k : Numbering) (bs : Bytes) : Bytes :=
  ((lines bs).foldl (fun (acc : State × List Bytes) l =>
    let (s, out) := k.line acc.1 l
    (s, out :: acc.2)) (({ next := k.first } : State), [])).2.reverse.flatten

end Numbering

def numberStyle? (text : String) : Option NumberStyle :=
  match text.toList with
  | ['a'] => some .all
  | ['t'] => some .filled
  | ['n'] => some .nothing
  | 'p' :: r => (Regular.parse .basic (String.ofList r)).toOption.map .matching
  | _ => none

def nl (c : Call) : Result :=
  let menu : Arguments.Menu := {
    known := ['p'], valued := ['b', 'h', 'f', 'v', 'i', 'l', 's', 'w', 'n', 'd']
    long := longNames c.name }
  match Arguments.parse menu c.args with
  | .error f => misuse c 1 f.message
  | .ok a =>
    let style (letter : Char) (part : String) (usual : NumberStyle) : Except Result NumberStyle :=
      match a.value? letter with
      | none => .ok usual
      | some t =>
        match numberStyle? t with
        | some s => .ok s
        | none => .error (misuse c 1 s!"invalid {part} numbering style: {quoted t}")
    let number (letter : Char) (what : String) (usual : Int) (least : Option Int) :
        Except Result Int :=
      match a.value? letter with
      | none => .ok usual
      | some t =>
        match t.toInt? with
        | some n =>
          if least.all (· ≤ n) then .ok n
          else .error (failing c 1
            s!"invalid line number {what}: {quoted t}: Numerical result out of range")
        | none => .error (failing c 1
            (if what = "start" then s!"invalid starting line number: {quoted t}"
            else s!"invalid line number {what}: {quoted t}"))
    let place : Except Result NumberPlace := match a.value? 'n' with
      | none | some "rn" => .ok .right
      | some "ln" => .ok .left
      | some "rz" => .ok .padded
      | some t => .error (misuse c 1 s!"invalid line numbering format: {quoted t}")
    let built : Except Result Numbering := do
      let delimiter := bytesOf ((a.value? 'd').getD "\\:")
      return {
        body := ← style 'b' "body" .filled
        header := ← style 'h' "header" .nothing
        footer := ← style 'f' "footer" .nothing
        first := ← number 'v' "start" 1 none
        step := ← number 'i' "increment" 1 none
        emptyRun := (← number 'l' "of blank lines" 1 (some 1)).toNat
        width := (← number 'w' "field width" 6 (some 1)).toNat
        place := ← place
        gap := bytesOf ((a.value? 's').getD "\t")
        restarts := !a.has 'p'
        delimiter := if delimiter.length = 1 then delimiter ++ [58] else delimiter }
    match built with
    | .error r => r
    | .ok k => filtering c a.operands k.text

structure Folding where
  width : Nat := 80
  countsBytes : Bool := false
  breaksAtBlanks : Bool := false

namespace Folding

def column (k : Folding) (n : Nat) (b : UInt8) : Nat :=
  if k.countsBytes then n + 1
  else if b = 8 then n - 1
  else if b = 13 then 0
  else if b = 9 then n + 8 - n % 8
  else n + 1

def isBlank (b : UInt8) : Bool := b = 32 || b = 9

def fold (k : Folding) : Nat → Nat → Bytes → Bytes → Bytes
  | 0, _, held, rest => held.reverse ++ rest
  | _ + 1, _, held, [] => held.reverse
  | n + 1, col, held, b :: r =>
    if b = 10 then held.reverse ++ 10 :: fold k n 0 [] r
    else if k.column col b ≤ k.width then fold k n (k.column col b) (b :: held) r
    else
      let kept := held.dropWhile (!isBlank ·)
      if k.breaksAtBlanks && !kept.isEmpty then
        let moved := held.takeWhile (!isBlank ·)
        kept.reverse ++ 10 :: fold k n (moved.reverse.foldl k.column 0) moved (b :: r)
      else if held.isEmpty then fold k n (k.column col b) [b] r
      else held.reverse ++ 10 :: fold k n 0 [] (b :: r)

end Folding

def withNumber (option : Char) (ws : List String) : List String :=
  ws.map fun w =>
    match w.toList with
    | '-' :: d :: ds =>
      if (d :: ds).all fun c => c.isDigit || c = ',' then String.ofList ('-' :: option :: d :: ds)
      else w
    | _ => w

def fold (c : Call) : Result :=
  let c := { c with args := withNumber 'w' c.args }
  withArguments ['b', 's'] ['w'] c fun a =>
    let text := (a.value? 'w').getD "80"
    match text.toNat? with
    | some (n + 1) =>
      let k : Folding := { width := n + 1, countsBytes := a.has 'b', breaksAtBlanks := a.has 's' }
      eachFile c a.operands plainFault fun bs => k.fold (2 * bs.length + 2) 0 [] bs
    | some 0 =>
      failing c 1 s!"invalid number of columns: {quoted text}: Numerical result out of range"
    | none => failing c 1 s!"invalid number of columns: {quoted text}"

structure TabStops where
  size : Nat := 8
  columns : List Nat := []

namespace TabStops

def next (t : TabStops) (n : Nat) : Nat :=
  if t.columns.isEmpty then n + t.size - n % t.size
  else (t.columns.find? (n < ·)).getD (n + 1)

def isBehind (t : TabStops) (n : Nat) : Bool :=
  !t.columns.isEmpty && t.columns.all (· ≤ n)

def isAscending : List Nat → Bool
  | a :: b :: r => a < b && isAscending (b :: r)
  | _ => true

def ofText (texts : List String) : Except String TabStops :=
  let words := texts.flatMap fun t =>
    (t.split fun c => c = ',' || c = ' ').toList.map (·.toString)
  let words := words.filter (· ≠ "")
  match words.find? (·.toNat?.isNone) with
  | some w =>
    .error ("tab size contains invalid character(s): " ++
      quoted (String.ofList (w.toList.dropWhile Char.isDigit)))
  | none =>
    let ns := words.filterMap (·.toNat?)
    if ns.contains 0 then .error "tab size cannot be 0"
    else if !isAscending ns then .error "tab sizes must be ascending"
    else match ns with
    | [] => .ok {}
    | [n] => .ok { size := n }
    | ns => .ok { columns := ns }

def expanded (t : TabStops) (onlyFirst : Bool) : Nat → Bool → Bytes → Bytes
  | _, _, [] => []
  | n, isFirst, b :: r =>
    if b = 10 then 10 :: expanded t onlyFirst 0 true r
    else if !isFirst && onlyFirst then b :: expanded t onlyFirst n false r
    else if b = 9 then
      List.replicate (t.next n - n) 32 ++ expanded t onlyFirst (t.next n) isFirst r
    else if b = 8 then 8 :: expanded t onlyFirst (n - 1) false r
    else b :: expanded t onlyFirst (n + 1) (isFirst && b = 32) r

structure Held where
  column : Nat := 0
  blanks : Bytes := []
  afterBlank : Bool := true
  isSingle : Bool := false
  converts : Bool := true

def unexpanded (t : TabStops) (all : Bool) : Held → Bytes → Bytes
  | h, [] => h.blanks
  | h, b :: r =>
    let release (h : Held) : Bytes :=
      if 1 < h.blanks.length && h.isSingle then 9 :: h.blanks.drop 1 else h.blanks
    if b = 10 then release h ++ 10 :: unexpanded t all {} r
    else if !h.converts then b :: unexpanded t all h r
    else if (b = 32 || b = 9) && !t.isBehind h.column then
      let stop := t.next h.column
      let column := if b = 9 then stop else h.column + 1
      if b = 32 && !(h.afterBlank && column = stop) then
        unexpanded t all
          { h with
            column, blanks := h.blanks ++ [32], afterBlank := true
            isSingle := h.isSingle || column = stop } r
      else
        -- The blanks end at a stop: a tab takes their place.
        let kept := if h.isSingle then [9] else []
        let h := { h with column, blanks := [], afterBlank := true, isSingle := false }
        kept ++ 9 :: unexpanded t all h r
    else
      let column := if b = 8 then h.column - 1 else h.column + 1
      release h ++ b ::
        unexpanded t all
          { column, blanks := [], afterBlank := false, isSingle := false, converts := all } r

end TabStops

def expand (c : Call) : Result :=
  let c := { c with args := withNumber 't' c.args }
  withArguments ['i'] ['t'] c fun a =>
    match TabStops.ofText (a.allValues 't') with
    | .error text => failing c 1 text
    | .ok t => eachFile c a.operands plainFault (t.expanded (a.has 'i') 0 true)

def unexpand (c : Call) : Result :=
  let c := { c with args := withNumber 't' c.args }
  withArguments ['a', 'f'] ['t'] c fun a =>
    match TabStops.ofText (a.allValues 't') with
    | .error text => failing c 1 text
    | .ok t =>
      let all := (a.has 'a' || !(a.allValues 't').isEmpty) && !a.has 'f'
      eachFile c a.operands plainFault (t.unexpanded all {})

end Freshen.Shell.Utility
