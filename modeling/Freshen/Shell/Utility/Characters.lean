import Freshen.Shell.ByteSet
import Freshen.Shell.Utility.Basic
/-! Exchanging, deleting and squeezing characters. A list of characters may be written with ranges,
classes and repetitions. -/

namespace Freshen.Shell.Utility

namespace Characters

inductive Fault
  | reversed (a b : UInt8)
  | noClass (name : String)
  | emptyClass
  | emptyEquivalence
  | longEquivalence (text : String)
  | badCount (text : String)
  | fillInFirst
  | fillTwice
  | fillWithoutTarget
  | equivalenceInTarget
  | classInTarget
  | misaligned
  | emptyTarget
  | endsWithClass
  | manyTargets
  deriving DecidableEq, Repr

def byteName (b : UInt8) : String :=
  if 32 ≤ b && b < 127 then (Char.ofNat b.toNat).toString
  else
    let digits := Nat.toDigits 8 b.toNat
    "\\" ++ String.ofList (List.replicate (3 - digits.length) '0' ++ digits)

def Fault.message : Fault → String
  | reversed a b =>
    "range-endpoints of " ++ quoted (byteName a ++ "-" ++ byteName b) ++
      " are in reverse collating sequence order"
  | noClass n => "invalid character class " ++ quoted n
  | emptyClass => "missing character class name '[::]'"
  | emptyEquivalence => "missing equivalence class character '[==]'"
  | longEquivalence t => t ++ ": equivalence class operand must be a single character"
  | badCount t => "invalid repeat count " ++ quoted t ++ " in [c*n] construct"
  | fillInFirst => "the [c*] repeat construct may not appear in string1"
  | fillTwice => "only one [c*] repeat construct may appear in string2"
  | fillWithoutTarget => "the [c*] construct may appear in string2 only when translating"
  | equivalenceInTarget => "[=c=] expressions may not appear in string2 when translating"
  | classInTarget =>
    "when translating, the only character classes that may appear in\n" ++
      "string2 are 'upper' and 'lower'"
  | misaligned => "misaligned [:upper:] and/or [:lower:] construct"
  | emptyTarget => "when not truncating set1, string2 must be non-empty"
  | endsWithClass =>
    "when translating with string1 longer than string2,\n" ++
      "the latter string must not end with a character class"
  | manyTargets =>
    "when translating with complemented character classes,\n" ++
      "string2 must map all characters in the domain to one"

structure Mark where
  byte : UInt8
  isEscaped : Bool := false
  deriving DecidableEq, Repr

def Mark.isPlain (m : Mark) (c : Char) : Bool := m.byte.toNat = c.toNat && !m.isEscaped

def octal (bs : Bytes) : Nat := bs.foldl (fun n b => 8 * n + (b.toNat - 48)) 0

def isOctal (b : UInt8) : Bool := 48 ≤ b && b < 56

def letterByte (b : UInt8) : UInt8 :=
  match Char.ofNat b.toNat with
  | 'a' => 7
  | 'b' => 8
  | 'f' => 12
  | 'n' => 10
  | 'r' => 13
  | 't' => 9
  | 'v' => 11
  | _ => b

def ambiguous (ds : Bytes) : String :=
  let digits := String.ofList (ds.map fun b => Char.ofNat b.toNat)
  let first := (digits.take 2).toString
  let last := (digits.drop 2).toString
  "warning: the ambiguous octal escape \\" ++ digits ++ " is being\n\tinterpreted as the 2-byte " ++
    "sequence \\0" ++ first ++ ", " ++ last

def marks : Nat → Bytes → List Mark × List String
  | 0, _ => ([], [])
  | _ + 1, [] => ([], [])
  | n + 1, 92 :: r =>
    match r with
    | [] => ([⟨92, false⟩],
        ["warning: an unescaped backslash at end of string is not portable"])
    | b :: r =>
      if isOctal b then
        let ds := (b :: r).take 3 |>.takeWhile isOctal
        let isGreat := 255 < octal ds
        let taken := if isGreat then 2 else ds.length
        let (ms, warnings) := marks n ((b :: r).drop taken)
        (⟨(octal (ds.take taken)).toUInt8, true⟩ :: ms,
          (if isGreat then [ambiguous ds] else []) ++ warnings)
      else
        let (ms, warnings) := marks n r
        (⟨letterByte b, true⟩ :: ms, warnings)
  | n + 1, b :: r =>
    let (ms, warnings) := marks n r
    (⟨b, false⟩ :: ms, warnings)

inductive Piece
  | byte (b : UInt8)
  | range (a b : UInt8)
  | cls (name : String)
  | same (b : UInt8)
  | repeated (b : UInt8) (count : Nat)
  | fill (b : UInt8)
  deriving DecidableEq, Repr

def textOf (ms : List Mark) : String :=
  Text.Utf8.lenient ⟨(ms.map (·.byte)).toArray⟩

def closing (c : Char) : List Mark → List Mark → Option (List Mark × List Mark)
  | acc, m :: n :: r =>
    if m.isPlain c && n.isPlain ']' then some (acc.reverse, r) else closing c (m :: acc) (n :: r)
  | _, _ => none

def isStarred : List Mark → Bool
  | s :: r => s.isPlain '*' &&
      ((r.dropWhile fun m => !m.isEscaped && 48 ≤ m.byte && m.byte ≤ 57).head?.any (·.isPlain ']'))
  | [] => false

def count? (ds : List Mark) : Option Nat :=
  let bs := ds.map (·.byte)
  if bs.head? = some 48 then if bs.all isOctal then some (octal bs) else none
  else if bs.all fun b => 48 ≤ b && b ≤ 57 then
    some (bs.foldl (fun n b => 10 * n + (b.toNat - 48)) 0)
  else none

def repetition? : List Mark → Except Fault (Option (Piece × List Mark))
  | m :: s :: r =>
    if !s.isPlain '*' then .ok none
    else
      let ds := r.takeWhile fun d => !d.isEscaped && !d.isPlain ']'
      match r.drop ds.length with
      | e :: rest =>
        if !e.isPlain ']' then .ok none
        else match count? ds with
        | none => .error (.badCount (textOf ds))
        | some 0 => .ok (some (.fill m.byte, rest))
        | some n => .ok (some (.repeated m.byte n, rest))
      | [] => .ok none
  | _ => .ok none

def class? (ms : List Mark) : Except Fault (Option (Piece × List Mark)) :=
  match ms with
  | k :: r =>
    if k.isPlain ':' then
      match closing ':' [] r with
      | none => .ok none
      | some ([], _) => .error .emptyClass
      | some (name, rest) =>
        if ByteSet.isClass (textOf name) then .ok (some (.cls (textOf name), rest))
        else if isStarred r then .ok none
        else .error (.noClass (textOf name))
    else if k.isPlain '=' then
      match closing '=' [] r with
      | none => .ok none
      | some ([], _) => .error .emptyEquivalence
      | some ([m], rest) => .ok (some (.same m.byte, rest))
      | some (ms, _) => if isStarred r then .ok none else .error (.longEquivalence (textOf ms))
    else .ok none
  | [] => .ok none

def bracketed? (ms : List Mark) : Except Fault (Option (Piece × List Mark)) := do
  match ← class? ms with
  | some p => return some p
  | none => repetition? ms

def pieces : Nat → List Mark → Except Fault (List Piece)
  | 0, _ => .ok []
  | n + 1, m :: k :: l :: r => do
    let special ← if m.isPlain '[' then bracketed? (k :: l :: r) else pure none
    match special with
    | some (p, rest) => return p :: (← pieces n rest)
    | none =>
      if k.isPlain '-' then
        if l.byte < m.byte then throw (.reversed m.byte l.byte)
        return .range m.byte l.byte :: (← pieces n r)
      else return .byte m.byte :: (← pieces n (k :: l :: r))
  | _ + 1, ms => .ok (ms.map fun m => .byte m.byte)

def ofText (s : String) : Except Fault (List Piece) × List String :=
  let bs := bytesOf s
  let (ms, warnings) := marks (bs.length + 1) bs
  (pieces (ms.length + 1) ms, warnings)

namespace Piece

def bytes (room : Nat) : Piece → Bytes
  | byte b | same b => [b]
  | range a b => ByteSet.range a b
  | cls n => ByteSet.ofClass n
  | repeated b n => List.replicate n b
  | fill b => List.replicate room b

def isClass : Piece → Bool
  | cls _ => true
  | _ => false

def isCase : Piece → Bool
  | cls n => n = "upper" || n = "lower"
  | _ => false

def isFill : Piece → Bool
  | fill _ => true
  | _ => false

def isSame : Piece → Bool
  | same _ => true
  | _ => false

def caseStarts (room : Nat) (p : Piece) : List Bool :=
  match p.bytes room with
  | [] => []
  | _ :: r => p.isCase :: r.map fun _ => false

end Piece

def expanded (size : Nat) (ps : List Piece) : Bytes :=
  let room := size - (ps.flatMap (·.bytes 0)).length
  ps.flatMap (·.bytes room)

def isMisaligned (size : Nat) (ps qs : List Piece) : Bool :=
  let room := size - (qs.flatMap (·.bytes 0)).length
  ((qs.flatMap (·.caseStarts room)).zipIdx).any fun (starts, i) =>
    starts && (ps.flatMap (·.caseStarts 0))[i]? ≠ some true

structure Request where
  complements : Bool := false
  deletes : Bool := false
  squeezes : Bool := false
  truncates : Bool := false

def complemented (r : Request) (set : Bytes) : Bytes :=
  if r.complements then (ByteSet.range 0 255).filter (!set.contains ·) else set

def targets (r : Request) (ps qs : List Piece) : Except Fault Bytes := do
  let set := complemented r (expanded 0 ps)
  let target := expanded set.length qs
  if qs.any (·.isSame) then throw .equivalenceInTarget
  if qs.any fun q => q.isClass && !q.isCase then throw .classInTarget
  if !r.complements && isMisaligned set.length ps qs then throw .misaligned
  let mut full := target
  if target.length < set.length && !r.truncates then
    if target.isEmpty then throw .emptyTarget
    if qs.getLast?.any (·.isClass) then throw .endsWithClass
    full := target ++ List.replicate (set.length - target.length) (target.getLastD 0)
  let isUniform := full.length = set.length && full.all (some · == full.head?)
  if r.complements && ps.any (·.isClass) && !isUniform then throw .manyTargets
  return full

def exchange (table : List (UInt8 × UInt8)) (b : UInt8) : UInt8 :=
  ((table.find? (·.1 = b)).map (·.2)).getD b

def squeezed (set : Bytes) : Bytes → Bytes
  | a :: b :: r =>
    if a = b && set.contains a then squeezed set (b :: r) else a :: squeezed set (b :: r)
  | bs => bs

def applied (r : Request) (ps : List Piece) (qs? : Option (List Piece)) (text : Bytes) :
    Except Fault Bytes := do
  if ps.any (·.isFill) then throw .fillInFirst
  let set := complemented r (expanded 0 ps)
  match qs? with
  | none =>
    return if r.deletes then text.filter (!set.contains ·) else squeezed set text
  | some qs =>
    if 1 < qs.countP (·.isFill) then throw .fillTwice
    if r.deletes then
      if qs.any (·.isFill) then throw .fillWithoutTarget
      return squeezed (expanded 0 qs) (text.filter (!set.contains ·))
    else
      let target ← targets r ps qs
      -- Of several targets for one character the last counts.
      let table := (set.zip target).reverse
      let changed := text.map (exchange table)
      return if r.squeezes then squeezed target changed else changed

end Characters

def misuseWith (c : Call) (complaint remark : String) : Result :=
  let r := failing c 1 complaint
  { r with complaints := r.complaints ++ [remark, advice c] }

def exchanged (c : Call) (r : Characters.Request) (s : String) (t? : Option String) : Result :=
  let (ps, warnings) := Characters.ofText s
  let (qs?, more) : Except Characters.Fault (Option (List Characters.Piece)) × List String :=
    match t? with
    | none => (.ok none, [])
    | some t =>
      let (qs, more) := Characters.ofText t
      (qs.map some, more)
  let warned (ws : List String) : Result :=
    ws.foldl (fun r w => complain c r 0 w) (unchanged c)
  match ps with
  | .error f => complain c (warned warnings) 1 f.message
  | .ok ps =>
    let result := qs?.bind fun qs? => Characters.applied r ps qs? c.input
    let before := warned (warnings ++ more)
    match result with
    | .ok out => { before with out }
    | .error f => complain c before 1 f.message

def tr (c : Call) : Result :=
  reading <| withArguments ['d', 's', 'c', 'C', 't'] [] c fun a =>
    let r : Characters.Request := {
      complements := a.has 'c' || a.has 'C'
      deletes := a.has 'd'
      squeezes := a.has 's'
      truncates := a.has 't' }
    match a.operands with
    | [] => missingOperand c
    | [s] =>
      if r.deletes != r.squeezes then exchanged c r s none
      else misuseWith c ("missing operand after " ++ quoted s)
        (if r.squeezes then
          "Two strings must be given when both deleting and squeezing repeats."
        else "Two strings must be given when translating.")
    | s :: t :: rest =>
      if r.deletes && !r.squeezes then
        if rest.isEmpty then misuseWith c ("extra operand " ++ quoted t)
          "Only one string may be given when deleting without squeezing repeats."
        else extraOperand c t
      else match rest with
      | [] => exchanged c r s (some t)
      | extra :: _ => extraOperand c extra

end Freshen.Shell.Utility
