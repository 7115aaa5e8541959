import Freshen.Shell.Checksum.Block
import Freshen.Shell.Utility.Files
import Freshen.Shell.Utility.Text
/-! A file cut into pieces that become files of their own, named one after the other. -/

namespace Freshen.Shell.Utility

structure Suffixes where
  digits : List Char := (List.range 26).map fun i => Char.ofNat (97 + i)
  length : Nat := 2
  grows : Bool := true
  start : Nat := 0
  ending : String := ""

namespace Suffixes

def spell (s : Suffixes) : Nat → Nat → List Char → List Char
  | 0, _, cs => cs
  | k + 1, n, cs =>
    spell s k (n / s.digits.length) (s.digits.getD (n % s.digits.length) '?' :: cs)

def nthWithin (s : Suffixes) : Nat → Nat → Nat → Option (List Char)
  | 0, _, _ => none
  | k + 1, level, n =>
    let base := s.digits.length
    let length := s.length + level
    let lead := List.replicate level (s.digits.getLastD '?')
    let count := if s.grows then (base - 1) * Nat.pow base (length - 1) else Nat.pow base length
    if n < count then some (lead ++ s.spell length n [])
    else if s.grows then nthWithin s k (level + 1) (n - count)
    else none

def nth (s : Suffixes) (first : String) (n : Nat) : Option String :=
  (s.nthWithin 20 0 (s.start + n)).map fun cs => first ++ String.ofList cs ++ s.ending

def lengthFor (base : Nat) : Nat → Nat → Nat
  | 0, _ => 1
  | k + 1, n => if n < base then 1 else lengthFor base k (n / base) + 1

end Suffixes

structure Share where
  count : Nat
  only : Option Nat := none
  deriving DecidableEq, Repr

inductive Division
  | lines (count : Nat)
  | bytes (count : Nat)
  | wholeLines (bytes : Nat)
  | even (share : Share)
  | evenLines (share : Share)
  | dealt (share : Share)
  deriving DecidableEq, Repr

namespace Division

def filled (size : Nat) (held : Bytes) : List Bytes → List Bytes
  | [] => if held.isEmpty then [] else [held]
  | l :: ls =>
    if held.length + l.length ≤ size then filled size (held ++ l) ls
    else
      let before := if held.isEmpty then [] else [held]
      let cuts := Checksum.parts size (l.length / size + 1) l
      before ++ cuts.dropLast ++ filled size (cuts.getLastD []) ls

def ends (length count : Nat) : List Nat :=
  (List.range count).map fun i => (i + 1) * (length / count) + min (i + 1) (length % count)

def between (bs : Bytes) (start : Nat) : List Nat → List Bytes
  | [] => []
  | e :: es => (bs.drop start).take (e - start) :: between bs e es

def gathered (place : Nat) (ls : List Bytes) : List Nat → List Bytes
  | [] => []
  | e :: es =>
    let (mine, next) := takeBefore e place ls
    mine.flatten :: gathered next (ls.drop mine.length) es
where
  takeBefore (e place : Nat) : List Bytes → List Bytes × Nat
    | [] => ([], place)
    | l :: ls =>
      if place < e then
        let (more, next) := takeBefore e (place + l.length) ls
        (l :: more, next)
      else ([], place)

def share? : Division → Option Share
  | even s | evenLines s | dealt s => some s
  | _ => none

def pieces (mark : UInt8) (bs : Bytes) : Division → List Bytes
  | lines n => (Checksum.parts n (bs.length + 1) (fullRows mark bs)).map List.flatten
  | bytes n => Checksum.parts n (bs.length / n + 1) bs
  | wholeLines n => filled n [] (fullRows mark bs)
  | even s => between bs 0 (ends bs.length s.count)
  | evenLines s => gathered 0 (fullRows mark bs) (ends bs.length s.count)
  | dealt s => (List.range s.count).map fun i =>
    ((fullRows mark bs).zipIdx.filter fun l => l.2 % s.count = i).flatMap (·.1)

end Division

def positive? (isScaled : Bool) (text : String) : Option Nat :=
  ((if isScaled then scaledNumber? text else text.toNat?).filter (0 < ·))

def shareOf (text : String) (make : Share → Division) (parts : List String) :
    Except String Division :=
  match parts with
  | [n] =>
    match positive? true n with
    | some n => .ok (make { count := n })
    | none => .error s!"invalid number of chunks: {quoted text}"
  | [k, n] =>
    match positive? true n, positive? true k with
    | none, _ => .error s!"invalid number of chunks: {quoted n}"
    | some n, some k =>
      if k ≤ n then .ok (make { count := n, only := some k })
      else .error s!"invalid chunk number: {quoted (toString k)}"
    | some _, none => .error s!"invalid chunk number: {quoted k}"
  | _ => .error s!"invalid number of chunks: {quoted text}"

def divisionOf (option : Char) (text : String) : Except String Division :=
  let counted (isScaled : Bool) (what : String) (make : Nat → Division) : Except String Division :=
    match positive? isScaled text with
    | some n => .ok (make n)
    | none => .error s!"invalid number of {what}: {quoted text}"
  match option with
  | 'l' => counted false "lines" .lines
  | 'b' => counted true "bytes" .bytes
  | 'C' => counted true "lines" .wholeLines
  | _ =>
    match text.splitOn "/" with
    | "l" :: ps => shareOf text .evenLines ps
    | "r" :: ps => shareOf text .dealt ps
    | ps => shareOf text .even ps

def division (c : Call) (a : Arguments) : Except Result Division :=
  match a.values.reverse.filter fun v => ['l', 'b', 'C', 'n'].contains v.1 with
  | [] => .ok (.lines 1000)
  | [(o, t)] =>
    match divisionOf o t with
    | .ok d => .ok d
    | .error complaint => .error (failing c 1 complaint)
  | (o, t) :: _ =>
    match divisionOf o t with
    | .ok _ => .error (misuse c 1 "cannot split in more than one way")
    | .error complaint => .error (failing c 1 complaint)

def decimals : List Char := "0123456789".toList

def hexDigits : List Char := "0123456789abcdef".toList

def suffixes (c : Call) (a : Arguments) (share : Option Share) : Except Result Suffixes := do
  let s : Suffixes := {}
  let s ← match a.values.find? fun v => v.1 = '#' || v.1 = '&' with
    | none =>
      match a.lastOf ['d', 'x'] with
      | some 'd' => .ok { s with digits := decimals }
      | some _ => .ok { s with digits := hexDigits }
      | none => .ok s
    | some (o, t) =>
      let (digits, kind) := if o = '#' then (decimals, "numerical") else (hexDigits, "hexadecimal")
      if t = "" then .ok { s with digits }
      else match t.toNat? with
        | some n => .ok { s with digits, start := n, grows := false }
        | none => .error (misuse c 1 s!"{quoted t}: invalid start value for {kind} suffix")
  let s := { s with ending := (a.value? '+').getD "" }
  if s.ending.toList.contains '/' then
    .error (misuse c 1 s!"invalid suffix {quoted s.ending}, contains directory separator")
  let wanted ← match a.value? 'a' with
    | none => .ok 0
    | some t =>
      match t.toNat? with
      | some n => .ok n
      | none => .error (failing c 1 s!"invalid suffix length: {quoted t}")
  let needed := match share with
    | some share =>
      Suffixes.lengthFor s.digits.length share.count (s.start + share.count - 1)
    | none => 1
  if wanted = 0 then return { s with length := max 2 needed, grows := s.grows && share.isNone }
  else if wanted < needed then
    .error (failing c 1 s!"the suffix length needs to be at least {needed}")
  else return { s with length := wanted, grows := false }

def writePieces (c : Call) (talks : Bool) (source first : String) (s : Suffixes) :
    Nat → Result → List Bytes → Result
  | _, r, [] => r
  | n, r, p :: ps =>
    match s.nth first n with
    | none => complain c r 1 "output file suffixes exhausted"
    | some name =>
      if source ≠ "-" && r.disk.exists_ ⟨name⟩ && sameFile r.disk ⟨source⟩ ⟨name⟩ then
        complain c r 1 s!"{quoted name} would overwrite input; aborting"
      else
        let r := tell r talks s!"creating file {quoted name}"
        match write r.disk name p with
        | .error e => complain c r 1 (plainFault name e)
        | .ok disk => writePieces c talks source first s (n + 1) { r with disk } ps

def splitFile (c : Call) (a : Arguments) (d : Division) (s : Suffixes) (mark : UInt8)
    (source first : String) : Result :=
  match contents c source with
  | .error .isDirectory => failing c 1 (plainFault source .isDirectory)
  | .error e => failing c 1 s!"cannot open {quoted source} for reading: {e.text}"
  | .ok bs =>
    let pieces := d.pieces mark bs
    let r : Result := { disk := c.disk, tookInput := source = "-" }
    match d.share?.bind (·.only) with
    | some k => { r with out := pieces.getD (k - 1) [] }
    | none =>
      let pieces := if a.has 'e' then pieces.filter (!·.isEmpty) else pieces
      writePieces c (a.has '!') source first s 0 r pieces

def separator (c : Call) (a : Arguments) : Except Result UInt8 :=
  match a.value? 't' with
  | none => .ok 10
  | some "\\0" => .ok 0
  | some t =>
    match bytesOf t with
    | [b] => .ok b
    | [] => .error (failing c 1 "empty record separator")
    | _ => .error (failing c 1 s!"multi-character separator {quoted t}")

def splitMenu (name : String) : Arguments.Menu where
  known := ['d', 'x', 'e', 'u', '!']
  valued := ['l', 'b', 'C', 'n', 'a', 't', '+']
  optional := ['#', '&']
  long := longNames name

def withLines : List String → List String
  | [] => []
  | [w] => [withLine w]
  | w :: v :: ws =>
    if ["-l", "-b", "-C", "-n", "-a", "-t"].contains w then w :: v :: withLines ws
    else withLine w :: withLines (v :: ws)
where
  withLine (w : String) : String := match w.toList with
    | '-' :: c :: cs => if c.isDigit then String.ofList ('-' :: 'l' :: c :: cs) else w
    | _ => w

def split (c : Call) : Result :=
  match Arguments.parse (splitMenu c.name) (withLines c.args) with
  | .error f => misuse c 1 f.message
  | .ok a =>
    let run : Except Result Result := do
      let d ← division c a
      let mark ← separator c a
      let s ← suffixes c a d.share?
      match a.operands with
      | _ :: _ :: extra :: _ => .error (extraOperand c extra)
      | files =>
        return splitFile c a d s mark (files.headD "-") ((files.drop 1).headD "x")
    match run with
    | .ok r | .error r => r

end Freshen.Shell.Utility
