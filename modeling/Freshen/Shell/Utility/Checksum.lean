import Freshen.Shell.Checksum.Blake2
import Freshen.Shell.Checksum.Md5
import Freshen.Shell.Checksum.Plain
import Freshen.Shell.Checksum.Sha1
import Freshen.Shell.Utility.Basic
/-! Programs that print checksums, and that compare files with checksums that were printed. -/

namespace Freshen.Shell.Utility

structure SumKind where
  name : String
  length : Nat
  sum : Bytes → Bytes

namespace SumKind

open Checksum

def md5 : SumKind := ⟨"MD5", 16, Md5.sum⟩
def sha1 : SumKind := ⟨"SHA1", 20, Sha1.sum⟩
def sha224 : SumKind := ⟨"SHA224", 28, Sha2.sum Sha2.sha224⟩
def sha256 : SumKind := ⟨"SHA256", 32, Sha2.sum Sha2.sha256⟩
def sha384 : SumKind := ⟨"SHA384", 48, Sha2.sum Sha2.sha384⟩
def sha512 : SumKind := ⟨"SHA512", 64, Sha2.sum Sha2.sha512⟩

def blake2 (length : Nat) : SumKind where
  name := if length = 64 then "BLAKE2b" else s!"BLAKE2b-{8 * length}"
  length
  sum := Blake2.sum length

def named : List SumKind := [md5, sha1, sha224, sha256, sha384, sha512, blake2 64]

end SumKind

def isDelicate (file : String) : Bool := file.toList.any fun c => c = '\\' || c = '\n' || c = '\r'

def escapedName (file : String) : String :=
  String.join (file.toList.map fun c => match c with
    | '\\' => "\\\\"
    | '\n' => "\\n"
    | '\r' => "\\r"
    | c => c.toString)

def unescapedName : List Char → Option (List Char)
  | [] => some []
  | '\\' :: '\\' :: r => (unescapedName r).map ('\\' :: ·)
  | '\\' :: 'n' :: r => (unescapedName r).map ('\n' :: ·)
  | '\\' :: 'r' :: r => (unescapedName r).map ('\r' :: ·)
  | '\\' :: _ => none
  | c :: r => (unescapedName r).map (c :: ·)

structure SumEntry where
  kind : SumKind
  sum : String
  file : String

inductive Spacing
  | narrow
  | wide
  deriving DecidableEq, Repr

namespace SumEntry

def isWhite (c : Char) : Bool := c = ' ' || c = '\t'

def isHexDigit (c : Char) : Bool :=
  c.isDigit || ('a' ≤ c && c ≤ 'f') || ('A' ≤ c && c ≤ 'F')

def digits? (k : SumKind) (cs : List Char) : Option String :=
  if cs.length = 2 * k.length && cs.all isHexDigit then some (String.ofList (cs.map Char.toLower))
  else none

def nameOf? (isEscaped : Bool) (cs : List Char) : Option String :=
  (if isEscaped then unescapedName cs else some cs).map String.ofList

def ofTagged? (k : SumKind) (isEscaped : Bool) (cs : List Char) : Option SumEntry :=
  match (if cs.head? = some ' ' then cs.drop 1 else cs) with
  | '(' :: cs => do
    let backwards := cs.reverse
    let after := (backwards.takeWhile (· ≠ ')')).reverse
    let file ← nameOf? isEscaped (backwards.drop (after.length + 1)).reverse
    match after.dropWhile isWhite with
    | '=' :: r =>
      let sum ← digits? k (r.dropWhile isWhite)
      if after.length < cs.length then some ⟨k, sum, file⟩ else none
    | _ => none
  | _ => none

def ofUntagged? (k : SumKind) (spacing : Option Spacing) (isEscaped : Bool) (cs : List Char) :
    Option (SumEntry × Option Spacing) := do
  let size := 2 * k.length
  if cs.length < size + 2 then none
  else
    let sum ← digits? k (cs.take size)
    match cs.drop size with
    | c :: rest =>
      let isNarrow := rest.length = 1 || !(rest.head? = some ' ' || rest.head? = some '*')
      if !isWhite c || (isNarrow && spacing = some .wide) then none
      else if isNarrow || spacing = some .narrow then
        let file ← nameOf? isEscaped rest
        some (⟨k, sum, file⟩, some .narrow)
      else
        let file ← nameOf? isEscaped (rest.drop 1)
        some (⟨k, sum, file⟩, some .wide)
    | [] => none

def ofLine? (kinds : List SumKind) (spacing : Option Spacing) (line : List Char) :
    Option (SumEntry × Option Spacing) :=
  let cs := line.dropWhile isWhite
  let isEscaped := cs.head? = some '\\'
  let cs := if isEscaped then cs.drop 1 else cs
  match kinds.filter fun k => k.name.toList.isPrefixOf cs with
  | [] =>
    match kinds with
    | [k] => ofUntagged? k spacing isEscaped cs
    | _ => none
  | ks => ks.findSome? fun k =>
    (ofTagged? k isEscaped (cs.drop k.name.length)).map fun e => (e, spacing)

end SumEntry

inductive Talk
  | all
  | warnings
  | failures
  | nothing
  deriving DecidableEq, Repr

structure Verification where
  kinds : List SumKind
  talk : Talk := .all
  isStrict : Bool := false
  ignoresMissing : Bool := false

structure Tally where
  result : Result
  spacing : Option Spacing
  isGood : Bool := true
  line : Nat := 0
  entries : Nat := 0
  matching : Nat := 0
  malformed : Nat := 0
  unreadable : Nat := 0
  differing : Nat := 0

namespace Tally

def reports (t : Tally) (file verdict : String) : Tally :=
  let text := if isDelicate file then "\\" ++ escapedName file else file
  { t with result.out := t.result.out ++ bytesOf s!"{text}: {verdict}\n" }

def complains (t : Tally) (c : Call) (complaint : String) : Tally :=
  { t with result := complain c t.result t.result.status complaint }

def compare (c : Call) (m : Verification) (t : Tally) (e : SumEntry) : Tally :=
  let t := { t with entries := t.entries + 1 }
  match contents c e.file with
  | .error x =>
    if m.ignoresMissing && x = .notFound then t
    else
      let t := { t with unreadable := t.unreadable + 1 }.complains c (plainFault e.file x)
      if m.talk = .nothing then t else t.reports e.file "FAILED open or read"
  | .ok bs =>
    if Checksum.shown (e.kind.sum bs) = e.sum then
      let t := { t with matching := t.matching + 1 }
      if m.talk = .nothing || m.talk = .failures then t else t.reports e.file "OK"
    else
      let t := { t with differing := t.differing + 1 }
      if m.talk = .nothing then t else t.reports e.file "FAILED"

def bare (line : Bytes) : Bytes :=
  let line := if line.getLast? = some 10 then line.dropLast else line
  if line.getLast? = some 13 then line.dropLast else line

def readLine (c : Call) (m : Verification) (list : String) (t : Tally) (line : Bytes) : Tally :=
  let t := { t with line := t.line + 1 }
  let text := (Text.Utf8.lenient ⟨(bare line).toArray⟩).toList
  if line.head? = some 35 || text.isEmpty then t
  else match SumEntry.ofLine? m.kinds t.spacing text with
    | some (e, spacing) =>
      if list = "-" && e.file = "-" then { t with malformed := t.malformed + 1 }
      else { t with spacing }.compare c m e
    | none =>
      let t := { t with malformed := t.malformed + 1 }
      if m.talk = .warnings then
        let kind := match m.kinds with
          | [k] => k.name
          | _ => "CRC"
        t.complains c
          s!"{shown (titleOf list)}: {t.line}: improperly formatted {kind} checksum line"
      else t
where
  titleOf (list : String) : String := if list = "-" then "standard input" else list

def warns (t : Tally) (c : Call) (n : Nat) (one many : String) : Tally :=
  if n = 0 then t else t.complains c s!"WARNING: {n} {if n = 1 then one else many}"

def close (c : Call) (m : Verification) (list : String) (t : Tally) : Tally :=
  let title := shown (readLine.titleOf list)
  if t.entries = 0 then
    { t with isGood := false }.complains c s!"{title}: no properly formatted checksum lines found"
  else
    let said := if m.talk = .nothing then t else
      let said := t.warns c t.malformed "line is improperly formatted"
        "lines are improperly formatted"
      let said := said.warns c t.unreadable "listed file could not be read"
        "listed files could not be read"
      let said := said.warns c t.differing "computed checksum did NOT match"
        "computed checksums did NOT match"
      if m.ignoresMissing && t.matching = 0 then said.complains c s!"{title}: no file was verified"
      else said
    let isGood := t.differing = 0 && t.unreadable = 0 && (t.malformed = 0 || !m.isStrict) &&
      !(m.ignoresMissing && t.matching = 0)
    { said with isGood := t.isGood && isGood }

def readList (c : Call) (m : Verification) (t : Tally) (list : String) : Tally :=
  match contents c list with
  | .error e =>
    let complaint := if e = .isDirectory then s!"{shown list}: read error" else plainFault list e
    { t with isGood := false }.complains c complaint
  | .ok bs =>
    let start : Tally := { result := t.result, spacing := t.spacing, isGood := t.isGood }
    ((fullLines bs).foldl (readLine c m list) start).close c m list

end Tally

def compareSums (c : Call) (m : Verification) (lists : List String) : Result :=
  let start : Tally :=
    { result := { disk := c.disk, tookInput := readsInput lists, isDirect := true }
      spacing := none }
  let t := (if lists.isEmpty then ["-"] else lists).foldl (Tally.readList c m) start
  { t.result with status := if t.isGood then 0 else 1 }

structure SumLayout where
  isTagged : Bool := false
  isBinary : Bool := false
  mark : UInt8 := 10

def SumLayout.line (l : SumLayout) (k : SumKind) (file sum : String) : Bytes :=
  let isEscaped := l.mark = 10 && isDelicate file
  let name := if isEscaped then escapedName file else file
  let text := if l.isTagged then s!"{k.name} ({name}) = {sum}"
    else sum ++ (if l.isBinary then " *" else "  ") ++ name
  bytesOf ((if isEscaped then "\\" else "") ++ text) ++ [l.mark]

def eachOnce (c : Call) (files : List String) (line : String → Bytes → Bytes) : Result :=
  let start : Result := { disk := c.disk, tookInput := readsInput files, isDirect := true }
  ((if files.isEmpty then ["-"] else files).foldl (fun (r, c) f =>
    let rest := if f = "-" then { c with input := [] } else c
    match contents c f with
    | .ok bs => ({ r with out := r.out ++ line f bs }, rest)
    | .error e => (complain c r 1 (plainFault f e), rest)) (start, c)).1

def printSums (c : Call) (k : SumKind) (l : SumLayout) (files : List String) : Result :=
  eachOnce c files fun f bs => l.line k f (Checksum.shown (k.sum bs))

def Verification.ofArguments (a : Arguments) (kinds : List SumKind) : Verification where
  kinds
  talk := match a.lastOf ['w', '|', '%'] with
    | some 'w' => .warnings
    | some '|' => .failures
    | some '%' => .nothing
    | _ => .all
  isStrict := a.has '!'
  ignoresMissing := a.has '~'

def idle? (m : Verification) : Option String :=
  if m.ignoresMissing then some "ignore-missing"
  else match m.talk, m.isStrict with
    | .nothing, _ => some "status"
    | .warnings, _ => some "warn"
    | .failures, _ => some "quiet"
    | .all, true => some "strict"
    | .all, false => none

def sumConflict? (a : Arguments) (m : Verification) : Option String :=
  let compares := a.has 'c'
  if a.lastOf ['b', 't', '>'] = some 't' && a.has '>' then
    some "--tag does not support --text mode"
  else if compares && a.has 'z' then
    some "the --zero option is not supported when verifying checksums"
  else if compares && a.has '>' then
    some "the --tag option is meaningless when verifying checksums"
  else if compares && (a.has 'b' || a.has 't') then
    some "the --binary and --text options are meaningless when verifying checksums"
  else if compares then none
  else (idle? m).map fun o => s!"the --{o} option is meaningful only when verifying checksums"

def sumsOf (k : SumKind) (a : Arguments) (c : Call) : Result :=
  let m := Verification.ofArguments a [k]
  match sumConflict? a m with
  | some complaint => misuse c 1 complaint
  | none =>
    if a.has 'c' then compareSums c m a.operands
    else
      let isBinary := (a.lastOf ['b', 't', '>']).any (· ≠ 't')
      printSums c k ⟨a.has '>', isBinary, a.mark⟩ a.operands

def sumLetters : List Char := ['b', 'c', 't', 'w', 'z', '|', '%', '!', '~', '>']

def sums (k : SumKind) (c : Call) : Result := withArguments sumLetters [] c (sumsOf k · c)

def blakeSums (c : Call) : Result :=
  withArguments sumLetters ['l'] c fun a =>
    match a.value? 'l' with
    | none => sumsOf (.blake2 64) a c
    | some t =>
      let invalid : Result := failing c 1 s!"invalid length: {quoted t}"
      match t.toNat? with
      | none => invalid
      | some n =>
        if 512 < n then
          complain c invalid 1 "maximum digest length for 'BLAKE2b' is 512 bits"
        else if n % 8 ≠ 0 then complain c invalid 1 "length is not a multiple of 8"
        else sumsOf (.blake2 (if n = 0 then 64 else n / 8)) a c

def plainSums (c : Call) (files : List String) (text : Bytes → String) : Result :=
  eachOnce c files fun f bs => bytesOf (text bs ++ (if files.isEmpty then "" else " " ++ f) ++ "\n")

def blockCount (size length : Nat) : Nat := (length + size - 1) / size

def turningText (bs : Bytes) : String :=
  let s := toString (Checksum.Plain.turning bs)
  String.ofList (List.replicate (5 - s.length) '0') ++ s ++ " " ++
    padLeft 5 (toString (blockCount 1024 bs.length))

def addingText (bs : Bytes) : String :=
  s!"{Checksum.Plain.adding bs} {blockCount 512 bs.length}"

def remainderText (bs : Bytes) : String := s!"{Checksum.Plain.remainder bs} {bs.length}"

def sum (c : Call) : Result :=
  withArguments ['r', 's'] [] c fun a =>
    plainSums c a.operands (if a.lastOf ['r', 's'] = some 's' then addingText else turningText)

def sumAlgorithms : List (String × Option SumKind) :=
  [("bsd", none), ("sysv", none), ("crc", none), ("md5", some .md5), ("sha1", some .sha1),
    ("sha224", some .sha224), ("sha256", some .sha256), ("sha384", some .sha384),
    ("sha512", some .sha512), ("blake2b", some (.blake2 64)), ("sm3", none)]

def cksum (c : Call) : Result :=
  withArguments (sumLetters ++ ['^', '=']) ['a'] c fun a =>
    match a.value? 'a' with
    | none =>
      if a.has 'c' then compareSums c (.ofArguments a SumKind.named) a.operands
      else plainSums c a.operands remainderText
    | some name =>
      match sumAlgorithms.find? (·.1 = name) with
      | some (_, some k) =>
        if a.has 'c' then compareSums c (.ofArguments a [k]) a.operands
        else printSums c k ⟨!a.has '=', false, a.mark⟩ a.operands
      | some ("bsd", _) => plainSums c a.operands turningText
      | some ("sysv", _) => plainSums c a.operands addingText
      | some _ => plainSums c a.operands remainderText
      | none => refused c 1 name "--algorithm" (sumAlgorithms.map fun e => [e.1])

end Freshen.Shell.Utility
