import Freshen.Shell.Checksum.Block
import Freshen.Shell.Utility.Text
/-! Bytes as numbers in columns. Every line of the text shows a block, once for each way of showing
it, and the places of the ways stand below each other. -/

namespace Freshen.Shell.Utility

inductive DumpKind
  | signed
  | unsigned
  | octal
  | hexadecimal
  | character
  | named
  deriving DecidableEq, Repr

structure DumpStyle where
  kind : DumpKind
  size : Nat
  hasTrailer : Bool := false

namespace DumpStyle

def widthOf (widths : List Nat) (size : Nat) : Nat := widths.getD size 0

def width (s : DumpStyle) : Nat :=
  match s.kind with
  | .signed => widthOf [1, 4, 6, 8, 11, 13, 16, 18, 20] s.size
  | .unsigned => widthOf [0, 3, 5, 8, 10, 13, 15, 17, 20] s.size
  | .octal => widthOf [0, 3, 6, 8, 11, 14, 16, 19, 22] s.size
  | .hexadecimal => 2 * s.size
  | .character | .named => 3

def filled (width base n : Nat) : String :=
  let ds := Nat.toDigits base n
  String.ofList (List.replicate (width - ds.length) '0' ++ ds)

def names : List String :=
  ["nul", "soh", "stx", "etx", "eot", "enq", "ack", "bel", "bs", "ht", "nl", "vt", "ff", "cr", "so",
    "si", "dle", "dc1", "dc2", "dc3", "dc4", "nak", "syn", "etb", "can", "em", "sub", "esc", "fs",
    "gs", "rs", "us", "sp"]

def characterText (n : Nat) : String :=
  match n with
  | 0 => "\\0"
  | 7 => "\\a"
  | 8 => "\\b"
  | 9 => "\\t"
  | 10 => "\\n"
  | 11 => "\\v"
  | 12 => "\\f"
  | 13 => "\\r"
  | n => if 32 ≤ n && n < 127 then (Char.ofNat n).toString else filled 3 8 n

def nameText (n : Nat) : String :=
  let n := n % 128
  if n = 127 then "del" else names.getD n (Char.ofNat n).toString

def field (s : DumpStyle) (isBigEndian : Bool) (bs : Bytes) : String :=
  let n := if isBigEndian then Checksum.ofHighFirst bs else Checksum.ofLowFirst bs
  match s.kind with
  | .signed =>
    let top := Nat.pow 2 (8 * s.size)
    if top ≤ 2 * n then s!"-{top - n}" else toString n
  | .unsigned => toString n
  | .octal => filled s.width 8 n
  | .hexadecimal => filled s.width 16 n
  | .character => characterText n
  | .named => nameText n

end DumpStyle

inductive DumpFault
  | letter (c : Char) (text : String)
  | size (digits text : String)
  deriving DecidableEq, Repr

def DumpFault.message : DumpFault → String
  | letter c t => s!"invalid character {quoted c.toString} in type string {quoted t}"
  | size n t =>
    s!"invalid type string {quoted t};\nthis system doesn't provide a {n}-byte integral type"

def dumpSize (text : String) : List Char → Except DumpFault (Nat × List Char)
  | 'C' :: cs => .ok (1, cs)
  | 'S' :: cs => .ok (2, cs)
  | 'I' :: cs => .ok (4, cs)
  | 'L' :: cs => .ok (8, cs)
  | cs =>
    let ds := cs.takeWhile Char.isDigit
    match (String.ofList ds).toNat? with
    | none => .ok (4, cs)
    | some n =>
      if [1, 2, 4, 8].contains n then .ok (n, cs.drop ds.length)
      else .error (.size (String.ofList ds) text)

def dumpStylesWithin (text : String) : Nat → List Char → Except DumpFault (List DumpStyle)
  | 0, _ | _, [] => .ok []
  | n + 1, c :: cs => do
    let (kind, size, rest) ← match c with
      | 'a' => .ok (.named, 1, cs)
      | 'c' => .ok (.character, 1, cs)
      | 'd' => (dumpSize text cs).map fun p => (.signed, p)
      | 'u' => (dumpSize text cs).map fun p => (.unsigned, p)
      | 'o' => (dumpSize text cs).map fun p => (.octal, p)
      | 'x' => (dumpSize text cs).map fun p => (.hexadecimal, p)
      | c => .error (.letter c text)
    let hasTrailer := rest.head? = some 'z'
    let more ← dumpStylesWithin text n (if hasTrailer then rest.drop 1 else rest)
    return { kind, size, hasTrailer } :: more

def dumpStyles (text : String) : Except DumpFault (List DumpStyle) :=
  dumpStylesWithin text (text.length + 1) text.toList

def dumpShort : Char → Option String
  | 'a' => some "a"
  | 'b' => some "o1"
  | 'c' => some "c"
  | 'd' => some "u2"
  | 'o' | 'B' => some "o2"
  | 'x' | 'h' => some "x2"
  | 'X' | 'H' => some "x4"
  | 'i' => some "dI"
  | 'I' | 'l' | 'L' => some "dL"
  | 'O' => some "o4"
  | 's' => some "d2"
  | 'D' => some "u4"
  | _ => none

inductive DumpAddress
  | octal
  | decimal
  | hexadecimal
  | absent
  deriving DecidableEq, Repr

namespace DumpAddress

def ofText? (text : String) : Option DumpAddress :=
  match text.toList.head? with
  | some 'o' => some octal
  | some 'd' => some decimal
  | some 'x' => some hexadecimal
  | some 'n' => some absent
  | _ => none

def text (n : Nat) : DumpAddress → String
  | octal => DumpStyle.filled 7 8 n
  | decimal => DumpStyle.filled 7 10 n
  | hexadecimal => DumpStyle.filled 6 16 n
  | absent => ""

end DumpAddress

structure Dump where
  styles : List DumpStyle
  address : DumpAddress := .octal
  showsAll : Bool := false
  isBigEndian : Bool := false
  block : Nat := 16

namespace Dump

def largest (ns : List Nat) : Nat := ns.foldl max 1

def unitSize (styles : List DumpStyle) : Nat := largest (styles.map (·.size))

def lineWidth (k : Dump) : Nat :=
  largest (k.styles.map fun s => (s.width + 1) * (k.block / s.size))

def row (k : Dump) (s : DumpStyle) (bs : Bytes) : String :=
  let fields := k.block / s.size
  let blank := (k.block - bs.length) / s.size
  let spare := k.lineWidth - s.width * fields
  let before (i : Nat) : Nat := spare * i / fields
  let count := fields - blank
  let whole := bs ++ List.replicate (s.size * count - bs.length) 0
  let texts := (Checksum.parts s.size count whole).zipIdx.map fun (part, i) =>
    let i := fields - i
    padLeft (before i - before (i - 1) + s.width) (s.field k.isBigEndian part)
  let trailer := if !s.hasTrailer then "" else
    String.ofList (List.replicate (blank * s.width + spare * blank / fields) ' ') ++ "  >" ++
      String.ofList (bs.map fun b => if 32 ≤ b && b < 127 then Char.ofNat b.toNat else '.') ++ "<"
  String.join texts ++ trailer

def indent (k : Dump) : String :=
  String.ofList (List.replicate (k.address.text 0).length ' ')

def lines (k : Dump) (place : Nat) (bs : Bytes) : List String :=
  k.styles.zipIdx.map fun (s, i) => (if i = 0 then k.address.text place else k.indent) ++ k.row s bs

def blocks (k : Dump) (place : Nat) (last : Option Bytes) (hasStar : Bool) :
    List Bytes → List String
  | [] => if k.address = .absent then [] else [k.address.text place]
  | b :: bs =>
    let next := place + b.length
    if !k.showsAll && last = some b && b.length = k.block then
      (if hasStar then [] else ["*"]) ++ blocks k next last true bs
    else k.lines place b ++ blocks k next (some b) false bs

def text (k : Dump) (place : Nat) (bs : Bytes) : Bytes :=
  let rows := k.blocks place none false (Checksum.parts k.block (bs.length / k.block + 1) bs)
  bytesOf (String.join (rows.map (· ++ "\n")))

end Dump

def dumpNumber? (text : String) : Option Nat :=
  match text.toList with
  | '0' :: 'x' :: cs => if cs.isEmpty then none else ofDigits 16 cs
  | '0' :: c :: cs => if c.isDigit then ofDigits 8 (c :: cs) else scaledNumber? text
  | _ => scaledNumber? text
where
  digitValue (c : Char) : Nat :=
    if c.isDigit then c.toNat - 48 else if 'a' ≤ c && c ≤ 'f' then c.toNat - 87
    else if 'A' ≤ c && c ≤ 'F' then c.toNat - 55 else 16
  ofDigits (base : Nat) (cs : List Char) : Option Nat :=
    cs.foldl (fun n c => n.bind fun n =>
      if digitValue c < base then some (base * n + digitValue c) else none) (some 0)

def dumpOffset? (text : String) : Option Nat :=
  let cs := text.toList
  let cs := if cs.head? = some '+' then cs.drop 1 else cs
  let (cs, factor) := if cs.getLast? = some 'b' then (cs.dropLast, 512) else (cs, 1)
  if cs.isEmpty then none
  else if cs.getLast? = some '.' then (String.ofList cs.dropLast).toNat?.map (· * factor)
  else match cs with
    | '0' :: 'x' :: ds | 'x' :: ds => (dumpNumber?.ofDigits 16 ds).map (· * factor)
    | ds => (dumpNumber?.ofDigits 8 ds).map (· * factor)

def withoutOffset (isOld : Bool) (files : List String) : List String × Option Nat :=
  let mayBe (t : String) : Bool := t.startsWith "+" || (files.length = 2 &&
    (t.toList.head?.any Char.isDigit))
  match files.getLast? with
  | some t =>
    if isOld && files.length ≤ 2 && mayBe t then
      match dumpOffset? t with
      | some n => (files.dropLast, some n)
      | none => (files, none)
    else (files, none)
  | none => (files, none)

def dumpMenu : Arguments.Menu where
  known := ['v']
  valued := ['A', 'j', 'N', 't', '&']
  optional := 'w' :: shortLetters
  long := [("address-radix", 'A'), ("skip-bytes", 'j'), ("read-bytes", 'N'), ("format", 't'),
    ("output-duplicates", 'v'), ("width", 'w'), ("endian", '&')]
where
  shortLetters : List Char :=
    ['a', 'b', 'c', 'd', 'o', 'B', 'x', 'h', 'X', 'H', 'i', 'I', 'l', 'L', 'O', 's', 'D']

def styleWords : List (Char × String) → Except Char (List String)
  | [] => .ok []
  | ('t', t) :: os => (styleWords os).map (t :: ·)
  | (c, more) :: os =>
    match dumpShort c with
    | none => styleWords os
    | some w => do
      let ws ← more.toList.filter (· ≠ 'v') |>.mapM fun c => (dumpShort c).elim (.error c) .ok
      return w :: ws ++ (← styleWords os)

def dumpFault (c : Call) (f : DumpFault) : Result := failing c 1 f.message

def dumpText (c : Call) (k : Dump) (skipped : Nat) (limit : Option Nat) (files : List String) :
    Result :=
  let r := eachFile c files plainFault id
  let isMissing := (inputs c files).all fun e => match e.2 with
    | .ok _ | .error .isDirectory => false
    | .error _ => true
  if isMissing then r
  else if r.out.length < skipped then
    complain c { r with out := [] } 1 "cannot skip past end of combined input"
  else
    let bs := r.out.drop skipped
    let bs := match limit with
      | some n => bs.take n
      | none => bs
    { r with out := k.text skipped bs }

def dumpOption (a : Arguments) (c : Char) : Except String (Option Nat) :=
  match a.value? c with
  | none => .ok none
  | some t =>
    match dumpNumber? t with
    | some n => .ok (some n)
    | none => .error s!"invalid -{c} argument {quoted t}"

def blockSize (c : Call) (unit_ : Nat) (wanted : Option Nat) : Nat × List String :=
  match wanted with
  | none => (if unit_ < 16 then unit_ * (16 / unit_) else unit_, [])
  | some n =>
    if 0 < n && n % unit_ = 0 then (n, [])
    else (unit_, [s!"{c.name}: warning: invalid width {n}; using {unit_} instead"])

def dumpWith (c : Call) (a : Arguments) (words : List String) : Result :=
  let run : Except (Result) Result := do
    let refuse (complaint : String) : Result := failing c 1 complaint
    let address ← match a.value? 'A' with
      | none => .ok .octal
      | some t =>
        match DumpAddress.ofText? t with
        | some k => .ok k
        | none => .error (refuse ("invalid output address radix " ++ quoted t ++
            "; it must be one character from [doxn]"))
    let skipped ← (dumpOption a 'j').mapError refuse
    let limit ← (dumpOption a 'N').mapError refuse
    let isBigEndian ← match a.value? '&' with
      | none | some "little" => .ok false
      | some "big" => .ok true
      | some t => .error (refused c 1 t "--endian" [["little"], ["big"]])
    let styles ← (words.mapM dumpStyles).mapError (dumpFault c)
    let wanted ← if a.value? 'w' = some "" then .ok (some 32)
      else (dumpOption a 'w').mapError refuse
    let styles := match styles.flatten with
      | [] => [{ kind := .octal, size := 2 }]
      | styles => styles
    let isOld := ['A', 'j', 'N', 't', 'w'].all (fun o => (a.value? o).isNone) && !a.has 'v'
    let (files, offset) := withoutOffset isOld a.operands
    let (block, warnings) := blockSize c (Dump.unitSize styles) wanted
    let showsAll := a.has 'v' || a.values.any fun o => o.1 ≠ 't' && o.2.toList.contains 'v'
    let k : Dump := { styles, address, isBigEndian, block, showsAll }
    let r := dumpText c k (offset.getD (skipped.getD 0)) limit files
    return { r with complaints := warnings ++ r.complaints
                    marks := warnings.map (fun _ => 0) ++ r.marks }
  match run with
  | .ok r | .error r => r

def od (c : Call) : Result :=
  match Arguments.parse dumpMenu c.args with
  | .error f => misuse c 1 f.message
  | .ok a =>
    match styleWords a.values.reverse with
    | .error o => misuse c 1 (Arguments.Fault.unknown o).message
    | .ok words => dumpWith c a words

end Freshen.Shell.Utility
