import Freshen.Shell.ByteSet
import Freshen.Shell.Utility.Basic
/-! Programs that pass text on: all of it, its beginning or end, backwards, or how much it is. -/

namespace Freshen.Shell.Utility

structure Display where
  numbersAll : Bool := false
  numbersFull : Bool := false
  squeezes : Bool := false
  marksEnds : Bool := false
  marksTabs : Bool := false
  marksOthers : Bool := false

namespace Display

def ofArguments (a : Arguments) : Display where
  numbersFull := a.has 'b'
  numbersAll := a.has 'n' && !a.has 'b'
  squeezes := a.has 's'
  marksEnds := a.has 'E' || a.has 'e' || a.has 'A'
  marksTabs := a.has 'T' || a.has 't' || a.has 'A'
  marksOthers := a.has 'v' || a.has 'e' || a.has 't' || a.has 'A'

def isPlain (d : Display) : Bool :=
  !(d.numbersAll || d.numbersFull || d.squeezes || d.marksEnds || d.marksTabs || d.marksOthers)

def lowByte (d : Display) (b : UInt8) : Bytes :=
  if b = 9 then if d.marksTabs then [94, 73] else [9]
  else if b < 32 then [94, b + 64]
  else if b = 127 then [94, 63]
  else [b]

def byte (d : Display) (b : UInt8) : Bytes :=
  if !d.marksOthers then if b = 9 && d.marksTabs then [94, 73] else [b]
  else if b < 128 then d.lowByte b
  else
    let low := b - 128
    [77, 45] ++ if low < 32 then [94, low + 64] else if low = 127 then [94, 63] else [low]

def numberText (n : Nat) : Bytes := bytesOf (padLeft 6 (toString n) ++ "\t")

def line (d : Display) (l : Bytes) : Bytes :=
  let isEnded := l.getLast? = some 10
  let text := if isEnded then l.dropLast else l
  let shown := text.flatMap d.byte
  let isReturn := d.marksEnds && !d.marksOthers && isEnded && text.getLast? = some 13
  let shown := if isReturn then shown.dropLast ++ [94, 77] else shown
  shown ++ if !isEnded then [] else if d.marksEnds then [36, 10] else [10]

def lines (d : Display) (n : Nat) (afterEmpty : Bool) : List Bytes → List Bytes
  | [] => []
  | l :: ls =>
    let isEmpty := l = [10]
    if d.squeezes && isEmpty && afterEmpty then lines d n true ls
    else if d.numbersAll || (d.numbersFull && !isEmpty) then
      (numberText (n + 1) ++ d.line l) :: lines d (n + 1) isEmpty ls
    else d.line l :: lines d n isEmpty ls

def text (d : Display) (bs : Bytes) : Bytes :=
  if d.isPlain then bs else (d.lines 0 false (fullLines bs)).flatten

end Display

def isOwnOutput (c : Call) (hasWritten : Bool) (file : String) : Bool :=
  let number? : Option Nat := if file = "-" then c.source else
    match c.disk.find ⟨file⟩ with
    | .ok (_, .file n) => some n
    | _ => none
  match number? with
  | some n => c.output = some n && (hasWritten || 0 < (c.disk.content n).image.size)
  | none => false

def cat (c : Call) : Result :=
  withArguments ['u', 'n', 'b', 's', 'E', 'T', 'A', 'v', 'e', 't'] [] c fun a =>
    let d := Display.ofArguments a
    let r := (inputs c a.operands).foldl (fun (r : Result) e =>
      match e.2 with
      | .ok bs =>
        if isOwnOutput c (!r.out.isEmpty) e.1 then
          complain c r 1 s!"{shown e.1}: input file is output file"
        else { r with out := r.out ++ bs }
      | .error x => complain c r 1 (plainFault e.1 x))
      { disk := c.disk, tookInput := readsInput a.operands, isDirect := d.isPlain }
    { r with out := d.text r.out }

def factor? (letters : String) : Option Nat :=
  match letters with
  | "" => some 1
  | "b" => some 512
  | "kB" | "KB" => some 1000
  | "k" | "K" | "KiB" => some 1024
  | "MB" => some 1000000
  | "M" | "MiB" => some 1048576
  | "GB" => some 1000000000
  | "G" | "GiB" => some 1073741824
  | _ => none

def scaledNumber? (text : String) : Option Nat :=
  let ds := text.toList.takeWhile Char.isDigit
  match (String.ofList ds).toNat?, factor? (String.ofList (text.toList.drop ds.length)) with
  | some n, some k => some (n * k)
  | _, _ => none

def signedCount? (text : String) : Option (Option Char × Nat) :=
  match text.toList with
  | '-' :: ds => (scaledNumber? (String.ofList ds)).map (some '-', ·)
  | '+' :: ds => (scaledNumber? (String.ofList ds)).map (some '+', ·)
  | _ => (scaledNumber? text).map (none, ·)

def withCount : List String → List String
  | [] => []
  | w :: ws =>
    match w.toList with
    | '-' :: cs =>
      let ds := cs.takeWhile Char.isDigit
      let letters := cs.drop ds.length
      if ds.isEmpty then w :: ws
      else
        let unit_ := if letters.contains 'c' then 'c' else 'n'
        let others := letters.filter fun c => c = 'q' || c = 'v' || c = 'z'
        String.ofList ('-' :: others ++ unit_ :: ds) :: ws
    | _ => w :: ws

def withStart : List String → List String
  | w :: ws =>
    match w.toList with
    | '+' :: cs =>
      let ds := cs.takeWhile Char.isDigit
      let letters := String.ofList (cs.drop ds.length)
      if 1 < ws.length || ds.isEmpty then w :: ws
      else if letters = "" || letters = "l" then String.ofList ("-n+".toList ++ ds) :: ws
      else if letters = "c" then String.ofList ("-c+".toList ++ ds) :: ws
      else w :: ws
    | _ => withCount (w :: ws)
  | [] => []

abbrev Excerpt := Option Char × Nat → List Bytes → List Bytes

def beginning : Excerpt
  | (some '-', n), parts => parts.take (parts.length - n)
  | (_, n), parts => parts.take n

def ending : Excerpt
  | (some '+', n), parts => parts.drop (n - 1)
  | (_, n), parts => parts.drop (parts.length - n)

def excerptFault (file : String) : OsError → String
  | .isDirectory => s!"error reading {quoted file}: {OsError.isDirectory.text}"
  | e => s!"cannot open {quoted file} for reading: {e.text}"

def eachSection (c : Call) (named : Bool) (files : List String) (f : Bytes → Bytes) : Result :=
  let headline (r : Result) (file : String) : Bytes :=
    let name := if file = "-" then "standard input" else file
    if named then bytesOf ((if r.out.isEmpty then "" else "\n") ++ "==> " ++ name ++ " <==\n")
    else []
  (inputs c files).foldl (fun r e =>
    match e.2 with
    | .ok bs => { r with out := r.out ++ headline r e.1 ++ f bs }
    | .error .isDirectory =>
      complain c { r with out := r.out ++ headline r e.1 } 1 (excerptFault e.1 .isDirectory)
    | .error x => complain c r 1 (excerptFault e.1 x))
    { disk := c.disk, tookInput := readsInput files }

def zeroDevice : String := "/dev/zero"

def enough? (c : Call) (a : Arguments) (isBeginning : Bool) (n : Option Char × Nat) : Option Nat :=
  if !isBeginning || n.1 = some '-' || (a.operands ≠ [] && a.operands ≠ ["-"]) then none
  else if (a.value? 'c').isSome then if n.2 ≤ c.input.length then some n.2 else none
  else
    if n.2 ≤ c.input.count a.mark then
      some ((fullRows a.mark c.input).take n.2).flatten.length
    else none

def excerptMenu (name : String) : Arguments.Menu where
  known := ['q', 'v', 'z', 'f', 'F']
  valued := ['n', 'c']
  long := longNames name

def excerpt (show_ : Excerpt) (isBeginning : Bool) (c : Call) : Result :=
  match Arguments.parse (excerptMenu c.name)
    (if isBeginning then withCount c.args else withStart c.args) with
  | .error (.unknown o) =>
    if !o.isDigit then misuse c 1 (Arguments.Fault.unknown o).message
    else if isBeginning then misuse c 1 s!"invalid trailing option -- {o}"
    else failing c 1 s!"option used in invalid context -- {o}"
  | .error f => misuse c 1 f.message
  | .ok a =>
    let named := (1 < a.operands.length || a.has 'v') && !a.has 'q'
    let (unit_, text, cut) : String × String × (Bytes → List Bytes) := match a.value? 'c' with
      | some t => ("bytes", t, fun bs => bs.map ([·]))
      | none => ("lines", (a.value? 'n').getD "10", fullRows a.mark)
    match signedCount? text with
    | none => failing c 1 s!"invalid number of {unit_}: {quoted text}"
    | some n =>
      if a.operands = [zeroDevice] && unit_ = "bytes" then printing c (List.replicate n.2 0)
      else
        let r := eachSection c named a.operands fun bs => (show_ n (cut bs)).flatten
        match enough? c a isBeginning n with
        | some k => { r with isSated := true, taken := some k }
        | none => r

def head : Call → Result := excerpt beginning true

def tail : Call → Result := excerpt ending false

def rev (c : Call) : Result :=
  withArguments [] [] c fun a =>
    let fault (file : String) : OsError → String
      | .isDirectory => plainFault file .isDirectory
      | e => s!"cannot open {file}: {e.text}"
    eachFile c a.operands fault fun bs =>
      (fullLines bs).flatMap fun l =>
        if l.getLast? = some 10 then l.dropLast.reverse ++ [10] else l.reverse

def tacFault (file : String) : OsError → String
  | .isDirectory => s!"{shown file}: read error: Invalid argument"
  | e => s!"failed to open {quoted file} for reading: {e.text}"

def separated (sep : Bytes) : Nat → Bytes → Bytes → List Bytes
  | 0, acc, bs => [acc.reverse ++ bs]
  | _, acc, [] => if acc.isEmpty then [] else [acc.reverse]
  | n + 1, acc, b :: bs =>
    if sep.isPrefixOf (b :: bs) && !sep.isEmpty then
      (acc.reverse ++ sep) :: separated sep n [] ((b :: bs).drop sep.length)
    else separated sep n (b :: acc) bs

def tac (c : Call) : Result :=
  withArguments ['b', 'r'] ['s'] c fun a =>
    let sep := bytesOf ((a.value? 's').getD "\n")
    eachFile c a.operands tacFault fun bs => (separated sep bs.length [] bs).reverse.flatten

def wordCount (bs : Bytes) : Nat :=
  (bs.foldl (fun (acc : Nat × Bool) b =>
    if ByteSet.space.contains b then (acc.1, false)
    else (if acc.2 then acc.1 else acc.1 + 1, true)) (0, false)).1

def widestLine (bs : Bytes) : Nat :=
  (bs.foldl (fun (acc : Nat × Nat) b =>
    if b = 10 || b = 13 || b = 12 then (max acc.1 acc.2, 0)
    else if b = 9 then (acc.1, (acc.2 / 8 + 1) * 8)
    else if 32 ≤ b && b < 127 then (acc.1, acc.2 + 1)
    else acc) (0, 0)) |> fun (most, last) => max most last

def countLine (width : Nat) (counts : List Nat) (name : String) : String :=
  " ".intercalate (counts.map fun n => padLeft width (toString n)) ++
    (if name = "" then "" else " " ++ name) ++ "\n"

def measures (a : Arguments) : List ((Bytes → Nat) × (Nat → Nat → Nat)) :=
  let chosen := !(['l', 'w', 'c', 'm', 'L'].any a.has)
  (if chosen || a.has 'l' then [((·.count 10), (· + ·))] else []) ++
  (if chosen || a.has 'w' then [(wordCount, (· + ·))] else []) ++
  (if a.has 'm' then [(List.length, (· + ·))] else []) ++
  (if chosen || a.has 'c' then [(List.length, (· + ·))] else []) ++
  (if a.has 'L' then [(widestLine, max)] else [])

def wc (c : Call) : Result :=
  withArguments ['l', 'w', 'c', 'm', 'L'] [] c fun a =>
    let ms := measures a
    let counts (bs : Bytes) : List Nat := ms.map fun m => m.1 bs
    let files := inputs c (a.operands.filter (· ≠ ""))
    let files := if a.operands.isEmpty || a.operands ≠ [""] then files else []
    let rows := files.filterMap fun (f, x) =>
      match x with
      | .ok bs => some (f, bs)
      | .error .isDirectory => some (f, [])
      | .error _ => none
    let total := (rows.map fun e => counts e.2).foldl
      (fun t n => (ms.zip (t.zip n)).map fun (m, x, y) => m.2 x y) (ms.map fun _ => 0)
    let hasDirectory := files.any fun e => e.2 matches .error .isDirectory
    let size := (toString (rows.flatMap (·.2)).length).length
    let isPiped := readsInput a.operands && c.source.isNone
    let width :=
      if ms.length = 1 && a.operands.length ≤ 1 then 1
      else if isPiped || hasDirectory then max 7 size
      else size
    let named := rows.map fun (f, bs) =>
      countLine width (counts bs) (if a.operands.isEmpty then "" else f)
    let named := if 1 < files.length then named ++ [countLine width total "total"] else named
    let r := files.foldl (fun (r : Result) e =>
      match e.2 with
      | .ok _ => r
      | .error x => complain c r 1 (plainFault e.1 x))
      { disk := c.disk, tookInput := readsInput a.operands }
    let r := if a.operands.contains "" then complain c r 1 "invalid zero-length file name" else r
    { r with out := bytesOf (String.join named) }

def tee (c : Call) : Result :=
  reading <| withArguments ['a', 'i', 'p'] [] c fun a =>
    a.operands.foldl (fun r f =>
      let before := if a.has 'a' then ((contents { c with disk := r.disk } f).toOption).getD []
        else []
      match write r.disk f (before ++ c.input) with
      | .ok disk => { r with disk }
      | .error e => complain c r 1 (plainFault f e)) (printing c c.input)

end Freshen.Shell.Utility
