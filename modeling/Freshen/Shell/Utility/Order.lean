import Freshen.Shell.ByteSet
import Freshen.Shell.Utility.Basic
/-! Lines in order: by their bytes, or by parts of them that are compared in one of several
manners. -/

namespace Freshen.Shell.Utility

namespace TextOrder

def isBlank (b : UInt8) : Bool := b = 9 || b = 32 || b = 10

def isDigit (b : UInt8) : Bool := 48 ≤ b && b ≤ 57

def isLetter (b : UInt8) : Bool := (65 ≤ b && b ≤ 90) || (97 ≤ b && b ≤ 122)

def upper (b : UInt8) : UInt8 := if 97 ≤ b && b ≤ 122 then b - 32 else b

structure Decimal where
  isNegative : Bool
  whole : Nat
  fraction : Bytes
  rest : Bytes

def decimal (bs : Bytes) : Decimal :=
  let bs := bs.dropWhile isBlank
  let (isNegative, bs) : Bool × Bytes := match bs with
    | 45 :: r => (true, r)
    | bs => (false, bs)
  let whole := bs.takeWhile isDigit
  let after := bs.drop whole.length
  let (fraction, rest) : Bytes × Bytes := match after with
    | 46 :: r => (r.takeWhile isDigit, r.dropWhile isDigit)
    | r => ([], r)
  { isNegative
    whole := whole.foldl (fun n b => n * 10 + (b.toNat - 48)) 0
    fraction := (fraction.reverse.dropWhile (· = 48)).reverse
    rest }

namespace Decimal

def isZero (d : Decimal) : Bool := d.whole = 0 && d.fraction.isEmpty

def magnitude (d e : Decimal) : Ordering :=
  (compare d.whole e.whole).then (compare d.fraction e.fraction)

def order (d e : Decimal) : Ordering :=
  match d.isNegative && !d.isZero, e.isNegative && !e.isZero with
  | false, false => magnitude d e
  | true, true => magnitude e d
  | true, false => .lt
  | false, true => .gt

def rank (d : Decimal) : Int :=
  if d.isZero then 0
  else
    let units : Bytes := bytesOf "KMGTPEZYRQ"
    let n : Int := match d.rest with
      | 107 :: _ => 1
      | b :: _ => (((units.findIdx? (· = b)).map (· + 1)).getD 0 : Nat)
      | [] => 0
    if d.isNegative then -n else n

end Decimal

def numeric (x y : Bytes) : Ordering := (decimal x).order (decimal y)

def human (x y : Bytes) : Ordering :=
  (compare (decimal x).rank (decimal y).rank).then (numeric x y)

def general (x y : Bytes) : Ordering :=
  let read (bs : Bytes) : Option Floating :=
    (Floating.leading? .extended (Text.Utf8.lenient ⟨bs.toArray⟩).toList).map (·.1)
  match read x, read y with
  | none, none => .eq
  | none, some _ => .lt
  | some _, none => .gt
  | some a, some b => a.order b

def monthNames : List String :=
  ["JAN", "FEB", "MAR", "APR", "MAY", "JUN", "JUL", "AUG", "SEP", "OCT", "NOV", "DEC"]

def monthNumber (bs : Bytes) : Nat :=
  let start := (bs.dropWhile isBlank).map upper
  ((monthNames.findIdx? fun m => (bytesOf m).isPrefixOf start).map (· + 1)).getD 0

def month (x y : Bytes) : Ordering := compare (monthNumber x) (monthNumber y)

def weight : Option UInt8 → Int
  | none => -1
  | some b =>
    if isDigit b then 0
    else if isLetter b then b.toNat
    else if b = 126 then -2
    else b.toNat + 256

def versionParts : Nat → Bytes → Bytes → Ordering
  | 0, _, _ => .eq
  | n + 1, x, y =>
    if x.isEmpty && y.isEmpty then .eq
    else if x.head?.any (!isDigit ·) || y.head?.any (!isDigit ·) then
      (compare (weight x.head?) (weight y.head?)).then (versionParts n (x.drop 1) (y.drop 1))
    else
      let x := x.dropWhile (· = 48)
      let y := y.dropWhile (· = 48)
      let a := x.takeWhile isDigit
      let b := y.takeWhile isDigit
      ((compare a.length b.length).then (compare a b)).then
        (versionParts n (x.drop a.length) (y.drop b.length))

def isEndings : Nat → Bytes → Bool
  | 0, _ => false
  | _ + 1, [] => true
  | n + 1, 46 :: b :: r =>
    (isLetter b || b = 126) && isEndings n (r.dropWhile fun b => isLetter b || isDigit b || b = 126)
  | _ + 1, _ => false

def withoutEndings : Bytes → Bytes
  | [] => []
  | b :: r => if isEndings (r.length + 1) r then [b] else b :: withoutEndings r

def version (x y : Bytes) : Ordering :=
  let rank (bs : Bytes) : Nat :=
    if bs = [] then 0 else if bs = [46] then 1 else if bs = [46, 46] then 2
    else if bs.head? = some 46 then 3 else 4
  let size := x.length + y.length + 1
  ((compare (rank x) (rank y)).then
    (versionParts size (withoutEndings x) (withoutEndings y))).then (versionParts size x y)

end TextOrder

structure SortKey where
  field : Nat := 0
  char : Nat := 0
  lastField : Option Nat := none
  lastChar : Nat := 0
  skipsBlanks : Bool := false
  lastSkipsBlanks : Bool := false
  flags : List Char := []
  deriving Inhabited

namespace SortKey

inductive Fault
  | noCount (place text : String)
  | zeroField (spec : String)
  | zeroChar (spec : String)
  | stray (spec : String)
  | incompatible (letters : String)
  deriving DecidableEq, Repr

def Fault.message : Fault → String
  | noCount place t => "invalid number " ++ place ++ ": invalid count at start of " ++ quoted t
  | zeroField s => "field number is zero: invalid field specification " ++ quoted s
  | zeroChar s => "character offset is zero: invalid field specification " ++ quoted s
  | stray s => "stray character in field spec: invalid field specification " ++ quoted s
  | incompatible ls => "options " ++ quoted ("-" ++ ls) ++ " are incompatible"

def isFlag (c : Char) : Bool := "dfghiMnRrV".toList.contains c

def count (place : String) (cs : List Char) : Except Fault (Nat × List Char) :=
  let ds := cs.takeWhile Char.isDigit
  match (String.ofList ds).toNat? with
  | some n => .ok (n, cs.drop ds.length)
  | none => .error (.noCount place (String.ofList cs))

def letters (cs : List Char) : List Char × List Char :=
  let ls := cs.takeWhile fun c => isFlag c || c = 'b'
  (ls, cs.drop ls.length)

def ofText (spec : String) : Except Fault SortKey := do
  let (field, rest) ← count "at field start" spec.toList
  if field = 0 then throw (.zeroField spec)
  let (char, rest) ← match rest with
    | '.' :: r => do
      let (n, r) ← count "after '.'" r
      if n = 0 then throw (.zeroChar spec)
      pure (n - 1, r)
    | r => pure (0, r)
  let (ls, rest) := letters rest
  let key : SortKey := {
    field := field - 1, char, skipsBlanks := ls.contains 'b', flags := ls.filter isFlag }
  match rest with
  | [] => return key
  | ',' :: r =>
    let (field, rest) ← count "after ','" r
    if field = 0 then throw (.zeroField spec)
    let (char, rest) ← match rest with
      | '.' :: r => count "after '.'" r
      | r => pure (0, r)
    let (ls, rest) := letters rest
    if !rest.isEmpty then throw (.stray spec)
    return { key with
      lastField := some field, lastChar := char, lastSkipsBlanks := ls.contains 'b'
      flags := key.flags ++ ls.filter isFlag }
  | _ => throw (.stray spec)

/-- What is left of a line after some fields and the separators behind them. Without a separator
a field begins with the blanks before it. -/
def afterFields (sep : Option UInt8) : Nat → Bytes → Bytes
  | 0, bs => bs
  | n + 1, bs =>
    afterFields sep n (match sep with
      | some s => (bs.dropWhile (· ≠ s)).drop 1
      | none => (bs.dropWhile TextOrder.isBlank).dropWhile (!TextOrder.isBlank ·))

def after (sep : Option UInt8) (k : SortKey) (line : Bytes) : Bytes :=
  match k.lastField with
  | none => []
  | some n =>
    if k.lastChar = 0 then
      match sep with
      | some s => (afterFields sep (n - 1) line).dropWhile (· ≠ s)
      | none => afterFields sep n line
    else
      let rest := afterFields sep (n - 1) line
      let rest := if k.lastSkipsBlanks then rest.dropWhile TextOrder.isBlank else rest
      rest.drop k.lastChar

def part (sep : Option UInt8) (k : SortKey) (line : Bytes) : Bytes :=
  let start := afterFields sep k.field line
  let start := if k.skipsBlanks then start.dropWhile TextOrder.isBlank else start
  let start := start.drop k.char
  start.take (start.length - (k.after sep line).length)

def folded (k : SortKey) (bs : Bytes) : Bytes :=
  let isWanted (b : UInt8) : Bool :=
    if k.flags.contains 'd' then
      TextOrder.isBlank b || TextOrder.isLetter b || TextOrder.isDigit b
    else if k.flags.contains 'i' then 32 ≤ b && b < 127
    else true
  let bs := bs.filter isWanted
  if k.flags.contains 'f' then bs.map TextOrder.upper else bs

def order (sep : Option UInt8) (k : SortKey) (x y : Bytes) : Ordering :=
  let x := k.part sep x
  let y := k.part sep y
  let o :=
    if k.flags.contains 'n' then TextOrder.numeric x y
    else if k.flags.contains 'g' then TextOrder.general x y
    else if k.flags.contains 'h' then TextOrder.human x y
    else if k.flags.contains 'M' then TextOrder.month x y
    else if k.flags.contains 'V' then TextOrder.version (k.folded x) (k.folded y)
    else compare (k.folded x) (k.folded y)
  if k.flags.contains 'r' then o.swap else o

def hasOwn (k : SortKey) : Bool := !k.flags.isEmpty || k.skipsBlanks || k.lastSkipsBlanks

def checked (k : SortKey) : Except Fault SortKey :=
  let manners := ['n', 'g', 'h', 'M'].countP k.flags.contains
  let others := if ['V', 'R', 'd', 'i'].any k.flags.contains then 1 else 0
  if 1 < manners + others then
    let i := if k.flags.contains 'd' then [] else ['i']
    let shown := (['d', 'f', 'g', 'h'] ++ i ++ ['M', 'n', 'R', 'V']).filter k.flags.contains
    .error (.incompatible (String.ofList shown))
  else .ok k

end SortKey

structure Sorting where
  keys : List SortKey
  separator : Option UInt8 := none
  isStable : Bool := false
  isUnique : Bool := false
  isReversed : Bool := false

namespace Sorting

def ofSpecs (specs : List String) (common : SortKey) : Except SortKey.Fault (List SortKey) := do
  let keys ← specs.mapM SortKey.ofText
  let keys := keys.map fun k =>
    if k.hasOwn then k
    else { k with
      flags := common.flags
      skipsBlanks := common.skipsBlanks
      lastSkipsBlanks := common.skipsBlanks }
  let isCommon := keys.isEmpty && (common.skipsBlanks || common.flags.any (· ≠ 'r'))
  (if isCommon then [common] else keys).mapM SortKey.checked

def byBytes (s : Sorting) (x y : Bytes) : Ordering :=
  if s.isReversed then compare y x else compare x y

def byKeys (s : Sorting) (x y : Bytes) : Ordering :=
  if s.keys.isEmpty then s.byBytes x y
  else s.keys.foldl (fun o k => if o.isEq then k.order s.separator x y else o) .eq

def order (s : Sorting) (x y : Bytes) : Ordering :=
  if s.isStable || s.isUnique then s.byKeys x y else (s.byKeys x y).then (s.byBytes x y)

def distinct (s : Sorting) : List Bytes → List Bytes
  | a :: b :: r =>
    if (s.byKeys a b).isEq then distinct s (a :: r) else a :: distinct s (b :: r)
  | ls => ls

def sorted (s : Sorting) (ls : List Bytes) : List Bytes :=
  let ls := ls.mergeSort fun x y => (s.order x y).isLE
  if s.isUnique then s.distinct ls else ls

def merged (s : Sorting) : Nat → List (List Bytes) → List Bytes
  | 0, _ => []
  | n + 1, ls =>
    match ls.filter (!·.isEmpty) with
    | [] => []
    | l :: more =>
      let least := more.foldl (fun (m : Bytes) k =>
        match k.head? with
        | some b => if (s.order b m).isLT then b else m
        | none => m) (l.headD [])
      let index := ((l :: more).findIdx? (·.head? = some least)).getD 0
      least :: merged s n ((l :: more).modify index (·.drop 1))

def joined (s : Sorting) (ls : List (List Bytes)) : List Bytes :=
  let all := s.merged (ls.flatten.length + 1) ls
  if s.isUnique then s.distinct all else all

def disorder? (s : Sorting) (n : Nat) : List Bytes → Option (Nat × Bytes)
  | a :: b :: r =>
    let o := s.order a b
    if o.isGT || (s.isUnique && o.isEq) then some (n + 1, b) else disorder? s (n + 1) (b :: r)
  | _ => none

end Sorting

def sortFault (file : String) : OsError → String
  | .isDirectory => s!"read failed: {shown file}: {OsError.isDirectory.text}"
  | e => s!"cannot read: {shown file}: {e.text}"

def withOldKeys : Nat → List String → List String
  | 0, ws => ws
  | _ + 1, [] => []
  | _ + 1, "--" :: ws => "--" :: ws
  | n + 1, w :: ws =>
    let places (cs : List Char) : Option (Nat × Nat × List Char) :=
      let fs := cs.takeWhile Char.isDigit
      (String.ofList fs).toNat?.map fun f =>
        match cs.drop fs.length with
        | '.' :: r =>
          let ds := r.takeWhile Char.isDigit
          (f, (String.ofList ds).toNat?.getD 0, r.drop ds.length)
        | r => (f, 0, r)
    let isLettered (r : List Char) : Bool := r.all fun c => SortKey.isFlag c || c = 'b'
    match w.toList with
    | '+' :: cs =>
      match places cs with
      | some (f, d, r) =>
        if !isLettered r then w :: withOldKeys n ws
        else
          let start := s!"{f + 1}.{d + 1}" ++ String.ofList r
          let stop? := match (ws.headD "").toList with
            | '-' :: cs => (places cs).filter fun p => isLettered p.2.2
            | _ => none
          match stop? with
          | some (f, 0, r) =>
            "-k" :: (start ++ s!",{f}" ++ String.ofList r) :: withOldKeys n (ws.drop 1)
          | some (f, d, r) =>
            "-k" :: (start ++ s!",{f + 1}.{d}" ++ String.ofList r) :: withOldKeys n (ws.drop 1)
          | none => "-k" :: start :: withOldKeys n ws
      | none => w :: withOldKeys n ws
    | _ => w :: withOldKeys n ws

def sortMenu (name : String) : Arguments.Menu where
  known := ['b', 'd', 'f', 'g', 'h', 'i', 'M', 'n', 'R', 'r', 'V', 'c', 'C', 'm', 's', 'u', 'z']
  valued := ['k', 'o', 't', 'S', 'T', '>', '|', '/']
  optional := ['?']
  long := longNames name

def mannerLetter? : String → Option Char
  | "general-numeric" => some 'g'
  | "human-numeric" => some 'h'
  | "month" => some 'M'
  | "numeric" => some 'n'
  | "random" => some 'R'
  | "version" => some 'V'
  | _ => none

def mannerNames : List (List String) :=
  [["general-numeric"], ["human-numeric"], ["month"], ["numeric"], ["random"], ["version"]]

def separator? (c : Call) (a : Arguments) : Except Result (Option UInt8) :=
  match a.value? 't' with
  | none => .ok none
  | some "" => .error (failing c 2 "empty tab")
  | some "\\0" => .ok (some 0)
  | some t =>
    match bytesOf t with
    | [b] => .ok (some b)
    | _ => .error (failing c 2 ("multi-character tab " ++ quoted t))

def arranged (c : Call) (a : Arguments) (s : Sorting) (checking : Option Char) : Result :=
  let files := inputs c a.operands
  let r : Result := { disk := c.disk, tookInput := readsInput a.operands }
  match files.find? (·.2.toOption.isNone), checking, a.operands with
  | _, some k, _ :: extra :: _ =>
    failing c 2 ("extra operand " ++ quoted extra ++ " not allowed with -" ++ k.toString)
  | some (f, .error .notFound), some _, _ =>
    failing c 2 s!"open failed: {shown f}: {OsError.notFound.text}"
  | some (f, .error e), _, _ => failing c 2 (sortFault f e)
  | _, some k, _ =>
    let ls := files.flatMap fun e => rows a.mark ((e.2.toOption).getD [])
    match s.disorder? 1 ls with
    | none => r
    | some (n, l) =>
      if k = 'C' then { r with status := 1 }
      else
        let file := a.operands.headD "-"
        let text := Text.Utf8.lenient ⟨l.toArray⟩
        complain c r 1 s!"{file}:{n}: disorder: {text}"
  | _, none, _ =>
    let ls := files.map fun e => rows a.mark ((e.2.toOption).getD [])
    let out := closed a.mark (if a.has 'm' then s.joined ls else s.sorted ls.flatten)
    match a.value? 'o' with
    | none => { r with out }
    | some f =>
      match write r.disk f out with
      | .ok disk => { r with disk }
      | .error e => complain c r 2 s!"open failed: {shown f}: {e.text}"

def sort (c : Call) : Result :=
  match Arguments.parse (sortMenu c.name) (withOldKeys (c.args.length + 1) c.args) with
  | .error f => misuse c 2 f.message
  | .ok a =>
    let manner := a.value? '>'
    let checkWord := a.value? '?'
    let checks := a.has 'c' || checkWord.any fun w => w = "" || w = "diagnose-first"
    let checksQuietly := a.has 'C' || checkWord.any fun w => w = "quiet" || w = "silent"
    let flags := a.flags.filter SortKey.isFlag ++ (manner.bind mannerLetter?).toList
    match separator? c a, Sorting.ofSpecs (a.allValues 'k') { flags, skipsBlanks := a.has 'b' } with
    | .error r, _ => r
    | _, .error f => failing c 2 f.message
    | .ok separator, .ok keys =>
      if manner.any fun m => (mannerLetter? m).isNone then
        refused c 1 (manner.getD "") "--sort" mannerNames
      else if checkWord.isSome && !checks && !checksQuietly then
        refused c 1 (checkWord.getD "") "--check" [["quiet", "silent"], ["diagnose-first"]]
      else if checks && checksQuietly then failing c 2 "options '-cC' are incompatible"
      else
        let checking := if checks then some 'c' else if checksQuietly then some 'C' else none
        arranged c a
          { keys, separator
            isStable := a.has 's'
            isUnique := a.has 'u'
            isReversed := a.has 'r' } checking

end Freshen.Shell.Utility
