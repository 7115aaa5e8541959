import Freshen.Shell.Utility.Order
/-! Lines that meet their like: in a row within one text, or in two texts that are in order. -/

namespace Freshen.Shell.Utility

structure Likeness where
  skippedFields : Nat := 0
  skippedChars : Nat := 0
  width : Option Nat := none
  foldsCase : Bool := false

namespace Likeness

def key (k : Likeness) (line : Bytes) : Bytes :=
  let rest := (SortKey.afterFields none k.skippedFields line).drop k.skippedChars
  let part := match k.width with
    | some n => rest.take n
    | none => rest
  if k.foldsCase then part.map TextOrder.upper else part

def groups (k : Likeness) (ls : List Bytes) : List (List Bytes) :=
  ls.splitBy fun a b => k.key a == k.key b

end Likeness

def withSkips (ws : List String) : List String :=
  ws.map fun w =>
    let option (c : Char) (ds : List Char) : String :=
      if ds.all Char.isDigit then String.ofList ('-' :: c :: ds) else w
    match w.toList with
    | '-' :: d :: ds => option 'f' (d :: ds)
    | '+' :: d :: ds => option 's' (d :: ds)
    | _ => w

structure Separation where
  before : Bool := false
  between : Bool := false
  after : Bool := false

def separation? : String → Option Separation
  | "" | "separate" => some { between := true }
  | "prepend" => some { before := true, between := true }
  | "append" => some { between := true, after := true }
  | "both" => some { before := true, between := true, after := true }
  | _ => none

def shownGroups (a : Arguments) (repeats : Option Separation) (gs : List (List Bytes)) : Bytes :=
  let shows (g : List Bytes) : List Bytes :=
    if g.length ≤ 1 then if a.has 'd' || a.has 'D' || repeats.isSome then [] else g
    else (if a.has 'u' then [] else g.take 1) ++
      (if a.has 'D' || repeats.isSome then g.drop 1 else [])
  let line (n : Nat) (l : Bytes) : Bytes :=
    if a.has 'c' then bytesOf (padLeft 7 (toString n) ++ " ") ++ l else l
  let parts := (gs.map fun g => (shows g).map (line g.length)).filter (!·.isEmpty)
  match repeats with
  | some s => (parts.zipIdx).flatMap fun (p, i) =>
    (if s.before || (s.between && 0 < i) then [a.mark] else []) ++ closed a.mark p
  | none => parts.flatMap (closed a.mark)

def spreadGroups (a : Arguments) (s : Separation) (gs : List (List Bytes)) : Bytes :=
  (gs.zipIdx).flatMap fun (g, i) =>
    (if s.before && i = 0 || s.between && 0 < i then [a.mark] else []) ++ closed a.mark g ++
      (if s.after && i + 1 = gs.length then [a.mark] else [])

def uniqMenu (name : String) : Arguments.Menu where
  known := ['c', 'd', 'D', 'u', 'i', 'z']
  valued := ['f', 's', 'w']
  long := longNames name
  optional := ['>', '|']

def uniqFrom (c : Call) (a : Arguments) (f : Bytes → Bytes) : Result :=
  let fault (file : String) : OsError → String
    | .isDirectory => s!"error reading {quoted file}: {OsError.isDirectory.text}"
    | e => plainFault file e
  match a.operands with
  | _ :: _ :: extra :: _ => extraOperand c extra
  | [source, target] =>
    let r := eachFile c [source] fault f
    if r.status ≠ 0 then r
    else match write r.disk target r.out with
    | .ok disk => { r with disk, out := [] }
    | .error e => complain c { r with out := [] } 1 (plainFault target e)
  | files => eachFile c files fault f

def uniq (c : Call) : Result :=
  match Arguments.parse (uniqMenu c.name) (withSkips c.args) with
  | .error f => misuse c 1 f.message
  | .ok a =>
    let number (letter : Char) (what : String) : Except Result (Option Nat) :=
      match a.value? letter with
      | none => .ok none
      | some t =>
        match t.toNat? with
        | some n => .ok (some n)
        | none => .error (failing c 1 s!"{t}: invalid number of {what}")
    match number 'f' "fields to skip", number 's' "bytes to skip",
      number 'w' "bytes to compare" with
    | .error r, _, _ => r
    | _, .error r, _ => r
    | _, _, .error r => r
    | .ok fields, .ok chars, .ok width =>
      let k : Likeness := {
        skippedFields := fields.getD 0, skippedChars := chars.getD 0, width
        foldsCase := a.has 'i' }
      let groups (bs : Bytes) := k.groups (rows a.mark bs)
      match a.value? '|', a.value? '>' with
      | some g, _ =>
        match separation? g with
        | none => refused c 1 g "--group" [["prepend"], ["append"], ["separate"], ["both"]]
        | some s =>
          if ['c', 'd', 'D', 'u'].any a.has || (a.value? '>').isSome then
            misuse c 1 "--group is mutually exclusive with -c/-d/-D/-u"
          else uniqFrom c a fun bs => spreadGroups a s (groups bs)
      | none, some m =>
        match if m = "none" || m = "" then some {} else separation? m with
        | none => refused c 1 m "--all-repeated" [["none"], ["prepend"], ["separate"]]
        | some s => uniqFrom c a fun bs => shownGroups a (some s) (groups bs)
      | none, none =>
        if a.has 'c' && a.has 'D' then
          misuse c 1 "printing all duplicated lines and repeat counts is meaningless"
        else uniqFrom c a fun bs => shownGroups a none (groups bs)

inductive Side
  | first
  | second
  | both
  deriving DecidableEq, Repr

def sides : Nat → List Bytes → List Bytes → List (Side × Bytes)
  | 0, _, _ => []
  | _ + 1, [], [] => []
  | n + 1, x :: xs, [] => (.first, x) :: sides n xs []
  | n + 1, [], y :: ys => (.second, y) :: sides n [] ys
  | n + 1, x :: xs, y :: ys =>
    match compare x y with
    | .eq => (.both, x) :: sides n xs ys
    | .lt => (.first, x) :: sides n xs (y :: ys)
    | .gt => (.second, y) :: sides n (x :: xs) ys

def isDisordered : List Bytes → Bool
  | a :: b :: r => (compare a b).isGT || isDisordered (b :: r)
  | _ => false

def orderedPart : Nat → List Bytes → Nat
  | n, a :: b :: r => if (compare a b).isGT then n + 1 else orderedPart (n + 1) (b :: r)
  | n, ls => n + ls.length

def walkTo (side : Side) (count : Nat) : List (Side × Bytes) → List (Side × Bytes)
  | [] => []
  | e :: r =>
    let count := if e.1 = side || e.1 = .both then count - 1 else count
    if count = 0 then [e] else e :: walkTo side count r

def comm (c : Call) : Result :=
  let menu : Arguments.Menu :=
    { known := ['1', '2', '3', 'z', 'o', 'O', '+'], valued := ['>'], long := longNames c.name }
  match Arguments.parse menu c.args with
  | .error f => misuse c 1 f.message
  | .ok a =>
    match a.operands with
    | [] => missingOperand c
    | [f] => misuse c 1 ("missing operand after " ++ quoted f)
    | f :: g :: rest =>
      let delimiters := a.allValues '>'
      match rest, contents c f, contents c g with
      | extra :: _, _, _ => extraOperand c extra
      | _, .error e, _ => failing c 1 (plainFault f e)
      | _, _, .error e => failing c 1 (plainFault g e)
      | [], .ok x, .ok y =>
        if delimiters.any fun d => some d ≠ delimiters.head? then
          failing c 1 "multiple output delimiters specified"
        else compared c a (f :: [g]) (delimiters.headD "\t") x y
where
  compared (c : Call) (a : Arguments) (files : List String) (d : String) (x y : Bytes) : Result :=
    let xs := rows a.mark x
    let ys := rows a.mark y
    let gap := if d = "" then [0] else bytesOf d
    let walk := sides (xs.length + ys.length + 1) xs ys
    let column : Side → Bytes
      | .first => []
      | .second => if a.has '1' then [] else gap
      | .both => (if a.has '1' then [] else gap) ++ (if a.has '2' then [] else gap)
    let isShown : Side → Bool
      | .first => !a.has '1'
      | .second => !a.has '2'
      | .both => !a.has '3'
    let text (walk : List (Side × Bytes)) : Bytes :=
      (walk.filter (isShown ·.1)).flatMap fun e => column e.1 ++ e.2 ++ [a.mark]
    let isUnpaired := walk.any (·.1 ≠ .both)
    let complaints := (if isDisordered xs then [1] else []) ++ (if isDisordered ys then [2] else [])
    let r : Result := { disk := c.disk, tookInput := readsInput files }
    if a.has 'O' && !complaints.isEmpty then
      let before := if isDisordered xs then walkTo .first (orderedPart 0 xs) walk
        else walkTo .second (orderedPart 0 ys) walk
      complain c { r with out := text before } 1
        s!"file {complaints.headD 1} is not in sorted order"
    else
      let total (s : Side) : String := toString (walk.countP (·.1 = s))
      let last := if a.has '+' then
          bytesOf (total .first ++ "\t" ++ total .second ++ "\t" ++ total .both ++ "\ttotal\n")
        else []
      let r := { r with out := text walk ++ last }
      if isUnpaired && !a.has 'o' && !complaints.isEmpty then
        let r := complaints.foldl (fun r n => complain c r 1 s!"file {n} is not in sorted order") r
        complain c r 1 "input is not in sorted order"
      else r

structure Joining where
  fields : Nat × Nat := (0, 0)
  separator : Option UInt8 := none
  foldsCase : Bool := false
  showsPairs : Bool := true
  unpaired : List Nat := []
  filler : Bytes := []
  format : List (Nat × Nat) := []

namespace Joining

def fieldsOf (j : Joining) (line : Bytes) : List Bytes :=
  match j.separator with
  | some s => Text.pieces s line
  | none => (Text.pieces 32 (line.map fun b => if b = 9 then 32 else b)).filter (!·.isEmpty)

def keyOf (j : Joining) (side : Nat) (line : List Bytes) : Bytes :=
  line.getD (if side = 1 then j.fields.1 else j.fields.2) []

def order (j : Joining) (x y : Bytes) : Ordering :=
  if j.foldsCase then compare (x.map TextOrder.upper) (y.map TextOrder.upper) else compare x y

def orFiller (j : Joining) (bs : Bytes) : Bytes := if bs.isEmpty then j.filler else bs

def pair (j : Joining) (x? y? : Option (List Bytes)) : Bytes :=
  let key := match x?, y? with
    | some x, _ => j.keyOf 1 x
    | none, some y => j.keyOf 2 y
    | none, none => []
  let others (side : Nat) (line : Option (List Bytes)) : List Bytes :=
    (line.getD []).eraseIdx (if side = 1 then j.fields.1 else j.fields.2)
  let shown := if j.format.isEmpty then key :: (others 1 x? ++ others 2 y?)
    else j.format.map fun (side, n) =>
      if side = 0 then key
      else ((if side = 1 then x? else y?).getD []).getD (n - 1) []
  Text.joined (j.separator.getD 32) (shown.map j.orFiller)

def join (j : Joining) : Nat → List (List Bytes) → List (List Bytes) → List Bytes
  | 0, _, _ => []
  | n + 1, xs, ys =>
    let alone (side : Nat) (x? y? : Option (List Bytes)) : List Bytes :=
      if j.unpaired.contains side then [j.pair x? y?] else []
    match xs, ys with
    | [], [] => []
    | x :: xs, [] => alone 1 (some x) none ++ join j n xs []
    | [], y :: ys => alone 2 none (some y) ++ join j n [] ys
    | x :: xr, y :: yr =>
      match j.order (j.keyOf 1 x) (j.keyOf 2 y) with
      | .lt => alone 1 (some x) none ++ join j n xr ys
      | .gt => alone 2 none (some y) ++ join j n xs yr
      | .eq =>
        let isLike (side : Nat) (l : List Bytes) : Bool :=
          (j.order (j.keyOf side l) (j.keyOf 1 x)).isEq
        let a := xs.takeWhile (isLike 1)
        let b := ys.takeWhile (isLike 2)
        let pairs := a.flatMap fun p => b.map fun q => j.pair (some p) (some q)
        (if j.showsPairs then pairs else []) ++ join j n (xs.drop a.length) (ys.drop b.length)

def disorder? (j : Joining) (side : Nat) : Nat → List Bytes → Option (Nat × Bytes)
  | n, a :: b :: r =>
    if (j.order (j.keyOf side (j.fieldsOf a)) (j.keyOf side (j.fieldsOf b))).isGT then
      some (n + 1, b)
    else disorder? j side (n + 1) (b :: r)
  | _, _ => none

def place (text : String) : Except String (Nat × Nat) :=
  if text = "0" then .ok (0, 0)
  else match text.toList with
  | c :: '.' :: ds =>
    if c = '1' || c = '2' then
      match (String.ofList ds).toNat? with
      | some (n + 1) => .ok (if c = '1' then 1 else 2, n + 1)
      | _ => .error ("invalid field number: " ++ quoted (String.ofList ds))
    else .error ("invalid file number in field spec: " ++ quoted text)
  | _ => .error ("invalid file number in field spec: " ++ quoted text)

def ofArguments (a : Arguments) : Except String Joining := do
  let field (letters : List Char) : Except String Nat :=
    match letters.findSome? a.value? with
    | none => .ok 0
    | some t =>
      match t.toNat? with
      | some (n + 1) => .ok n
      | _ => .error ("invalid field number: " ++ quoted t)
  let first ← field ['1', 'j']
  let second ← field ['2', 'j']
  let side (t : String) : Except String Nat :=
    if t = "1" then .ok 1 else if t = "2" then .ok 2
    else .error ("invalid field number: " ++ quoted t)
  let all ← (a.allValues 'a').mapM side
  let only ← (a.allValues 'v').mapM side
  let places := (a.allValues 'o').flatMap fun t =>
    (t.split fun c => c = ',' || c = ' ').toList.map (·.toString)
  let format ← if places = ["auto"] then pure [] else places.mapM place
  let separator ← match (a.value? 't').map bytesOf with
    | none => pure none
    | some [] => pure (some 10)
    | some [b] => pure (some b)
    | some bs => throw ("multi-character tab " ++ quoted (Text.Utf8.lenient ⟨bs.toArray⟩))
  return {
    fields := (first, second), separator, foldsCase := a.has 'i', showsPairs := only.isEmpty
    unpaired := all ++ only, filler := ((a.value? 'e').map bytesOf).getD [], format }

def spread (j : Joining) (xs ys : List (List Bytes)) : Joining :=
  let others (side skipped : Nat) (ls : List (List Bytes)) : List (Nat × Nat) :=
    (((List.range (ls.headD []).length).filter (· ≠ skipped))).map fun i => (side, i + 1)
  { j with format := (0, 0) :: (others 1 j.fields.1 xs ++ others 2 j.fields.2 ys) }

end Joining

def join (c : Call) : Result :=
  let menu : Arguments.Menu := {
    known := ['h', 'n', 'O', 'i', 'z']
    valued := ['1', '2', 'j', 'a', 'v', 'o', 'e', 't']
    long := longNames c.name }
  match Arguments.parse menu c.args with
  | .error f => misuse c 1 f.message
  | .ok a =>
    match a.operands, Joining.ofArguments a with
    | _, .error text => failing c 1 text
    | [], _ => missingOperand c
    | [f], _ => misuse c 1 ("missing operand after " ++ quoted f)
    | _ :: _ :: extra :: _, _ => extraOperand c extra
    | [f, g], .ok j =>
      match contents c f, contents c g with
      | .error e, _ => failing c 1 (plainFault f e)
      | _, .error e => failing c 1 (plainFault g e)
      | .ok x, .ok y =>
        let xl := rows a.mark x
        let yl := rows a.mark y
        let xs := xl.map j.fieldsOf
        let ys := yl.map j.fieldsOf
        let j := if a.value? 'o' = some "auto" then j.spread xs ys else j
        let heads := if a.has 'h' then 1 else 0
        let head := if a.has 'h' then [j.pair xs.head? ys.head?] else []
        let size := xs.length + ys.length + 1
        let body (j : Joining) := j.join size (xs.drop heads) (ys.drop heads)
        let isUnpaired := !(({ j with unpaired := [1, 2], showsPairs := false } : Joining).join size
          (xs.drop heads) (ys.drop heads)).isEmpty
        let faults := [(1, f, j.disorder? 1 (1 + heads) (xl.drop heads)),
          (2, g, j.disorder? 2 (1 + heads) (yl.drop heads))]
        let r : Result :=
          { disk := c.disk, tookInput := readsInput [f, g], out := closed a.mark (head ++ body j) }
        if a.has 'n' || !isUnpaired then r
        else
          let r' := faults.foldl (fun (r : Result) (_, file, d) =>
            match d with
            | some (n, l) =>
              let text := Text.Utf8.lenient ⟨l.toArray⟩
              complain c r 1 s!"{file}:{n}: is not sorted: {text}"
            | none => r) r
          if r'.complaints.isEmpty then r' else complain c r' 1 "input is not in sorted order"

structure Precedence where
  names : List String := []
  pairs : List (String × String) := []

namespace Precedence

def add (p : Precedence) (x y : String) : Precedence :=
  let known (ns : List String) (n : String) : List String := if ns.contains n then ns else n :: ns
  { names := known (known p.names x) y
    pairs := if x = y then p.pairs else (x, y) :: p.pairs }

def ofWords : Precedence → List String → Option Precedence
  | p, [] => some p
  | p, x :: y :: r => ofWords (p.add x y) r
  | _, [_] => none

def isFree (pairs : List (String × String)) (x : String) : Bool := !pairs.any (·.2 = x)

def drain : Nat → List String → List (String × String) → List String →
    List String × List (String × String)
  | 0, _, pairs, done => (done, pairs)
  | _ + 1, [], pairs, done => (done, pairs)
  | n + 1, x :: row, pairs, done =>
    let (own, others) := pairs.partition (·.1 = x)
    -- A name that follows twice becomes free with its last pair.
    let freed := own.zipIdx.filterMap fun (e, i) =>
      if isFree others e.2 && !(own.drop (i + 1)).any (·.2 = e.2) then some e.2 else none
    drain n (row ++ freed) others (x :: done)

/-- Walks through the names that something comes before, and follows pairs backwards until a name
comes up again. Answers the loop, beginning where it was closed, and the pair that closes it. -/
def loop (names : List String) (pairs : List (String × String)) :
    Nat → List (String × String) → Option String → List String →
    Option (List String × (String × String))
  | 0, _, _, _ => none
  | n + 1, links, start?, [] =>
    -- Another walk, as long as there is a trail.
    match start? with
    | none => none
    | some _ => loop names pairs n links start? names
  | n + 1, links, start?, k :: ks =>
    if isFree pairs k then loop names pairs n links start? ks
    else match start? with
    | none => loop names pairs n links (some k) ks
    | some s =>
      if !pairs.contains (k, s) then loop names pairs n links start? ks
      else if (Keyed.get? links k).isSome then some (trail links k (links.length + 1) s, (k, s))
      else loop names pairs n ((k, s) :: links) (some k) ks
where
  trail (links : List (String × String)) (stop : String) : Nat → String → List String
    | 0, s => [s]
    | n + 1, s =>
      if s = stop then [s]
      else match Keyed.get? links s with
      | some t => s :: trail links stop n t
      | none => [s]

def sorted : Nat → List String → List (String × String) → List String → List (List String) →
    List String × List (List String)
  | 0, _, _, done, loops => (done.reverse, loops.reverse)
  | n + 1, names, pairs, done, loops =>
    let left := names.filter (!done.contains ·)
    let (done, pairs) := drain (names.length + 1) (left.filter (isFree pairs)) pairs done
    let left := names.filter (!done.contains ·)
    if left.isEmpty then (done.reverse, loops.reverse)
    else match loop left pairs ((left.length + 2) * (left.length + 2)) [] none left with
    | some (l, e) => sorted n names (pairs.erase e) done (l :: loops)
    | none => (done.reverse, loops.reverse)

end Precedence

def tsort (c : Call) : Result :=
  withArguments [] [] c fun a =>
    match a.operands with
    | _ :: extra :: _ => extraOperand c extra
    | files =>
      let file := files.headD "-"
      match contents c file with
      | .error e => failing c 1 (if e = .isDirectory then s!"{shown file}: read error: {e.text}"
        else plainFault file e)
      | .ok bs =>
        let r : Result := { disk := c.disk, tookInput := readsInput files }
        let words := ((bs.splitBy fun x y => isBlank x == isBlank y).filter fun w =>
          !w.head?.any isBlank).map fun w => Text.Utf8.lenient ⟨w.toArray⟩
        match ({} : Precedence).ofWords words with
        | none => complain c r 1 s!"{shown file}: input contains an odd number of tokens"
        | some p =>
          let names := p.names.mergeSort fun x y => (compare x y).isLE
          let (order, loops) := Precedence.sorted (p.pairs.length + 1) names p.pairs [] []
          let r := loops.foldl (fun r l =>
            l.foldl (fun r n => complain c r 1 n)
              (complain c r 1 s!"{shown file}: input contains a loop:")) r
          { r with out := bytesOf (String.join (order.map (· ++ "\n"))) }
where
  isBlank (b : UInt8) : Bool := b = 32 || b = 9 || b = 10

end Freshen.Shell.Utility
