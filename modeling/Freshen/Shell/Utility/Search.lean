import Freshen.Shell.Regular.Written
import Freshen.Shell.Pattern
import Freshen.Shell.Utility.Text
/-! Looking for lines that match, with the lines around them. -/

namespace Freshen.Shell.Utility

structure Query where
  patterns : List Regular
  wholeLine : Bool := false
  wholeWord : Bool := false
  inverted : Bool := false

namespace Query

def literally (s : String) : Regular :=
  (bytesOf s).foldl (fun r b => .both r (.byte b)) .nothing

def withClasses : List Char → List Char
  | '\\' :: 'd' :: r => "[0-9]".toList ++ withClasses r
  | '\\' :: 'D' :: r => "[^0-9]".toList ++ withClasses r
  | '\\' :: 'h' :: r => "[[:blank:]]".toList ++ withClasses r
  | '\\' :: 't' :: r => '\t' :: withClasses r
  | '\\' :: c :: r => '\\' :: c :: withClasses r
  | '(' :: '?' :: ':' :: r => '(' :: withClasses r
  | c :: r => c :: withClasses r
  | [] => []

def ofTexts (a : Arguments) (texts : List String) : Except Regular.Fault Query := do
  let style : Regular.Style := { isExtended := a.has 'E' || a.has 'P', isLenient := true }
  let read (t : String) : Except Regular.Fault Regular :=
    if a.has 'F' then pure (literally t)
    else Regular.parse style (if a.has 'P' then String.ofList (withClasses t.toList) else t)
  let plain ← texts.mapM read
  return {
    patterns := if a.has 'i' || a.has 'y' then plain.map Regular.anyCase else plain
    wholeLine := a.has 'x'
    wholeWord := a.has 'w'
    inverted := a.has 'v' }

def surrounded (q : Query) (r : Regular) : Regular :=
  if q.wholeLine then .both (.boundary .lineStart) (.both r (.boundary .lineEnd))
  else if q.wholeWord then .both (.boundary .apartBefore) (.both r (.boundary .apartAfter))
  else r

def selects (q : Query) (line : Bytes) : Bool :=
  q.patterns.any (fun r => (q.surrounded r).occursIn line) != q.inverted

def matched (q : Query) (line : Bytes) : List (Bytes × Bytes) × Bytes :=
  match q.patterns with
  | [] => ([], line)
  | r :: rs =>
    let (fs, last) := (q.surrounded (rs.foldl .either r)).cuts line
    (fs.map fun (before, f) => (before, f.matched), last)

end Query

structure Showing where
  named : Bool := false
  numbered : Bool := false
  placed : Bool := false
  tabbed : Bool := false
  colored : Bool := false
  onlyMatches : Bool := false
  before : Nat := 0
  after : Nat := 0
  separator : Option Bytes := none
  nameEnd : Option UInt8 := none
  most : Option Nat := none
  mark : UInt8 := 10

namespace Showing

def paint (d : Showing) (color : String) (bs : Bytes) : Bytes :=
  if !d.colored then bs
  else bytesOf ("\x1b[" ++ color ++ "m\x1b[K") ++ bs ++ bytesOf "\x1b[m\x1b[K"

def separatorOf (d : Showing) (sign : Char) : Bytes := d.paint "36" (bytesOf sign.toString)

def heading (d : Showing) (sign : Char) (name : String) (number place : Nat) : Bytes :=
  let field (color text : String) (ends : Option UInt8) : Bytes :=
    d.paint color (bytesOf text) ++ (match ends with
      | some b => [b]
      | none => d.separatorOf sign)
  let wide (n : Nat) : String := if d.tabbed then padLeft 2 (toString n) else toString n
  let all := (if d.named then field "35" name d.nameEnd else []) ++
    (if d.numbered then field "32" (wide number) none else []) ++
    (if d.placed then field "32" (wide place) none else [])
  all ++ if d.tabbed && !all.isEmpty then [9] else []

def painted (d : Showing) (q : Query) (line : Bytes) : Bytes :=
  if !d.colored || q.inverted then line
  else
    let (ms, last) := q.matched line
    ms.flatMap (fun (before, m) => before ++ if m.isEmpty then [] else d.paint "01;31" m) ++ last

def hit (d : Showing) (q : Query) (name : String) (number place : Nat) (line : Bytes) : Bytes :=
  if !d.onlyMatches then d.heading ':' name number place ++ d.painted q line ++ [d.mark]
  else if q.inverted then []
  else
    ((q.matched line).1.foldl (fun (acc : Nat × Bytes) (before, m) =>
      let at_ := acc.1 + before.length
      let row := d.heading ':' name number at_ ++ d.paint "01;31" m ++ [d.mark]
      (at_ + m.length, acc.2 ++ if m.isEmpty then [] else row)) (place, [])).2

def neighbour (d : Showing) (name : String) (number place : Nat) (line : Bytes) : Bytes :=
  if d.onlyMatches then [] else d.heading '-' name number place ++ line ++ [d.mark]

end Showing

structure Numbered where
  number : Nat
  place : Nat
  line : Bytes

def numberedFrom (n place : Nat) : List Bytes → List Numbered
  | [] => []
  | l :: ls => ⟨n, place, l⟩ :: numberedFrom (n + 1) (place + l.length + 1) ls

structure Findings where
  count : Nat := 0
  out : Bytes := []
  shown : Nat := 0
  pending : Nat := 0
  held : List Numbered := []
  hasShown : Bool := false
  taken : Nat := 0

def find (d : Showing) (q : Query) (name : String) (f : Findings) : List Numbered → Findings
  | [] => f
  | l :: ls =>
    let isFull := d.most.any (· ≤ f.count)
    if !isFull && q.selects l.line then
      let before := (f.held.take d.before).reverse
      let first := (before.head?.map (·.number)).getD l.number
      let gap := match d.separator with
        | some s => if f.hasShown && f.shown + 1 < first || (f.hasShown && f.shown = 0) then
            d.paint "36" s ++ [10] else []
        | none => []
      let lines := before.flatMap (fun b => d.neighbour name b.number b.place b.line) ++
        d.hit q name l.number l.place l.line
      find d q name
        { count := f.count + 1, out := f.out ++ gap ++ lines, shown := l.number
          pending := d.after, held := [], hasShown := true
          taken := l.place + l.line.length + 1 } ls
    else if 0 < f.pending then
      find d q name
        { f with
          out := f.out ++ d.neighbour name l.number l.place l.line
          shown := l.number, pending := f.pending - 1 } ls
    else if isFull then f
    else find d q name { f with held := (l :: f.held).take d.before } ls

structure Hunt where
  isQuiet : Bool := false
  isSilent : Bool := false
  counts : Bool := false
  lists : Option Bool := none
  isText : Bool := false
  skipsBinary : Bool := false
  included : List Pattern := []
  excluded : List Pattern := []
  excludedFolders : List Pattern := []

structure Progress where
  result : Result
  hit : Bool := false
  failed : Bool := false
  hasShown : Bool := false
  taken : Option Nat := none

def huntText (c : Call) (h : Hunt) (d : Showing) (q : Query) (name : String) (bs : Bytes)
    (p : Progress) : Progress :=
  let isBinary := bs.contains 0 && !h.isText && d.mark ≠ 0
  if isBinary && h.skipsBinary then p
  else
    let onlyFirst := h.isQuiet || h.lists.isSome
    let d := if onlyFirst then { d with most := some 1 } else d
    let quiet := onlyFirst || h.counts || isBinary
    let f := find d q name { hasShown := p.hasShown } (numberedFrom 1 0 (rows d.mark bs))
    let nameLine := d.paint "35" (bytesOf name) ++ [d.nameEnd.getD 10]
    let out :=
      if h.isQuiet then []
      else match h.lists with
      | some wanted => if (0 < f.count) = wanted then nameLine else []
      | none =>
        if h.counts then
          let plain := { d with numbered := false, placed := false }
          (if d.named then plain.heading ':' name 0 0 else []) ++
            bytesOf (toString f.count ++ "\n")
        else if quiet then [] else f.out
    let r := { p.result with out := p.result.out ++ out }
    let r := if isBinary && 0 < f.count && !onlyFirst && !h.counts then
        { r with complaints := r.complaints ++ [s!"{c.name}: {name}: binary file matches"] }
      else r
    { p with
      result := r
      hit := p.hit || 0 < f.count
      hasShown := f.hasShown
      taken := if d.most.any (· ≤ f.count) then some (min f.taken bs.length) else none }

def filesBelow (disk : Disk) (h : Hunt) : Nat → String → List String
  | 0, _ => []
  | n + 1, file =>
    let base (s : String) : String := ((s.splitOn "/").filter (· ≠ "")).getLastD s
    let isExcluded (ps : List Pattern) (s : String) : Bool := ps.any (·.accepts s.toList)
    (disk.namesIn ⟨if file = "" then "." else file⟩).flatMap fun x =>
      let inner := if file = "" then x
        else if file.endsWith "/" then file ++ x
        else file ++ "/" ++ x
      match disk.findEntry ⟨inner⟩ with
      | .ok (_, .directory) =>
        if isExcluded h.excludedFolders (base inner) then [] else filesBelow disk h n inner
      | .ok (_, .file _) =>
        if isExcluded h.excluded x || (!h.included.isEmpty && !isExcluded h.included x) then []
        else [inner]
      | _ => []

def grepUsage (c : Call) (complaints : List String) : Result :=
  { disk := c.disk, status := 2
    complaints := complaints ++ [s!"Usage: {c.name} [OPTION]... PATTERNS [FILE]...", advice c] }

def grepMenu (name : String) : Arguments.Menu where
  known := "qvcniyEFGPlLoxwshHbazZTUIrR>|V0123456789".toList
  valued := ['e', 'f', 'm', 'A', 'B', 'C', 'd', 'D', '+', '-', '/', '=', '%', '~', '&']
  long := longNames name
  optional := ['?']

def surroundings (a : Arguments) : Except String (Option (Nat × Nat)) := do
  let number (t : String) : Except String Nat :=
    match t.toNat? with
    | some n => .ok n
    | none => .error (t ++ ": invalid context length argument")
  let given (letter : Char) : Except String (Option Nat) :=
    match a.value? letter with
    | some t => (number t).map some
    | none => .ok none
  let digits := (String.ofList (a.flags.filter Char.isDigit).reverse).toNat?
  let around := (← given 'C') <|> digits
  let before := (← given 'B') <|> around
  let after := (← given 'A') <|> around
  if before.isNone && after.isNone then return none
  else return some (before.getD 0, after.getD 0)

def hunt (c : Call) (a : Arguments) (h : Hunt) (d : Showing) (q : Query) (files : List String) :
    Result :=
  let recursive := a.has 'r' || a.has 'R' || a.value? 'd' = some "recurse"
  let isFolder (f : String) : Bool := f ≠ "-" && c.disk.isDirectory ⟨f⟩
  let files := if files.isEmpty then if recursive then [""] else ["-"] else files
  let depth := c.disk.nodes.length + 2
  let named (single : Bool) : Bool :=
    !a.has 'h' && (a.has 'H' || 1 < files.length || single)
  let isExcluded (f : String) : Bool :=
    h.excluded.any (·.accepts f.toList) ||
      (!h.included.isEmpty && !h.included.any (·.accepts f.toList))
  let look (single : Bool) (p : Progress) (f : String) : Progress :=
    if h.isQuiet && p.hit then p
    else match contents c f with
    | .ok bs =>
      let name := if f = "-" then (a.value? '%').getD "(standard input)" else f
      let writes := !h.isQuiet && !h.counts && h.lists.isNone && d.most.all (1 < ·)
      if writes && isOwnOutput c true f then
        let p := { p with failed := true }
        if h.isSilent then p
        else { p with result := complain c p.result 2 s!"{name}: input file is also the output" }
      else huntText c h { d with named := named single } q name bs p
    | .error e =>
      if e = .isDirectory && a.value? 'd' = some "skip" then p
      else
        let p := { p with failed := true }
        if h.isSilent then p else { p with result := complain c p.result 2 s!"{f}: {e.text}" }
  let p := files.foldl (fun (p : Progress) f =>
    if recursive && (f = "" || isFolder f) then (filesBelow c.disk h depth f).foldl (look true) p
    else if isExcluded f then p
    else look false p f) { result := unchanged c }
  let status := if p.hit && (!p.failed || h.isQuiet) then 0 else if p.failed then 2 else 1
  let isOne := files = ["-"]
  { p.result with
    status, tookInput := files.contains "-"
    taken := if isOne && a.has 'q' then none else if isOne then p.taken else none
    isSated := isOne && p.taken.isSome && d.after = 0 }

def grep (c : Call) : Result :=
  match Arguments.parse (grepMenu c.name) c.args with
  | .error f => grepUsage c [s!"{c.name}: {f.message}"]
  | .ok a =>
    let read (f : String) : Except OsError (List String) :=
      (contents c f).map fun bs => (rows 10 bs).map fun l => Text.Utf8.lenient ⟨l.toArray⟩
    let fromFiles := (a.allValues 'f').mapM read
    let split (t : String) : List String := (Text.pieces '\n' t.toList).map String.ofList
    let given := (a.allValues 'e').flatMap split
    let hasPatterns := !(a.allValues 'e').isEmpty || !(a.allValues 'f').isEmpty
    match fromFiles, hasPatterns, a.operands with
    | .error e, _, _ =>
      let missing := ((a.allValues 'f').find? fun f => (read f).toOption.isNone).getD ""
      failing c 2 s!"{missing}: {e.text}"
    | _, false, [] => grepUsage c []
    | .ok texts, _, operands =>
      let (texts, files) := if hasPatterns then (given ++ texts.flatten, operands)
        else (split (operands.headD ""), operands.drop 1)
      let kinds := (['E', 'F', 'G', 'P'].filter a.has).length
      let most : Except String (Option Nat) := match a.value? 'm' with
        | none => .ok none
        | some t =>
          match t.toInt? with
          | some n => .ok (if n < 0 then none else some n.toNat)
          | none => .error "invalid max count"
      let binary := a.value? '&'
      let patterns (letter : Char) : List Pattern := (a.allValues letter).map Pattern.ofText
      if 1 < kinds then failing c 2 "conflicting matchers specified"
      else match most, surroundings a, Query.ofTexts a texts with
      | .error e, _, _ | _, .error e, _ => failing c 2 e
      | _, _, .error f => failing c 2 f.message
      | .ok most, .ok around, .ok q =>
        if binary.any fun t => !(["text", "binary", "without-match"].contains t) then
          failing c 2 "unknown binary-files type"
        else if most = some 0 then { unchanged c with status := 1 }
        else
          let separator := if a.has '>' then none else
            around.map fun _ => bytesOf ((a.value? '~').getD "--")
          let lists := a.lastOf ['l', 'L']
          let d : Showing := {
            numbered := a.has 'n', placed := a.has 'b', tabbed := a.has 'T'
            colored := a.value? '?' = some "always", onlyMatches := a.has 'o'
            before := (around.map (·.1)).getD 0, after := (around.map (·.2)).getD 0
            separator, nameEnd := if a.has 'Z' then some 0 else none, most, mark := a.mark }
          let h : Hunt := {
            isQuiet := a.has 'q', isSilent := a.has 's', counts := a.has 'c'
            lists := lists.map (· = 'l')
            isText := a.has 'a' || binary = some "text"
            skipsBinary := a.has 'I' || binary = some "without-match"
            included := patterns '+', excluded := patterns '-', excludedFolders := patterns '/' }
          let r := hunt c a h d q files
          let marks := if a.has 'E' then
              texts.flatMap fun t => Regular.leadingMarks true (t.length + 1) t.toList
            else []
          let warnings := marks.map fun m => s!"{c.name}: warning: {m} at start of expression"
          { r with complaints := warnings ++ r.complaints }

def grepWith (letter : Char) (c : Call) : Result :=
  grep { c with name := "grep", args := String.ofList ['-', letter] :: c.args }

end Freshen.Shell.Utility
