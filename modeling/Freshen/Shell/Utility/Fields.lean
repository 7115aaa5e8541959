import Freshen.Shell.Utility.Basic
/-! Parts of lines: which bytes or fields are kept, and lines of several files side by side. -/

namespace Freshen.Shell.Utility

namespace Selection

structure Span where
  first : Nat
  last : Option Nat
  deriving DecidableEq, Repr

inductive Fault
  | zero
  | range
  | noEndpoint
  | decreasing
  | stray (text : String)
  | great (digits : String)
  deriving DecidableEq, Repr

def Fault.message (ofFields : Bool) : Fault → String
  | zero => if ofFields then "fields are numbered from 1"
    else "byte/character positions are numbered from 1"
  | range => if ofFields then "invalid field range" else "invalid byte or character range"
  | noEndpoint => "invalid range with no endpoint: -"
  | decreasing => "invalid decreasing range"
  | stray t => (if ofFields then "invalid field value " else "invalid byte/character position ") ++
      quoted t
  | great ds => (if ofFields then "field number " else "byte/character offset ") ++ quoted ds ++
      " is too large"

def limit : Nat := 18446744073709551615

def isSeparator (c : Char) : Bool := c = ',' || c = ' ' || c = '\t'

def span (rest : List Char) (entry : List Char) : Except Fault Span := do
  let number (ds : List Char) : Except Fault (Option Nat) :=
    match (String.ofList ds).toNat? with
    | some n => if n < limit then .ok (some n) else .error (.great (String.ofList ds))
    | none => .ok none
  let ds := entry.takeWhile Char.isDigit
  let a ← number ds
  match entry.drop ds.length with
  | [] =>
    match a with
    | some (n + 1) => return ⟨n + 1, some (n + 1)⟩
    | _ => throw .zero
  | '-' :: r =>
    if a = some 0 then throw .zero
    let es := r.takeWhile Char.isDigit
    let b ← number es
    match r.drop es.length with
    | [] =>
      match a, b with
      | none, none => throw .noEndpoint
      | some n, some m => if m < n then throw .decreasing else return ⟨n, some m⟩
      | none, some m => if m < 1 then throw .decreasing else return ⟨1, some m⟩
      | some n, none => return ⟨n, none⟩
    | '-' :: _ => throw .range
    | s => throw (.stray (String.ofList (s ++ rest)))
  | s => throw (.stray (String.ofList (s ++ rest)))

def spans : Nat → List Char → Except Fault (List Span)
  | 0, _ => .ok []
  | n + 1, cs => do
    let entry := cs.takeWhile (!isSeparator ·)
    let rest := cs.drop entry.length
    let s ← span rest entry
    match rest with
    | [] => return [s]
    | _ :: r => return s :: (← spans n r)

def merged : List Span → List Span
  | s :: t :: r =>
    match s.last with
    | none => [s]
    | some m =>
      if t.first ≤ m then
        merged (⟨s.first, t.last.map (max m)⟩ :: r)
      else s :: merged (t :: r)
  | ss => ss
  termination_by ss => ss.length

def complement (next : Nat) : List Span → List Span
  | [] => [⟨next, none⟩]
  | s :: r =>
    (if next < s.first then [⟨next, some (s.first - 1)⟩] else []) ++
      match s.last with
      | some m => complement (m + 1) r
      | none => []

def ofText (inverted : Bool) (text : String) : Except Fault (List Span) := do
  let ss ← spans (text.length + 1) text.toList
  let ss := merged (ss.mergeSort fun s t => s.first ≤ t.first)
  return if inverted then complement 1 ss else ss

def parts (ss : List Span) (xs : List α) : List (List α) :=
  (ss.map fun s =>
    let from_ := xs.drop (s.first - 1)
    match s.last with
    | some m => from_.take (m + 1 - s.first)
    | none => from_).filter (!·.isEmpty)

end Selection

structure Cut where
  spans : List Selection.Span
  ofFields : Bool
  delimiter : UInt8 := 9
  output : Option Bytes := none
  onlyDelimited : Bool := false

def Cut.line (k : Cut) (l : Bytes) : Option Bytes :=
  let joined (gap : Bytes) (ps : List Bytes) : Bytes :=
    match ps with
    | [] => []
    | p :: ps => p ++ ps.flatMap (gap ++ ·)
  if k.ofFields then
    let fs := Text.pieces k.delimiter l
    if fs.length = 1 then if k.onlyDelimited then none else some l
    else some (joined (k.output.getD [k.delimiter]) (Selection.parts k.spans fs).flatten)
  else some (joined (k.output.getD []) (Selection.parts k.spans l))

def cut (c : Call) : Result :=
  withArguments ['s', 'n', 'z', '!'] ['d', 'f', 'c', 'b', '>'] c fun a =>
    let lists := (['f', 'c', 'b'].flatMap a.allValues)
    let delimiter? := (a.value? 'd').map bytesOf
    let ofFields := (a.value? 'f').isSome
    match lists with
    | [] =>
      if delimiter?.any (1 < ·.length) then
        misuse c 1 "the delimiter must be a single character"
      else misuse c 1 "you must specify a list of bytes, characters, or fields"
    | _ :: _ :: _ => misuse c 1 "only one list may be specified"
    | [list] =>
      if delimiter?.any (1 < ·.length) then
        misuse c 1 "the delimiter must be a single character"
      else if !ofFields && delimiter?.isSome then
        misuse c 1 "an input delimiter may be specified only when operating on fields"
      else if !ofFields && a.has 's' then
        misuse c 1 "suppressing non-delimited lines makes sense\n\tonly when operating on fields"
      else match Selection.ofText (a.has '!') list with
      | .error f => misuse c 1 (f.message ofFields)
      | .ok spans =>
        let output := (a.value? '>').map fun t => if t = "" then [0] else bytesOf t
        let k : Cut := {
          spans, ofFields, output
          delimiter := (delimiter?.map (·.headD 0)).getD 9
          onlyDelimited := a.has 's' }
        eachFile c a.operands plainFault fun bs => closed a.mark ((rows a.mark bs).filterMap k.line)

def gaps : List Char → Option (List Bytes)
  | [] => some []
  | ['\\'] => none
  | '\\' :: x :: r =>
    let gap : Bytes := match x with
      | '0' => []
      | 'n' => [10]
      | 't' => [9]
      | 'b' => [8]
      | 'f' => [12]
      | 'r' => [13]
      | 'v' => [11]
      | x => bytesOf x.toString
    (gaps r).map (gap :: ·)
  | x :: r => (gaps r).map (bytesOf x.toString :: ·)

def withGaps (gs : List Bytes) (ps : List Bytes) : Bytes :=
  (ps.zipIdx).flatMap fun (p, i) =>
    if i = 0 then p else gs.getD ((i - 1) % max gs.length 1) [] ++ p

def dealt (count place : Nat) (ls : List Bytes) : List Bytes :=
  (ls.zipIdx.filter fun e => e.2 % count = place).map (·.1)

def sideBySide (mark : UInt8) (gs : List Bytes) (columns : List (List Bytes)) : Bytes :=
  let height := (columns.map List.length).foldl max 0
  (List.range height).flatMap fun i =>
    withGaps gs (columns.map fun ls => ls.getD i []) ++ [mark]

def paste (c : Call) : Result :=
  withArguments ['s', 'z'] ['d'] c fun a =>
    let text := (a.value? 'd').getD "\t"
    match gaps (if text = "" then ['\\', '0'] else text.toList) with
    | none =>
      failing c 1 ("delimiter list ends with an unescaped backslash: " ++ text)
    | some gs =>
      let files := inputs c a.operands
      let r : Result := { disk := c.disk, tookInput := readsInput a.operands }
      let missing := files.find? fun e => !(e.2 matches .ok _) && !(e.2 matches .error .isDirectory)
      if a.has 's' then
        files.foldl (fun (r : Result) e =>
          match e.2 with
          | .ok bs => { r with out := r.out ++ withGaps gs (rows a.mark bs) ++ [a.mark] }
          | .error x => complain c r 1 (plainFault e.1 x)) r
      else match missing with
      | some (f, .error e) => failing c 1 (plainFault f e)
      | _ =>
        let piped := files.countP (·.1 = "-")
        let columns := (files.zipIdx).map fun (e, i) =>
          let ls := rows a.mark ((e.2.toOption).getD [])
          if e.1 = "-" then dealt piped ((files.take i).countP (·.1 = "-")) ls else ls
        let r := files.foldl (fun (r : Result) e =>
          match e.2 with
          | .ok _ => r
          | .error x => complain c r 1 (plainFault e.1 x)) r
        { r with out := sideBySide a.mark gs columns }

end Freshen.Shell.Utility
