import Freshen.Shell.Grammar
import Freshen.Shell.Process
import Freshen.Text.Utf8
/-! From words to arguments: parameters, commands and sums are replaced by their values, the
results are split into fields, and patterns become names of files. -/

namespace Freshen.Shell

inductive Origin
  | typed
  | quoted
  | fresh
  deriving DecidableEq, Repr

inductive Glyph
  | char (c : Char) (o : Origin)
  | anchor
  | cut
  deriving DecidableEq, Repr

inductive Content
  | one (v : Option String)
  | many (vs : List String) (joins : Bool)

namespace Content

def isSet : Content → Bool
  | one v => v.isSome
  | many vs _ => !vs.isEmpty

def isEmpty : Content → Bool
  | one v => v.getD "" = ""
  | many vs _ => vs.all (· = "")

def map (f : String → String) : Content → Content
  | one v => one (some (f (v.getD "")))
  | many vs joins => many (vs.map f) joins

end Content

namespace Expansion

open Run

structure Means where
  capture : Command → Run Bytes
  channel : Command → Bool → Run String

def glyphs (o : Origin) (s : String) : List Glyph := s.toList.map (.char · o)

def inserted (inQuotes : Bool) (s : String) : List Glyph :=
  if inQuotes then .anchor :: glyphs .quoted s else glyphs .fresh s

def text (gs : List Glyph) : String :=
  String.ofList (gs.filterMap fun g => match g with
    | .char c _ => some c
    | .anchor => none
    | .cut => some ' ')

def pattern (d : Dialect) (gs : List Glyph) : Pattern :=
  let p : Pattern := gs.filterMap fun g => match g with
    | .char c o => some ⟨c, o == .quoted⟩
    | _ => none
  if d = .bash then p.withCarets else p

def loosened (g : Glyph) : Glyph :=
  match g with
  | .char c .typed => .char c .fresh
  | g => g

def arranged (c : Context) (inQuotes joins : Bool) (vs : List String) : List Glyph :=
  if inQuotes && joins then
    inserted true (((c.separators.head?.map Char.toString).getD "").intercalate vs)
  else (vs.map (inserted inQuotes)).intersperse [.cut] |>.flatten

def shown (c : Context) (inQuotes : Bool) : Content → List Glyph
  | .one v => inserted inQuotes (v.getD "")
  | .many vs joins => arranged c inQuotes joins vs

def refuse (text : String) : Run α := do
  let c ← get
  fatal (match c.dialect with
    | .dash => 2
    | .bash => if c.isSubshell || c.settings.stopAtFailure then 1 else 127) text

def refuseOnce (text : String) : Run α := do
  fatal (if (← get).dialect = .dash then 2 else 1) text

def readonlyText (d : Dialect) (x : String) : String :=
  match d with
  | .dash => x ++ ": is read only"
  | .bash => x ++ ": readonly variable"

def assign (x value : String) : Run Unit := do
  let c ← get
  let name := String.ofList (x.toList.takeWhile (· ≠ '['))
  if c.isReadonly name then refuseOnce (readonlyText c.dialect name)
  else set (c.assignPlace x value)

def evaluate (t : String) : Run Int := do
  let c ← get
  match Arithmetic.evaluate c.dialect c.parameter? t with
  | .ok (v, assigned) =>
    for (x, n) in assigned do assign x (toString n)
    return v
  | .error e => refuseOnce (e.message t)

def sum (t : String) : Run String := return toString (← evaluate t)

def homeOf (c : Context) (name : String) : Option String :=
  if name = "" then c.valueOf? "HOME"
  else if name = "root" then some "/root"
  else if c.dialect = .bash && name = "+" then some c.place
  else if c.dialect = .bash && name = "-" then c.valueOf? "OLDPWD"
  else none

def tilde (c : Context) (inAssignment : Bool) (w : Word) : Word :=
  match w with
  | .literal s :: rest =>
    match s.toList with
    | '~' :: r =>
      let ends (c : Char) : Bool := c = '/' || (inAssignment && c = ':')
      let name := r.takeWhile (!ends ·)
      let after := r.drop name.length
      if after.isEmpty && !rest.isEmpty then w
      else match homeOf c (String.ofList name) with
      | some home => .quoted home :: .literal (String.ofList after) :: rest
      | none => w
    | _ => w
  | _ => w

def tildes (c : Context) (w : Word) : Word :=
  match w with
  | [.literal s] =>
    let pieces := Text.pieces ':' s.toList
    (pieces.map fun p => tilde c true [.literal (String.ofList p)]).intersperse [.literal ":"]
      |>.flatten
  | w => tilde c true w

inductive Atom
  | char (c : Char)
  | part (p : Part)

def atoms (w : Word) : List Atom :=
  w.flatMap fun p => match p with
    | .literal s => s.toList.map Atom.char
    | p => [Atom.part p]

def ofAtoms (as : List Atom) : Word :=
  as.foldr (fun a w => match a, w with
    | .char c, .literal s :: w => .literal (c.toString ++ s) :: w
    | .char c, w => .literal c.toString :: w
    | .part p, w => p :: w) []

def choices : Nat → Nat → List Atom → List Atom → List (List Atom) →
    Option (List (List Atom) × List Atom)
  | 0, _, _, _, _ | _, _, [], _, _ => none
  | n + 1, depth, a :: as, piece, done =>
    match a, depth with
    | .char '\x7d', 0 => some ((piece.reverse :: done).reverse, as)
    | .char '\x7d', depth + 1 => choices n depth as (a :: piece) done
    | .char '\x7b', depth => choices n (depth + 1) as (a :: piece) done
    | .char ',', 0 => choices n 0 as [] (piece.reverse :: done)
    | a, depth => choices n depth as (a :: piece) done

def plainText? (as : List Atom) : Option String :=
  (as.mapM fun (a : Atom) => match a with
    | .char c => some c
    | .part _ => none).map String.ofList

def range? (s : String) : Option (List String) :=
  let steps (a b : Int) (step : Int) (f : Int → String) : List String :=
    let step : Nat := if step = 0 then 1 else step.natAbs
    let count := (b - a).natAbs / step
    (List.range (count + 1)).map fun (i : Nat) => f (if a ≤ b then a + step * i else a - step * i)
  let number? (t : String) : Option Int := if t.startsWith "+" then none else t.toInt?
  let between (a b : String) (step : Int) : Option (List String) :=
    match number? a, number? b, a.toList, b.toList with
    | some x, some y, _, _ =>
      let digits (t : String) : List Char := t.toList.filter Char.isDigit
      let isPadded (t : String) : Bool := (digits t).length > 1 && (digits t).head? = some '0'
      let width := if isPadded a || isPadded b then max a.length b.length else 0
      some (steps x y step fun n =>
        let sign := if n < 0 then "-" else ""
        sign ++ Floating.padded (width - sign.length) n.natAbs)
    | none, none, [x], [y] =>
      if x.isAlpha && y.isAlpha then
        some (steps x.toNat y.toNat step fun n => (Char.ofNat n.toNat).toString)
      else none
    | _, _, _, _ => none
  match s.splitOn ".." with
  | [a, b] => between a b 1
  | [a, b, step] => (number? step).bind (between a b)
  | _ => none

def braced : Nat → List Atom → List (List Atom)
  | 0, as => [as]
  | _, [] => [[]]
  | n + 1, a :: as =>
    let plain : List (List Atom) := (braced n as).map (a :: ·)
    match a with
    | .char '\x7b' =>
      match choices (as.length + 1) 0 as [] [] with
      | none => plain
      | some (pieces, after) =>
        match pieces with
        | [one] =>
          match (plainText? one).bind range? with
          | some words =>
            let rests := braced n after
            words.flatMap fun w => rests.map fun r => w.toList.map Atom.char ++ r
          | none => plain
        | pieces =>
          let rests := braced n after
          (pieces.flatMap (braced n)).flatMap fun p => rests.map fun r => p ++ r
    | _ => plain

def braces (d : Dialect) (w : Word) : List Word :=
  let hasBrace := d = .bash && w.any fun p => match p with
    | .literal s => s.toList.contains '\x7b'
    | _ => false
  if hasBrace then
    let as := atoms w
    (braced (as.length + 1) as).map ofAtoms
  else [w]

def replaceIn (p : Pattern) (new : List Char) (every : Bool) : Nat → List Char → List Char
  | 0, cs => cs
  | n + 1, cs =>
    let lengths := (List.range (cs.length + 1)).reverse
    match lengths.find? fun k => 0 < k && p.accepts (cs.take k) with
    | some k =>
      new ++ if every then replaceIn p new every n (cs.drop k) else cs.drop k
    | none =>
      match cs with
      | [] => []
      | c :: r => c :: replaceIn p new every n r

def replace (spot : Spot) (p : Pattern) (new : String) (s : String) : String :=
  let cs := s.toList
  let new := new.toList
  if p.isEmpty then s
  else String.ofList (match spot with
    | .first => replaceIn p new false (cs.length + 1) cs
    | .every => replaceIn p new true (cs.length + 1) cs
    | .beginning =>
      let rest := p.trim false true cs
      if rest.length < cs.length || p.accepts [] then new ++ rest else cs
    | .ending =>
      let rest := p.trim true true cs
      if rest.length < cs.length || p.accepts [] then rest ++ new else cs)

def sliceOf (xs : List α) (first : Int) (count : Option Int) : Option (List α) :=
  let size : Int := xs.length
  let start := if first < 0 then first + size else first
  if start < 0 || start > size then some []
  else
    let rest := xs.drop start.toNat
    match count with
    | none => some rest
    | some k =>
      if 0 ≤ k then some (rest.take k.toNat)
      else
        let stop := size + k - start
        if stop < 0 then none else some (rest.take stop.toNat)

def cased (upper all : Bool) (p : Pattern) (s : String) : String :=
  let turn (c : Char) : Char :=
    if p.isEmpty || p.accepts [c] then if upper then c.toUpper else c.toLower else c
  match s.toList with
  | [] => s
  | c :: cs => String.ofList (turn c :: if all then cs.map turn else cs)

def requoted (s : String) : String :=
  if s.toList.any fun c => c.toNat < 32 then Printf.shellQuoted s
  else "'" ++ String.join (s.toList.map fun c => if c = '\'' then "'\\''" else c.toString) ++ "'"

def operated (letter : Char) (s : String) : String :=
  match letter with
  | 'U' => s.toUpper
  | 'u' => cased true false [] s
  | 'L' => s.toLower
  | 'Q' => requoted s
  | _ => s

def captured (bs : Bytes) : String :=
  let bs := (bs.reverse.dropWhile (· = 10)).reverse
  Text.Utf8.lenient ⟨(bs.filter (· ≠ 0)).toArray⟩

section
variable (m : Means)

mutual

def word (n : Nat) (w : Word) : Run (List Glyph) := do
  match n, w with
  | 0, _ | _, [] => return []
  | n + 1, [p] => part n p
  | n + 1, p :: ps =>
    let gs ← part n p
    return gs ++ (← word n ps)

def part (n : Nat) (p : Part) : Run (List Glyph) := do
  match n with
  | 0 => return []
  | n + 1 =>
    match p with
    | .literal s => return glyphs .typed s
    | .quoted s => return .anchor :: glyphs .quoted s
    | .command c inQuotes => return inserted inQuotes (captured (← m.capture c))
    | .channel c reads => return inserted true (← m.channel c reads)
    | .arithmetic w inQuotes => return inserted inQuotes (← sum (text (← word n w)))
    | .parameter name index change inQuotes =>
      match change with
      | .unknown t =>
        let c ← get
        if c.dialect = .dash then refuseOnce "Bad substitution"
        else
          let shown := "$\x7b" ++ t ++ "\x7d"
          refuseOnce s!"{shown}: bad substitution"
      | .names =>
        let c ← get
        let keys : List String := match index with
          | some _ => ((c.binding? name).map fun v => v.asArray.elements.map (·.1)).getD []
          | none =>
            ((c.bindings.map (·.1)).filter (·.startsWith name)).mergeSort
              fun a b => (compare a b).isLE
        return arranged c inQuotes false keys
      | .indirect change =>
        match index with
        | some i =>
          let c ← get
          let keys := ((c.binding? name).map fun v => v.asArray.elements.map (·.1)).getD []
          let joins := Word.typed i = "*"
          return arranged c inQuotes joins keys
        | none =>
          let c ← get
          let target := (c.parameter? name).getD ""
          if target = "" then refuseOnce s!"{name}: invalid indirect expansion"
          changed n target (← contentOf n target none) change inQuotes
      | change => changed n name (← contentOf n name index) change inQuotes

def contentOf (n : Nat) (name : String) (index : Option Word) : Run Content := do
  match n with
  | 0 => return .one none
  | n + 1 =>
    let c ← get
    match index with
    | none =>
      match name with
      | "@" => return .many c.args false
      | "*" => return .many c.args true
      | name => return .one (c.parameter? name)
    | some i =>
      let key := Word.typed i
      let v := (c.binding? name).getD {}
      let elements := if name = "PIPESTATUS" then
          c.pipeStatuses.mapIdx fun i s => (toString i, toString s)
        else v.asArray.elements
      if (key = "@" || key = "*") && i.length = 1 then
        return .many (elements.map (·.2)) (key = "*")
      else
        let t := text (← word n i)
        let key ← if v.isKeyed then pure t
          else
            let k ← evaluate t
            pure (toString (if k < 0 then v.nextKey + k else k))
        return .one (Keyed.get? elements key)

def changed (n : Nat) (name : String) (value : Content) (change : Change) (inQuotes : Bool) :
    Run (List Glyph) := do
  match n with
  | 0 => return []
  | n + 1 =>
    let c ← get
    let demand : Run Content := do
      match value with
      | .one none =>
        if c.settings.refuseUnset && name ≠ "!" then
          refuse (match c.dialect with
            | .dash => s!"{name}: parameter not set"
            | .bash => s!"{name}: unbound variable")
        else return value
      | v => return v
    match change with
    | .asIs => return shown c inQuotes (← demand)
    | .length =>
      match value with
      | .many vs _ =>
        let count := if c.dialect = .dash then (" ".intercalate vs).utf8ByteSize else vs.length
        return inserted inQuotes (toString count)
      | _ =>
        match ← demand with
        | .one v => return inserted inQuotes (toString (v.getD "").utf8ByteSize)
        | .many vs _ => return inserted inQuotes (toString vs.length)
    | .trimmed suffix longest w =>
      let v ← demand
      let p := pattern c.dialect (← word n w)
      let c ← get
      return shown c inQuotes (v.map fun s => String.ofList (p.trim suffix longest s.toList))
    | .replaced spot w new =>
      let v ← demand
      let p := pattern c.dialect (← word n w)
      let new := text (← word n (tilde c false new))
      let c ← get
      return shown c inQuotes (v.map (replace spot p new))
    | .cased upper all w =>
      let v ← demand
      let p := pattern c.dialect (← word n w)
      return shown c inQuotes (v.map (cased upper all p))
    | .operation letter => return shown c inQuotes ((← demand).map (operated letter))
    | .slice first count =>
      let v ← demand
      let i ← evaluate (text (← word n first))
      let k ← match count with
        | some w => pure (some (← evaluate (text (← word n w))))
        | none => pure none
      let c ← get
      match v with
      | .one v =>
        match sliceOf (v.getD "").toList i k with
        | some cs => return inserted inQuotes (String.ofList cs)
        | none => refuseOnce s!"{k.getD 0}: substring expression < 0"
      | .many vs joins =>
        let vs := if (name = "@" || name = "*") && i = 0 then c.name :: vs else vs
        let i := if (name = "@" || name = "*") && 0 < i then i - 1 else i
        match sliceOf vs i k with
        | some vs => return arranged c inQuotes joins vs
        | none => refuseOnce s!"{k.getD 0}: substring expression < 0"
    | .fallback o colon w =>
      let isSet := value.isSet && !(colon && value.isEmpty)
      let other : Run (List Glyph) := do
        let c ← get
        return (← word n (if inQuotes then w else tilde c false w)).map loosened
      if o = '+' then if isSet then other else return if inQuotes then [.anchor] else []
      else if isSet then return shown c inQuotes value
      else if o = '-' then
        let gs ← other
        return if inQuotes then .anchor :: gs else gs
      else
        let v := text (← other)
        if o = '=' then
          if !isName name.toList then
            if c.dialect = .dash then refuse s!"{name}: bad variable name"
            else refuseOnce s!"${name}: cannot assign in this way"
          assign name v
          return inserted inQuotes v
        else
          refuse (name ++ ": " ++ if v ≠ "" then v
            else if !colon then "parameter not set"
            else if c.dialect = .dash then "parameter not set or null"
            else "parameter null or not set")
    | _ => return []

end

end

structure Split where
  fields : List Pattern := []
  current : Option Pattern := none
  afterBlank : Bool := false

namespace Split

def close (f : Split) : Split :=
  match f.current with
  | some p => { f with fields := p :: f.fields, current := none }
  | none => f

def add (f : Split) (m : Mark) : Split :=
  { f with current := some (m :: f.current.getD []), afterBlank := false }

def step (separators : List Char) (f : Split) : Glyph → Split
  | .anchor => { f with current := some (f.current.getD []), afterBlank := false }
  | .cut => { f.close with afterBlank := false }
  | .char c .fresh =>
    if !separators.contains c then f.add ⟨c, false⟩
    else if c.isWhitespace then
      { f.close with afterBlank := f.afterBlank || f.current.isSome }
    else if f.afterBlank then { f with afterBlank := false }
    else { f with fields := f.current.getD [] :: f.fields, current := none }
  | .char c o => f.add ⟨c, o == .quoted⟩

end Split

def split (separators : List Char) (gs : List Glyph) : List Pattern :=
  ((gs.foldl (Split.step separators) {}).close.fields.map List.reverse).reverse

def names (c : Context) (d : Disk) (p : Pattern) : List String :=
  if c.settings.plainNames || !p.isWild then [p.text]
  else
    let q := if c.dialect = .bash then p.withCarets else p
    match q.paths d with
    | [] => if c.settings.extras.contains "nullglob" then [] else [p.text]
    | ps => ps

def depth : Nat := 1000

def fieldsOf (m : Means) (w : Word) : Run (List String) := do
  let gs ← word m depth (tilde (← get) false w)
  let c ← get
  let d ← disk
  return (split c.separators gs).flatMap (names c d)

def fields (m : Means) : List Word → Run (List String)
  | [] => return []
  | w :: ws => do
    let d := (← get).dialect
    let mut fs := []
    for v in braces d w do fs := fs ++ (← fieldsOf m v)
    return fs ++ (← fields m ws)

def whole (m : Means) (w : Word) : Run String := do
  return text (← word m depth (tilde (← get) false w))

def assigned (m : Means) (w : Word) : Run String := do
  let c ← get
  let gs ← word m depth (tildes c w)
  if c.dialect = .dash then
    let sep := c.separators.head?
    return String.ofList (gs.filterMap fun g => match g with
      | .char c _ => some c
      | .anchor => none
      | .cut => sep)
  else return text gs

def declared (m : Means) (ws : List Word) : Run (List String) := do
  let d := (← get).dialect
  let mut fs := []
  for w in ws do
    match Grammar.assignment? d w with
    | some (.value name none appends v) =>
      fs := fs ++ [name ++ (if appends then "+=" else "=") ++ (← assigned m v)]
    | _ => fs := fs ++ (← fields m [w])
  return fs

def patternOf (m : Means) (w : Word) : Run Pattern := do
  let d := (← get).dialect
  return pattern d (← word m depth (tilde (← get) false w))

end Expansion
end Freshen.Shell
