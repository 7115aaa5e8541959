import Freshen.Shell.Binding
import Freshen.Shell.Builtin.Basic
import Freshen.Shell.Duration
/-! Commands that read lines into variables. -/

namespace Freshen.Shell.Builtin

open Run

structure Read where
  char : Char
  isEscaped : Bool := false
  deriving DecidableEq, Repr

namespace Read

def isSeparator (separators : List Char) (r : Read) : Bool :=
  !r.isEscaped && separators.contains r.char

def isWhite (separators : List Char) (r : Read) : Bool :=
  r.isSeparator separators && (r.char = ' ' || r.char = '\t' || r.char = '\n')

def text (rs : List Read) : String := String.ofList (rs.map (·.char))

def unescaped : List Char → List Read
  | '\\' :: c :: r => ⟨c, true⟩ :: unescaped r
  | ['\\'] => []
  | c :: r => ⟨c, false⟩ :: unescaped r
  | [] => []

def field (separators : List Char) (rs : List Read) : List Read × List Read :=
  let rs := rs.dropWhile (isWhite separators)
  let f := rs.takeWhile (!isSeparator separators ·)
  let after := (rs.drop f.length).dropWhile (isWhite separators)
  let after := match after with
    | r :: more =>
      if r.isSeparator separators then more.dropWhile (isWhite separators) else after
    | [] => []
  (f, after)

def remainder (separators : List Char) (rs : List Read) : List Read :=
  let rs := rs.dropWhile (isWhite separators)
  let rs := (rs.reverse.dropWhile (isWhite separators)).reverse
  let (f, after) := field separators rs
  if after.isEmpty then f else rs

def fields (separators : List Char) : List String → List Read → List (String × String)
  | [], _ => []
  | [x], rs => [(x, text (remainder separators rs))]
  | x :: xs, rs =>
    let (f, rs) := field separators rs
    (x, text f) :: fields separators xs rs

def allFields (separators : List Char) : Nat → List Read → List String
  | 0, _ => []
  | n + 1, rs =>
    if (rs.dropWhile (isWhite separators)).isEmpty then []
    else
      let (f, rs) := field separators rs
      text f :: allFields separators n rs

end Read

structure Portion where
  delimiter : Option UInt8
  count : Option Nat := none
  latest : Option Int := none

namespace Portion

def size (p : Portion) (bs : Bytes) : Nat :=
  let limited := match p.count with
    | some n =>
      let text := (Text.Utf8.lenient ⟨bs.toArray⟩).toList.take n
      (String.ofList text).utf8ByteSize
    | none => bs.length
  match p.delimiter with
  | none => limited
  | some d => min limited ((bs.takeWhile (· ≠ d)).length + 1)

def isComplete (p : Portion) (bs : Bytes) : Bool :=
  p.delimiter.any bs.contains ||
    p.count.any (· ≤ (Text.Utf8.lenient ⟨bs.toArray⟩).toList.length)

def read (p : Portion) (descriptor : Nat) : Run (Option (List Char × Bool)) := do
  match ← takeBy p.isComplete p.size p.latest descriptor with
  | none => return none
  | some bs =>
    let complete := p.isComplete bs
    let bs := if p.delimiter.isSome && bs.getLast? = p.delimiter then bs.dropLast else bs
    let bs := bs.filter (· ≠ 0)
    return some ((Text.Utf8.lenient ⟨bs.toArray⟩).toList, complete)

end Portion

def endsWithEscape (cs : List Char) : Bool :=
  ((cs.reverse.takeWhile (· = '\\')).length) % 2 = 1

def readLine (raw : Bool) (p : Portion) (descriptor : Nat) : Run (Option (List Char × Bool)) :=
  iterate ([] : List Char) fun before => do
    match ← p.read descriptor with
    | none => return .done none
    | some (cs, complete) =>
      if !raw && complete && p.delimiter = some 10 && p.count.isNone && endsWithEscape cs then
        return .again (before ++ cs.dropLast)
      else return .done (some (before ++ cs, complete))

def assignRead (command : String) (values : List (String × String)) : Run Bool := do
  for (x, v) in values do
    let c ← get
    match Binding.fault? c (Binding.place x).1 with
    | some text =>
      match c.dialect with
      | .dash => remark 2 s!"{command}: {text}"
      | .bash => remark 1 text
      return false
    | none => Binding.force (Binding.place x).1 (Binding.place x).2 false v
  return true

def read : Action := fun args => do
  let c ← get
  let isDash := c.dialect = .dash
  withOptions "read" (if isDash then "r" else "rse") (if isDash then "p" else "adinNptu") args
    fun o => do
    let names := o.operands
    let invalid := names.find? fun x => !Binding.isPlace c.dialect x
    if isDash && names.isEmpty then remark 2 "read: arg count"
    else match invalid with
    | some x =>
      match c.dialect with
      | .dash => remark 2 s!"read: {x}: bad variable name"
      | .bash => remark 1 s!"read: \x60{x}': not a valid identifier"
    | none =>
      let descriptor := ((o.value? 'u').bind String.toNat?).getD 0
      if (c.stream? descriptor).isNone then
        if isDash then setStatus 1
        else remark 1 s!"read: {descriptor}: invalid file descriptor: Bad file descriptor"
      else
        let count := ((o.value? 'N') <|> (o.value? 'n')).bind String.toNat?
        let delimiter : Option UInt8 :=
          if o.has 'N' then none
          else match o.value? 'd' with
          | some d => some (((bytesOf d).head?).getD 0)
          | none => some 10
        let seconds := (o.value? 't').map fun t => (Duration.ofText? t).getD 0
        let now := (← world).disk.clock
        let latest := seconds.map fun n => now + n
        match ← readLine (o.has 'r') ⟨delimiter, count, latest⟩ descriptor with
        | none => setStatus 142
        | some (cs, complete) =>
          let rs := if o.has 'r' then cs.map (⟨·, false⟩) else Read.unescaped cs
          let c ← get
          let fine ← match o.value? 'a' with
            | some x =>
              let values := Read.allFields c.separators (rs.length + 1) rs
              Binding.forceList x false (values.map (none, ·))
              pure true
            | none =>
              if names.isEmpty then assignRead "read" [("REPLY", Read.text rs)]
              else if o.has 'N' then
                assignRead "read" ((names.headD "", Read.text rs) :: (names.drop 1).map (·, ""))
              else assignRead "read" (Read.fields c.separators names rs)
          if fine then setStatus (if complete then 0 else 1)

def mapfile (name : String) : Action := fun args => do
  withOptions name "t" "dnOsuCc" args fun o => do
    let x := o.operands.headD "MAPFILE"
    let descriptor := ((o.value? 'u').bind String.toNat?).getD 0
    let bs ← drain descriptor
    let d : UInt8 := match o.value? 'd' with
      | some t => ((bytesOf t).head?).getD 0
      | none => 10
    let pieces := Text.pieces d bs
    let pieces := (pieces.dropLast.map (·, true)) ++
      ((pieces.getLast?.filter (!·.isEmpty)).map (·, false)).toList
    let lines := pieces.map fun (l, ended) =>
      Text.Utf8.lenient ⟨((if ended && !o.has 't' then l ++ [d] else l).filter (· ≠ 0)).toArray⟩
    let lines := lines.drop (((o.value? 's').bind String.toNat?).getD 0)
    let lines := match (o.value? 'n').bind String.toNat? with
      | some (n + 1) => lines.take (n + 1)
      | _ => lines
    Binding.forceList x false (lines.map (none, ·))
    done

end Freshen.Shell.Builtin
