import Freshen.Shell.Checksum.Block
import Freshen.Shell.Utility.Text
/-! Copying a file by blocks: which of them, where to, and changed on the way. -/

namespace Freshen.Shell.Utility

structure BlockCopy where
  source : Option String := none
  target : Option String := none
  inputSize : Nat := 512
  outputSize : Nat := 512
  isEven : Bool := false
  count : Option Nat := none
  skipped : Nat := 0
  sought : Nat := 0
  changes : List String := []
  flags : List String := []
  report : String := ""

namespace BlockCopy

inductive Fault
  | operand (text : String)
  | number (text : String)
  | conversion (text : String)
  | flag (what text : String)
  | level (text : String)
  | both (one other : String)
  deriving DecidableEq, Repr

def Fault.isMisuse : Fault → Bool
  | operand _ | conversion _ | flag .. | level _ => true
  | number _ | both .. => false

def Fault.message : Fault → String
  | operand t => s!"unrecognized operand {quoted t}"
  | number t => s!"invalid number: {quoted t}"
  | conversion t => s!"invalid conversion: {quoted t}"
  | flag what t => s!"invalid {what} flag: {quoted t}"
  | level t => s!"invalid status level: {quoted t}"
  | both x y => s!"cannot combine {x} and {y}"

def number (text : String) : Except Fault Nat :=
  match (text.splitOn "x").mapM fun t => if t = "c" then none else scaled? t with
  | some ns => .ok (ns.foldl (· * ·) 1)
  | none => .error (.number text)
where
  scaled? (t : String) : Option Nat :=
    match t.toList.getLast? with
    | some 'c' => (t.dropEnd 1).toString.toNat?
    | some 'w' => ((t.dropEnd 1).toString.toNat?).map (· * 2)
    | some 'B' => ((t.dropEnd 1).toString.toNat?).or (scaledNumber? t)
    | _ => scaledNumber? t

def positive (text : String) : Except Fault Nat :=
  match number text with
  | .ok 0 => .error (.number text)
  | r => r

def conversions : List String :=
  ["lcase", "ucase", "notrunc", "sync", "swab", "excl", "nocreat", "noerror", "fsync", "fdatasync",
    "sparse", "block", "unblock", "ascii", "ebcdic", "ibm"]

def allFlags : List String :=
  ["append", "direct", "directory", "dsync", "sync", "fullblock", "nonblock", "noatime", "nocache",
    "noctty", "nofollow", "count_bytes", "skip_bytes", "seek_bytes"]

def words (make : String → Fault) (known : List String) (text : String) :
    Except Fault (List String) :=
  (text.splitOn ",").mapM fun w => if known.contains w then .ok w else .error (make w)

def operand (k : BlockCopy) (text : String) : Except Fault BlockCopy :=
  match text.splitOn "=" with
  | [_] | [] => .error (.operand text)
  | name :: values =>
    let v := "=".intercalate values
    match name with
    | "if" => .ok { k with source := some v }
    | "of" => .ok { k with target := some v }
    | "bs" => (positive v).map fun n => { k with inputSize := n, outputSize := n, isEven := true }
    | "ibs" => (positive v).map fun n => { k with inputSize := n }
    | "obs" => (positive v).map fun n => { k with outputSize := n }
    | "cbs" => (positive v).map fun _ => k
    | "count" => (number v).map fun n => { k with count := some n }
    | "skip" | "iseek" => (number v).map fun n => { k with skipped := n }
    | "seek" | "oseek" => (number v).map fun n => { k with sought := n }
    | "conv" =>
      (words .conversion conversions v).map fun ws => { k with changes := k.changes ++ ws }
    | "iflag" => (words (.flag "input") allFlags v).map fun _ => k
    | "oflag" => (words (.flag "output") allFlags v).map fun ws => { k with flags := k.flags ++ ws }
    | "status" =>
      if ["none", "noxfer", "progress"].contains v then .ok { k with report := v }
      else .error (.level v)
    | _ => .error (.operand text)

def ofOperands (ws : List String) : Except Fault BlockCopy := do
  let k ← ws.foldlM operand {}
  for (x, y) in [("lcase", "ucase"), ("excl", "nocreat")] do
    if k.changes.contains x && k.changes.contains y then .error (.both x y)
  return k

def swapped : Bytes → Bytes
  | x :: y :: r => y :: x :: swapped r
  | r => r

def changed (k : BlockCopy) (block : Bytes) : Bytes :=
  let has (w : String) : Bool := k.changes.contains w
  let bs := if has "sync" then block ++ List.replicate (k.inputSize - block.length) 0 else block
  let bs := if has "swab" then swapped bs else bs
  let bs := if has "ucase" then bs.map fun b => if 97 ≤ b && b ≤ 122 then b - 32 else b else bs
  if has "lcase" then bs.map fun b => if 65 ≤ b && b ≤ 90 then b + 32 else b else bs

def tally (size length : Nat) : String :=
  s!"{length / size}+{if length % size = 0 then 0 else 1}"

def reportLines (k : BlockCopy) (read written : Nat) : List String :=
  let outTally := if k.isEven && !k.changes.contains "sync" then tally k.inputSize read
    else tally k.outputSize written
  match k.report with
  | "none" => []
  | "noxfer" => [s!"{tally k.inputSize read} records in", s!"{outTally} records out"]
  | _ => [s!"{tally k.inputSize read} records in", s!"{outTally} records out",
      s!"{written} bytes copied, 0 s, Infinity B/s"]

end BlockCopy

open BlockCopy

def blockInput (c : Call) (k : BlockCopy) : Except String Bytes :=
  let wanted := k.count.map (· * k.inputSize)
  let start := k.skipped * k.inputSize
  let part (bs : Bytes) : Bytes :=
    let bs := bs.drop start
    match wanted with
    | some n => bs.take n
    | none => bs
  match k.source with
  | none => .ok (part c.input)
  | some f =>
    if f = zeroDevice then .ok (List.replicate (wanted.getD 0) 0)
    else match contents c f with
    | .ok bs => .ok (part bs)
    | .error .isDirectory => .error s!"error reading {quoted f}: {OsError.isDirectory.text}"
    | .error e => .error s!"failed to open {quoted f}: {e.text}"

def blockOutput (c : Call) (k : BlockCopy) (file : String) (bs : Bytes) : Except OsError Disk :=
  let has (w : String) : Bool := k.changes.contains w
  let old := (contents c file).toOption
  if has "excl" && old.isSome then .error .alreadyExists
  else if has "nocreat" && old.isNone then .error .notFound
  else
    let before := old.getD []
    let start := if k.flags.contains "append" then
        (if has "notrunc" then before.length else 0)
      else k.sought * k.outputSize
    let filled := before.take start ++ List.replicate (start - before.length) 0 ++ bs
    write c.disk file (filled ++ if has "notrunc" then before.drop filled.length else [])

def dd (c : Call) : Result :=
  match Arguments.parse { known := [] } c.args with
  | .error f => misuse c 1 f.message
  | .ok a =>
    match BlockCopy.ofOperands a.operands with
    | .error f => if f.isMisuse then misuse c 1 f.message else failing c 1 f.message
    | .ok k =>
      match blockInput c k with
      | .error complaint => failing c 1 complaint
      | .ok bs =>
        let blocks := Checksum.parts k.inputSize (bs.length / k.inputSize + 1) bs
        let out := blocks.flatMap k.changed
        let read := k.skipped * k.inputSize + bs.length
        let r : Result :=
          { disk := c.disk
            tookInput := k.source.isNone
            taken := some read
            isSated := k.count.isSome && k.count.all fun n => (k.skipped + n) * k.inputSize ≤ read
            complaints := k.reportLines bs.length out.length }
        match k.target with
        | none => { r with out }
        | some f =>
          match blockOutput c k f out with
          | .ok disk => { r with disk }
          | .error e =>
            complain c { r with complaints := [] } 1 s!"failed to open {quoted f}: {e.text}"

end Freshen.Shell.Utility
