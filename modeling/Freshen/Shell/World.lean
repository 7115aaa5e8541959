import Freshen.Shell.Context
/-! What all processes share: the disk, open files, pipes, and the news of each other. -/

namespace Freshen.Shell

structure OpenFile where
  node : Node
  offset : Nat := 0
  appends : Bool := false
  deriving Inhabited

structure Pipe where
  chunks : List Bytes := []
  size : Nat := 0
  writers : Nat := 0
  readers : Nat := 0
  capacity : Option Nat := some 65536
  deriving Inhabited

namespace Pipe

def content (p : Pipe) : Bytes := p.chunks.reverse.flatten

def isFull (p : Pipe) : Bool := p.capacity.any (· ≤ p.size)

def isAtEnd (p : Pipe) : Bool := p.writers = 0

end Pipe

inductive Fate
  | exited (status : Nat)
  | signalled (signal : Nat)
  deriving DecidableEq, Repr

def Fate.status : Fate → Nat
  | exited n => n % 256
  | signalled n => 128 + n

inductive Task
  | command (c : Command)
  | program (name : String) (args : List String)

structure Seed where
  context : Context
  task : Task

structure World where
  disk : Disk
  opened : Array OpenFile := #[]
  pipes : Array Pipe := #[]
  ended : List (Nat × Fate) := []
  signals : List (Nat × Nat) := []
  seeds : List Seed := []
  held : List (Nat × List Nat × List Nat) := []
  processes : Nat := 1

namespace World

def pipe (w : World) (id : Nat) : Pipe := w.pipes.getD id {}

def modifyPipe (w : World) (id : Nat) (f : Pipe → Pipe) : World :=
  { w with pipes := w.pipes.modify id f }

def hasEnded (w : World) (process : Nat) : Bool := w.ended.any (·.1 = process)

def isAlive (w : World) (process : Nat) : Bool :=
  1 ≤ process && process ≤ w.processes && !w.hasEnded process

def newPipe (w : World) : Nat × World :=
  (w.pipes.size, { w with pipes := w.pipes.push {} })

def newBuffer (w : World) : Nat × World :=
  (w.pipes.size, { w with pipes := w.pipes.push { readers := 1, capacity := none } })

def pipeHolding (w : World) (bs : Bytes) : Nat × World :=
  (w.pipes.size, { w with pipes := w.pipes.push { chunks := [bs], size := bs.length } })

def open_ (w : World) (f : OpenFile) : Nat × World :=
  (w.opened.size, { w with opened := w.opened.push f })

def put (w : World) (id : Nat) (bs : Bytes) : World :=
  w.modifyPipe id fun p => { p with chunks := bs :: p.chunks, size := p.size + bs.length }

def take (w : World) (id : Nat) : Bytes × World :=
  ((w.pipe id).content, w.modifyPipe id fun p => { p with chunks := [], size := 0 })

def leave (w : World) (id : Nat) (bs : Bytes) : World :=
  w.modifyPipe id fun p => { p with chunks := [bs], size := bs.length }

def fileNumber? (w : World) (id : Nat) : Option Nat :=
  match (w.opened.getD id default).node with
  | .file n => some n
  | _ => none

def remaining (w : World) (id : Nat) : Bytes :=
  let f := w.opened.getD id default
  match w.disk.image? f.node with
  | some b => (b.extract f.offset b.size).data.toList
  | none => []

def seek (w : World) (id offset : Nat) : World :=
  { w with opened := w.opened.modify id fun f => { f with offset } }

def skipped (w : World) (id count : Nat) : World :=
  { w with opened := w.opened.modify id fun f => { f with offset := f.offset + count } }

def overlaid (old : ByteArray) (offset : Nat) (bs : ByteArray) : ByteArray :=
  if offset = old.size then old ++ bs
  else
    let gap : ByteArray := ⟨(List.replicate (offset - old.size) (0 : UInt8)).toArray⟩
    old.extract 0 offset ++ gap ++ bs ++ old.extract (offset + bs.size) old.size

def writeFile (w : World) (id : Nat) (bs : Bytes) : World :=
  let f := w.opened.getD id default
  match f.node with
  | .file n =>
    let old := (w.disk.content n).image
    let offset := if f.appends then old.size else f.offset
    let disk := w.disk.setContent n (.bytes (overlaid old offset ⟨bs.toArray⟩))
    { w with disk }.seek id (offset + bs.length)
  | _ => w

def signal (w : World) (process n : Nat) : World :=
  { w with signals := w.signals ++ [(process, n)] }

def pending (w : World) (process : Nat) : List Nat :=
  (w.signals.filter (·.1 = process)).map (·.2)

def receive (w : World) (process n : Nat) : World :=
  { w with signals := w.signals.erase (process, n) }

def hold (w : World) (reads writes : List Nat) : World :=
  let w := reads.foldl (fun w id => w.modifyPipe id fun p => { p with readers := p.readers + 1 }) w
  writes.foldl (fun w id => w.modifyPipe id fun p => { p with writers := p.writers + 1 }) w

def release (w : World) (process : Nat) : World :=
  match Keyed.get? w.held process with
  | none => w
  | some (reads, writes) =>
    let w := reads.foldl (fun w id =>
      w.modifyPipe id fun p => { p with readers := p.readers - 1 }) w
    let w := writes.foldl (fun w id =>
      w.modifyPipe id fun p => { p with writers := p.writers - 1 }) w
    { w with held := Keyed.erase process w.held }

def rehold (w : World) (c : Context) : World :=
  let w := w.hold c.sources c.sinks
  let w := w.release c.process
  { w with held := Keyed.set c.process (c.sources, c.sinks) w.held }

def seed (w : World) (s : Seed) : World :=
  { w.rehold s.context with seeds := w.seeds ++ [s] }

def finish (w : World) (process : Nat) (f : Fate) : World :=
  { w.release process with ended := (process, f) :: w.ended }

end World
end Freshen.Shell
