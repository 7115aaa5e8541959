import Freshen.Shell.Signal
import Freshen.Shell.World
/-! Processes take turns: each runs until it ends or has to wait for something. A process that waits
says what for and how it goes on. -/

namespace Freshen.Shell

structure Pause where
  isOver : World → Bool
  latest : Option Int := none

inductive Running (α : Type) where
  | finished (a : α) (w : World)
  | paused (p : Pause) (w : World) (next : World → Running α)

namespace Running

def bind {α β : Type} (f : α → World → Running β) : Running α → Running β
  | finished a w => f a w
  | paused p w next => paused p w fun w => bind f (next w)

end Running

def Action (α : Type) := World → Running α

namespace Action

instance : Monad Action where
  pure a := fun w => .finished a w
  bind x f := fun w => (x w).bind fun a => f a

def world : Action World := fun w => .finished w w

def setWorld (w : World) : Action Unit := fun _ => .finished () w

def modifyWorld (f : World → World) : Action Unit := fun w => .finished () (f w)

def pause (p : Pause) : Action Unit := fun w =>
  if p.isOver w then .finished () w else .paused p w fun w => .finished () w

end Action

abbrev Run := ExceptT Flow (StateT Context Action)

namespace Run

def world : Run World := monadLift Action.world

def modifyWorld (f : World → World) : Run Unit := monadLift (Action.modifyWorld f)

def setWorld (w : World) : Run Unit := monadLift (Action.setWorld w)

def changeWorld (f : World → α × World) : Run α := do
  let (a, w) := f (← world)
  setWorld w
  return a

inductive Round (σ β : Type)
  | again (s : σ)
  | done (b : β)

def rounds {σ β : Type} (body : σ → Run (Round σ β)) :
    Nat → σ → Context → World → Running (Except Flow β × Context)
  | 0, _, c, w => .finished (.error (.killed 9), c) w
  | n + 1, s, c, w =>
    match body s c w with
    | .finished (.ok (.again s), c) w => rounds body n s c w
    | .finished (.ok (.done b), c) w => .finished (.ok b, c) w
    | .finished (.error f, c) w => .finished (.error f, c) w
    | .paused p w next => .paused p w fun w => (next w).bind fun r w =>
      match r with
      | (.ok (.again s), c) => rounds body n s c w
      | (.ok (.done b), c) => .finished (.ok b, c) w
      | (.error f, c) => .finished (.error f, c) w

def roundLimit : Nat := 1000000

def iterate {σ β : Type} (s : σ) (body : σ → Run (Round σ β)) : Run β :=
  rounds body roundLimit s

def disk : Run Disk := do
  let c ← get
  return { (← world).disk with current := c.directory, mask := c.mask }

def setDisk (d : Disk) : Run Unit := modifyWorld fun w => { w with disk := d }

def deadly? (c : Context) (w : World) : Option Nat :=
  (w.pending c.process).find? fun n =>
    n = 9 || !(c.traps.any (·.1 = n) || Signal.isHarmless n)

def waitFor (isOver : World → Bool) (latest : Option Int) : Run Unit := do
  let c ← get
  let passed (w : World) : Bool := latest.any (· ≤ w.disk.clock)
  monadLift (Action.pause
    { isOver := fun w => isOver w || passed w || (deadly? c w).isSome, latest })
  match deadly? c (← world) with
  | some n => throw (.killed n)
  | none => return

def sleep (nanoseconds : Int) : Run Unit := do
  let w ← world
  waitFor (fun _ => false) (some (w.disk.clock + nanoseconds))

def writePipe (id : Nat) (bs : Bytes) : Run Bool :=
  iterate bs fun bs => do
    waitFor (fun w => (w.pipe id).readers = 0 || !(w.pipe id).isFull) none
    let p := (← world).pipe id
    if p.readers = 0 then return .done false
    else
      let room := match p.capacity with
        | some k => k - p.size
        | none => bs.length
      let now := bs.take room
      modifyWorld (·.put id now)
      let rest := if now.length = bs.length then [] else bs.drop room
      return if rest.isEmpty then .done true else .again rest

inductive WriteFault
  | closed
  | broken

def write (descriptor : Nat) (bs : Bytes) : Run (Option WriteFault) := do
  match (← get).stream? descriptor with
  | none => return some .closed
  | some (.source _) => return some .closed
  | some (.file id) =>
    if !bs.isEmpty then modifyWorld (·.writeFile id bs)
    return none
  | some (.sink id) =>
    if bs.isEmpty then return none
    else if ← writePipe id bs then return none
    else return some .broken

def print (descriptor : Nat) (bs : Bytes) : Run Unit := do
  match ← write descriptor bs with
  | some .broken => throw (.killed 13)
  | _ => return

def printLine (descriptor : Nat) (text : String) : Run Unit :=
  print descriptor (bytesOf (text ++ "\n"))

def drainPipe (id : Nat) : Run Bytes :=
  iterate ([] : List Bytes) fun chunks => do
    waitFor (fun w => (w.pipe id).isAtEnd || (w.pipe id).isFull) none
    let atEnd := ((← world).pipe id).isAtEnd
    let bs ← changeWorld (·.take id)
    return if atEnd then .done (bs :: chunks).reverse.flatten else .again (bs :: chunks)

def drain (descriptor : Nat) : Run Bytes := do
  match (← get).stream? descriptor with
  | some (.source id) => drainPipe id
  | some (.file id) =>
    let bs := (← world).remaining id
    modifyWorld (·.skipped id bs.length)
    return bs
  | _ => return []

def takeBy (enough : Bytes → Bool) (cut : Bytes → Nat) (latest : Option Int) (descriptor : Nat) :
    Run (Option Bytes) := do
  match (← get).stream? descriptor with
  | some (.source id) =>
    let isReady (w : World) : Bool := (w.pipe id).isAtEnd || enough (w.pipe id).content
    waitFor isReady latest
    if isReady (← world) then
      let bs := ((← world).pipe id).content
      modifyWorld (·.leave id (bs.drop (cut bs)))
      return some (bs.take (cut bs))
    else return none
  | some (.file id) =>
    let bs := (← world).remaining id
    modifyWorld (·.skipped id (cut bs))
    return some (bs.take (cut bs))
  | _ => return some []

def setStatus (status : Nat) : Run Unit := modify fun c => { c with status }

def complain (status : Nat) (text : String) : Run Unit := do
  printLine 2 ((← get).complaint text)
  setStatus status

def remark (status : Nat) (text : String) : Run Unit := do
  printLine 2 ((← get).remark text)
  setStatus status

def fatal (status : Nat) (text : String) : Run α := do
  complain status text
  throw .leaving

def start (c : Context) (t : Task) : Run Nat := do
  let number := (← world).processes + 1
  modifyWorld fun w =>
    { w with processes := number }.seed { context := { c with process := number }, task := t }
  return number

def fateOf (process : Nat) : Run Fate := do
  waitFor (·.hasEnded process) none
  return (Keyed.get? (← world).ended process).getD (.exited 127)

end Run
end Freshen.Shell
