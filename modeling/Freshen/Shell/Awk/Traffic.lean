import Freshen.Shell.Awk.Machine
/-! What goes in and out: records from files and commands, and text that is printed. -/

namespace Freshen.Shell.Awk.Act

def isOutput (name : Bytes) : Bool := name = bytesOf "/dev/stdout" || name = bytesOf "-"

def say (bs : Bytes) : Act Unit := do
  if !bs.isEmpty then
    let r ← ask (.say 1 bs)
    if r.isBroken then throw .unheard

def sendOff (o : Outlet) : Act Outlet := do
  let bs := o.pending.reverse.flatten
  match o.sink with
  | none => say bs
  | some (.file _) => if !bs.isEmpty then discard (ask (.append (stringOf o.name) bs))
  | some .command => return o
  return { o with pending := [], size := 0 }

def flush : Act Unit := do
  let os ← (← get).outlets.mapM sendOff
  modify fun m => { m with outlets := os }

def outletLimit : Nat := 4096

def add (o : Outlet) (bs : Bytes) : Act Outlet := do
  let o := { o with pending := bs :: o.pending, size := o.size + bs.length }
  if outletLimit ≤ o.size then sendOff o else return o

def takeOutlet (isOne : Outlet → Bool) : Act (Option Outlet) := do
  let m ← get
  match m.outlets.find? isOne with
  | some o =>
    set { m with outlets := m.outlets.filter (!isOne ·) }
    return some o
  | none => return none

def isStandard (o : Outlet) : Bool := o.sink.isNone

def print (bs : Bytes) : Act Unit := do
  let m ← get
  let os ← m.outlets.mapM fun o => if isStandard o then add o bs else pure o
  modify fun m => { m with outlets := os }

def newOutlet (name : Bytes) (s : Sink) : Act Outlet := do
  match s with
  | .command => flush
  | .file appends =>
    match (← ask (.create (stringOf name) appends)).fault with
    | some e =>
      throw (.failed s!"cannot open \"{stringOf name}\" for output ({e.text})")
    | none => pure ()
  return { name, sink := some s }

def printTo (s : Sink) (name : Bytes) (bs : Bytes) : Act Unit := do
  if s ≠ .command && name = bytesOf "/dev/stderr" then discard (ask (.say 2 bs))
  else
    let isOne (o : Outlet) : Bool :=
      if s ≠ .command && isOutput name then isStandard o
      else o.name = name && o.sink.any fun t => (t = .command) == (s = .command)
    let o ← match ← takeOutlet isOne with
      | some o => pure o
      | none => newOutlet name s
    let o ← add o bs
    modify fun m => { m with outlets := o :: m.outlets }

def shut (o : Outlet) : Act Int := do
  match o.sink with
  | some .command =>
    return (← ask (.run (stringOf o.name) (some o.pending.reverse.flatten))).number
  | _ =>
    discard (sendOff o)
    return 0

def shutAll : Act Unit := do
  let os := (← get).outlets
  modify fun m => { m with outlets := [] }
  for o in os do discard (shut o)

def unreadable (file : Bytes) (e : OsError) : Act α :=
  throw (.failed (if e = .isDirectory then s!"read error ({e.text})"
    else s!"cannot open \"{stringOf file}\" ({e.text})"))

def recordOf (s : Source) : Act (Option Bytes × Source) := do
  let e := (← get).ending
  iterate s fun s => do
    let found := if s.isLive && e.needsAll then none else e.first? s.pending
    match found with
    | some (bs, rest) => return .done (some bs, { s with pending := rest })
    | none =>
      if s.isLive then
        let r ← ask .input
        match r.fault with
        | some f => unreadable [] f
        | none =>
          if r.bytes.isEmpty then return .again { s with isLive := false }
          else return .again { s with pending := s.pending ++ r.bytes }
      else return .done (e.last? s.pending, { s with pending := [] })

def isInput (name : Bytes) : Bool := name = bytesOf "-" || name = bytesOf "/dev/stdin"

def openFile (name : Bytes) : Act (Except OsError Source) := do
  if isInput name then return .ok { isLive := true }
  else
    let r ← ask (.read (stringOf name))
    match r.fault with
    | some f => return .error f
    | none => return .ok { pending := r.bytes }

def assignment? (bs : Bytes) : Option (String × String) :=
  let cs := (stringOf bs).toList
  let x := cs.takeWhile Reader.isNamePart
  match x, cs.drop x.length with
  | c :: _, '=' :: v =>
    if Reader.isNameStart c then some (String.ofList x, String.ofList v) else none
  | _, _ => none

def assignNamed (p : Program) (x v : String) : Act Unit := do
  let value := valueOfText v
  if x = "NF" then setFieldCount (Value.word true value.toNumber).toNat
  else match p.shared.findIdx? (·.1 = x) with
  | some i =>
    if ((p.shared[i]?).map (·.2)) = some false then assign (.shared i) value
  | none => return

def readArgument (i : Nat) : Act Bytes := do
  let t ← tableAt (← tableNumber (.shared Variable.arguments))
  toText ((t.get? (.whole i)).getD .unset)

def openNext (p : Program) : Act (Option Source) :=
  iterate () fun _ => do
    let m ← get
    let count := (Value.word true (← shared Variable.argumentCount).toNumber).toNat
    if count ≤ m.argument then
      if m.hasInput then return .done none
      else
        modify fun m => { m with hasInput := true }
        return .done (some { isLive := true })
    else
      modify fun m => { m with argument := m.argument + 1 }
      let name ← readArgument m.argument
      if name.isEmpty then return .again ()
      else match assignment? name with
      | some (x, v) =>
        assignNamed p x v
        return .again ()
      | none =>
        match ← openFile name with
        | .error e => unreadable name e
        | .ok s =>
          setShared Variable.fileName (.text name)
          setShared Variable.fileRecordNumber (.number 0)
          modify fun m => { m with hasInput := true }
          return .done (some s)

def increment (i : Nat) : Act Unit := do
  setShared i (.number ((← shared i).toNumber + 1))

def nextRecord (p : Program) : Act (Option Bytes) :=
  iterate () fun _ => do
    match (← get).main with
    | some s =>
      let (r, s) ← recordOf s
      match r with
      | some bs =>
        modify fun m => { m with main := some s }
        increment Variable.recordNumber
        increment Variable.fileRecordNumber
        return .done (some bs)
      | none =>
        modify fun m => { m with main := none }
        return .again ()
    | none =>
      match ← openNext p with
      | some s =>
        modify fun m => { m with main := some s }
        return .again ()
      | none => return .done none

def recordFrom (name : Bytes) (isCommand : Bool) : Act (Except OsError (Option Bytes)) := do
  let key := (name, isCommand)
  let opened : Except OsError Source ← match Keyed.get? (← get).sources key with
    | some s => pure (.ok s)
    | none =>
      if isCommand then do
        flush
        let r ← ask (.capture (stringOf name))
        pure (.ok { pending := r.bytes, status := r.number })
      else openFile name
  match opened with
  | .error .isDirectory => unreadable name .isDirectory
  | .error e => return .error e
  | .ok s =>
    let (r, s) ← recordOf s
    modify fun m => { m with sources := Keyed.set key s m.sources }
    return .ok r

def close (name : Bytes) : Act Int := do
  let m ← get
  let mine := m.sources.filter (·.1.1 = name)
  set { m with sources := m.sources.filter (·.1.1 ≠ name) }
  let status := (mine.getLast?.map (·.2.status))
  match ← takeOutlet fun o => o.name = name && !isStandard o with
  | some o => return (← shut o)
  | none => return status.getD (-1)

def system (command : Bytes) : Act Int := do
  flush
  return (← ask (.run (stringOf command) none)).number

end Freshen.Shell.Awk.Act
