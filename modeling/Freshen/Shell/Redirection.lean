import Freshen.Shell.Expansion
/-! Where descriptors lead: to files that are opened, to other descriptors, or to a text. -/

namespace Freshen.Shell.Redirection

open Run

inductive Fault
  | opening (file : String) (cause : OsError)
  | creating (file : String) (cause : OsError)
  | kept (file : String)
  | badDescriptor (shown : String)
  | ambiguous (shown : String)
  | notDescriptor
  deriving DecidableEq, Repr

namespace Fault

def isMissing (e : OsError) : Bool := e = .notFound || e = .notDirectory

def message : Dialect → Fault → String
  | .dash, opening f e =>
    s!"cannot open {f}: " ++ if isMissing e then "No such file" else e.text
  | .dash, creating f e =>
    s!"cannot create {f}: " ++ if isMissing e then "Directory nonexistent" else e.text
  | .dash, kept f => s!"cannot create {f}: {OsError.alreadyExists.text}"
  | .bash, opening f e | .bash, creating f e => s!"{f}: {e.text}"
  | .bash, kept f => f ++ ": cannot overwrite existing file"
  | _, badDescriptor s => s ++ ": Bad file descriptor"
  | _, ambiguous s => s ++ ": ambiguous redirect"
  | _, notDescriptor => "Syntax error: Bad fd number"

end Fault

def descriptorNamed? (file : String) : Option Nat :=
  match file with
  | "/dev/stdin" => some 0
  | "/dev/stdout" => some 1
  | "/dev/stderr" => some 2
  | file => if file.startsWith "/dev/fd/" then (file.drop 8).toString.toNat? else none

def connect (descriptor : Nat) (s : Stream) : Run (Option Fault) := do
  modify fun c => c.connect descriptor s
  return none

def connectFile (descriptor : Nat) (f : OpenFile) : Run (Option Fault) := do
  let id ← changeWorld (·.open_ f)
  connect descriptor (.file id)

def streamNamed? (file : String) : Run (Option Stream) := do
  let c ← get
  match descriptorNamed? file with
  | none => return none
  | some n => if (← disk).exists_ ⟨file⟩ then return none else return c.stream? n

def openToRead (descriptor : Nat) (file : String) : Run (Option Fault) := do
  match ← streamNamed? file with
  | some s => connect descriptor s
  | none =>
    match (← disk).find ⟨file⟩ with
    | .ok (_, n) => connectFile descriptor { node := n }
    | .error e => return some (.opening file e)

inductive Opening
  | emptied
  | appended
  | kept
  deriving DecidableEq, Repr

def openToWrite (descriptor : Nat) (how : Opening) (mayExist : Bool) (file : String) :
    Run (Option Fault) := do
  match ← streamNamed? file with
  | some s => connect descriptor s
  | none =>
    let d ← disk
    if !mayExist && d.isFile ⟨file⟩ then return some (.kept file)
    else if (descriptorNamed? file).isSome && !d.exists_ ⟨file⟩ then
      return some (.creating file .notFound)
    else match d.openToWrite ⟨file⟩ with
    | .error e => return some (.creating file e)
    | .ok (n, d) =>
      setDisk (if how = .emptied then d.fill n (.bytes ⟨#[]⟩) else d)
      connectFile descriptor { node := n, appends := how = .appended }

def duplicate (descriptor : Nat) (source : Word) (text : String) : Run (Option Fault) := do
  let c ← get
  let shown := if c.dialect = .bash then Word.raw source else text
  let copy (n : Nat) : Run (Option Fault) :=
    match c.stream? n with
    | some s => connect descriptor s
    | none => return some (.badDescriptor shown)
  if text = "-" then
    modify fun c => c.close descriptor
    return none
  else if text.isNat then copy (text.toNat?.getD 0)
  else
    let n := (text.dropEnd 1).toString
    if c.dialect = .bash && text.endsWith "-" && n.isNat then
      let n := n.toNat?.getD 0
      match ← copy n with
      | some f => return some f
      | none =>
        if n ≠ descriptor then modify fun c => c.close n
        return none
    else match c.dialect with
    | .dash => return some .notDescriptor
    | .bash => openToWrite descriptor .emptied true text

def target (m : Expansion.Means) (w : Word) : Run (Except Fault String) := do
  match (← get).dialect with
  | .dash => return .ok (← Expansion.whole m w)
  | .bash =>
    match ← Expansion.fields m [w] with
    | [file] => return .ok file
    | _ => return .error (.ambiguous (Word.raw w))

def withTarget (m : Expansion.Means) (w : Word) (f : String → Run (Option Fault)) :
    Run (Option Fault) := do
  match ← target m w with
  | .ok file => f file
  | .error fault => return some fault

def holding (descriptor : Nat) (text : String) : Run (Option Fault) := do
  let id ← changeWorld (·.pipeHolding (bytesOf text))
  connect descriptor (.source id)

def apply (m : Expansion.Means) : Redirect → Run (Option Fault)
  | .mk n d => do
    let keeps := (← get).settings.keepsFiles
    match d with
    | .read w => withTarget m w (openToRead n)
    | .write w => withTarget m w (openToWrite n .emptied (!keeps))
    | .overwrite w => withTarget m w (openToWrite n .emptied true)
    | .append w => withTarget m w (openToWrite n .appended true)
    | .both w => withTarget m w (openToWrite n .kept true)
    | .duplicate w => duplicate n w (← Expansion.whole m w)
    | .writeAll w append =>
      withTarget m w fun file => do
        match ← openToWrite n (if append then .appended else .emptied) (append || !keeps) file with
        | some f => return some f
        | none =>
          match (← get).stream? n with
          | some s => connect 2 s
          | none => return none
    | .text w => holding n (← Expansion.whole m w)
    | .line w => holding n ((← Expansion.whole m w) ++ "\n")

def applyAll (m : Expansion.Means) : List Redirect → Run (Option Fault)
  | [] => return none
  | r :: rs => do
    match ← apply m r with
    | some f => return some f
    | none => applyAll m rs

end Freshen.Shell.Redirection
