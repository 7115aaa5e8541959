import Freshen.Shell.Regular.Written
/-! Scripts that edit a text line by line: commands, and the lines that they are for. -/

namespace Freshen.Shell.Edit

inductive Address
  | line (number : Nat)
  | every (first interval : Nat)
  | last
  | matching (r : Option Regular)
  deriving DecidableEq, Repr

inductive Extent
  | address (a : Address)
  | further (count : Nat)
  | multiple (number : Nat)
  deriving DecidableEq, Repr

inductive Casing
  | asIs
  | upper
  | lower
  | upperNext
  | lowerNext
  deriving DecidableEq, Repr

inductive Piece
  | literal (bs : Bytes)
  | whole
  | group (number : Nat)
  | casing (c : Casing)
  deriving DecidableEq, Repr

structure Substitution where
  pattern : Option Regular
  replacement : List Piece
  nth : Nat := 1
  isGlobal : Bool := false
  prints : Bool := false
  file : Option String := none
  deriving DecidableEq, Repr

inductive Jump
  | always
  | ifReplaced
  | unlessReplaced
  deriving DecidableEq, Repr

inductive Action
  | nothing
  | label (name : String)
  | block (size : Nat)
  | blockEnd
  | jump (when_ : Jump) (label : String)
  | substitute (s : Substitution)
  | exchange (table : List (UInt8 × UInt8))
  | print
  | printFirst
  | delete
  | deleteFirst
  | next
  | appendNext
  | hold
  | holdMore
  | fetch
  | fetchMore
  | swap
  | empty
  | number
  | fileName
  | list (width : Option Nat)
  | append (text : Bytes)
  | insert (text : Bytes)
  | change (text : Bytes)
  | readFile (file : String)
  | readLine (file : String)
  | write (file : String)
  | writeFirst (file : String)
  | quit (status : Nat)
  | leave (status : Nat)
  deriving DecidableEq, Repr

structure Command where
  first : Option Address := none
  extent : Option Extent := none
  inverted : Bool := false
  action : Action
  deriving DecidableEq, Repr

abbrev Program := List Command

inductive Flaw
  | at_ (left : Nat) (text : String)
  | openBlock
  | nothingSought
  | noLabel (name : String)
  | plain (text : String)
  deriving DecidableEq, Repr

def Program.files (p : Program) : List String :=
  (p.filterMap fun c => match c.action with
    | .substitute s => s.file
    | .write f | .writeFirst f => some f
    | _ => none).eraseDups

def Program.find? (p : Program) (name : String) : Option Nat :=
  if name = "" then some p.length
  else p.findIdx? (·.action = .label name)

end Freshen.Shell.Edit
