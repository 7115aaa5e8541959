import Freshen.Shell.Printf
/-! Sets of bytes, written as ranges and by the names of classes. -/

namespace Freshen.Shell.ByteSet

def range (a b : UInt8) : Bytes :=
  (List.range (b.toNat + 1 - a.toNat)).map fun i => (a.toNat + i).toUInt8

def digits : Bytes := range 48 57

def letters : Bytes := range 65 90 ++ range 97 122

def space : Bytes := range 9 13 ++ [32]

def word : Bytes := digits ++ letters ++ [95]

def ofClass : String → Bytes
  | "upper" => range 65 90
  | "lower" => range 97 122
  | "digit" => digits
  | "xdigit" => digits ++ range 65 70 ++ range 97 102
  | "alpha" => letters
  | "alnum" => digits ++ letters
  | "space" => space
  | "blank" => [9, 32]
  | "punct" => range 33 47 ++ range 58 64 ++ range 91 96 ++ range 123 126
  | "print" => range 32 126
  | "graph" => range 33 126
  | "cntrl" => range 0 31 ++ [127]
  | _ => []

def isClass (name : String) : Bool := !(ofClass name).isEmpty

def otherCase (b : UInt8) : UInt8 :=
  if 65 ≤ b && b ≤ 90 then b + 32 else if 97 ≤ b && b ≤ 122 then b - 32 else b

def anyCase (s : Bytes) : Bytes := s ++ s.map otherCase

end Freshen.Shell.ByteSet
