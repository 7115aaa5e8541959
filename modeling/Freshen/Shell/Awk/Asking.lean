import Freshen.Disk.Change
import Freshen.Shell.Printf
/-! Work that asks its surroundings now and then: to read or write something, or to run a command.
It is over, or it says what it asks for and how it goes on after the reply. -/

namespace Freshen.Shell.Awk

inductive Question
  | input
  | read (file : String)
  | create (file : String) (appends : Bool)
  | append (file : String) (bs : Bytes)
  | say (descriptor : Nat) (bs : Bytes)
  | run (command : String) (input : Option Bytes)
  | capture (command : String)
  | time
  deriving DecidableEq, Repr

structure Reply where
  bytes : Bytes := []
  number : Int := 0
  fault : Option OsError := none
  isBroken : Bool := false

inductive Asking (α : Type) where
  | done (a : α)
  | asks (q : Question) (next : Reply → Asking α)

namespace Asking

def bind {α β : Type} (f : α → Asking β) : Asking α → Asking β
  | done a => f a
  | asks q next => asks q fun r => bind f (next r)

instance : Monad Asking where
  pure := done
  bind x f := x.bind f

def ask (q : Question) : Asking Reply := asks q done

end Asking
end Freshen.Shell.Awk
