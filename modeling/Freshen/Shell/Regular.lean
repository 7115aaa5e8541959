import Freshen.Shell.ByteSet
/-! Regular expressions over bytes, and where they match. Of all matches at a place the longest
counts, and of several ways to reach it the one in which earlier parts take more. -/

namespace Freshen.Shell

inductive Boundary
  | textStart
  | textEnd
  | lineStart
  | lineEnd
  | rowStart
  | rowEnd
  | wordStart
  | wordEnd
  | wordEdge
  | wordInside
  | apartBefore
  | apartAfter
  deriving DecidableEq, Repr

inductive Regular
  | nothing
  | member (set : Bytes) (negated : Bool)
  | boundary (b : Boundary)
  | both (a b : Regular)
  | either (a b : Regular)
  | many (a : Regular)
  | group (number : Nat) (a : Regular)
  | again (number : Nat)
  deriving DecidableEq, Repr

namespace Regular

def byte (b : UInt8) : Regular := member [b] false

def anyByte : Regular := member [] true

def optional (a : Regular) : Regular := either a nothing

def some_ (a : Regular) : Regular := both a (many a)

def times (a : Regular) : Nat → Regular
  | 0 => nothing
  | n + 1 => both a (times a n)

def upTo (a : Regular) : Nat → Regular
  | 0 => nothing
  | n + 1 => optional (both a (upTo a n))

def between (a : Regular) (least : Nat) : Option Nat → Regular
  | none => both (a.times least) (many a)
  | some most => both (a.times least) (a.upTo (most - least))

def anyCase : Regular → Regular
  | member set negated => member (ByteSet.anyCase set) negated
  | both a b => both a.anyCase b.anyCase
  | either a b => either a.anyCase b.anyCase
  | many a => many a.anyCase
  | group n a => group n a.anyCase
  | r => r

def byRows : Regular → Regular
  | boundary .lineStart => boundary .rowStart
  | boundary .lineEnd => boundary .rowEnd
  | both a b => both a.byRows b.byRows
  | either a b => either a.byRows b.byRows
  | many a => many a.byRows
  | group n a => group n a.byRows
  | r => r

def groups : Regular → Nat
  | both a b | either a b => max a.groups b.groups
  | many a => a.groups
  | group n a => max n a.groups
  | _ => 0

structure Place where
  before : Option UInt8 := none
  rest : Bytes
  groups : List (Nat × Bytes) := []
  deriving DecidableEq, Repr

namespace Place

def advance (p : Place) (n : Nat) : Place :=
  { p with before := (p.rest.take n).getLast? <|> p.before, rest := p.rest.drop n }

def left (p : Place) : Nat := p.rest.length

def isAt (p : Place) (b : Boundary) : Bool :=
  let isWord (b : Option UInt8) : Bool := b.any ByteSet.word.contains
  let left := isWord p.before
  let right := isWord p.rest.head?
  match b with
  | .textStart | .lineStart => p.before.isNone
  | .textEnd | .lineEnd => p.rest.isEmpty
  | .rowStart => p.before.all (· = 10)
  | .rowEnd => p.rest.head?.all (· = 10)
  | .wordStart => !left && right
  | .wordEnd => left && !right
  | .wordEdge => left != right
  | .wordInside => left == right
  | .apartBefore => !left
  | .apartAfter => !right

def fresh (seen : List Place) : List Place → List Place
  | [] => []
  | p :: ps => if seen.any (·.left = p.left) then fresh seen ps else p :: fresh (p :: seen) ps

def closure (step : Place → List Place) : Nat → List Place → List Place → List Place
  | 0, found, _ => found
  | n + 1, found, front =>
    match fresh found (front.flatMap step) with
    | [] => found
    | next => closure step n (found ++ next) next

def longestFirst (ps : List Place) : List Place := ps.mergeSort fun p q => p.left ≤ q.left

end Place

def ends : Regular → Place → List Place
  | nothing => fun p => [p]
  | member set negated => fun p =>
    match p.rest with
    | b :: _ => if set.contains b != negated then [p.advance 1] else []
    | [] => []
  | boundary b => fun p => if p.isAt b then [p] else []
  | both a b => fun p => Place.fresh [] ((ends a p).flatMap (ends b))
  | either a b => fun p => Place.fresh [] (ends a p ++ ends b p)
  | many a => fun p => Place.longestFirst (Place.closure (ends a) (p.left + 1) [p] [p])
  | group n a => fun p =>
    (ends a p).map fun q =>
      { q with groups := Keyed.set n (p.rest.take (p.left - q.left)) q.groups }
  | again n => fun p =>
    match Keyed.get? p.groups n with
    | some bs => if p.rest.take bs.length = bs then [p.advance bs.length] else []
    | none => []

structure Found where
  skipped : Bytes := []
  matched : Bytes
  after : Place

def longest (ps : List Place) : Option Place := (Place.longestFirst ps).head?

def matchAt (r : Regular) (before : Option UInt8) (bs : Bytes) : Option Found :=
  (longest (r.ends { before, rest := bs })).map fun p => ⟨[], bs.take (bs.length - p.left), p⟩

def find? (r : Regular) (before : Option UInt8) : Bytes → Option Found
  | [] => r.matchAt before []
  | b :: bs =>
    match r.matchAt before (b :: bs) with
    | some f => some f
    | none => (r.find? (some b) bs).map fun f => { f with skipped := b :: f.skipped }

def occursIn (r : Regular) (line : Bytes) : Bool := (r.find? none line).isSome

/-- Cuts a line at its matches: what lies before each, the match, and last what is left. An empty
match right after another one does not count. -/
def cut (r : Regular) : Nat → Bool → Option UInt8 → Bytes → List (Bytes × Found) × Bytes
  | 0, _, _, bs => ([], bs)
  | n + 1, justMatched, before, bs =>
    match r.find? before bs with
    | none => ([], bs)
    | some f =>
      if !f.matched.isEmpty then
        let (fs, last) := cut r n true f.after.before f.after.rest
        ((f.skipped, f) :: fs, last)
      else
        let counts := !(justMatched && f.skipped.isEmpty)
        match f.after.rest with
        | [] => if counts then ([(f.skipped, f)], []) else ([], f.skipped)
        | b :: bs =>
          match cut r n false (some b) bs with
          | (fs, last) =>
            let carry : List (Bytes × Found) × Bytes := match fs with
              | (skipped, g) :: fs => ((b :: skipped, g) :: fs, last)
              | [] => ([], b :: last)
            if counts then ((f.skipped, f) :: carry.1, carry.2)
            else match carry.1 with
              | (skipped, g) :: fs => ((f.skipped ++ skipped, g) :: fs, carry.2)
              | [] => ([], f.skipped ++ carry.2)

def cuts (r : Regular) (line : Bytes) : List (Bytes × Found) × Bytes :=
  r.cut (line.length + 2) false none line

end Regular
end Freshen.Shell
