import Freshen.Text.Pieces
/-! Where two texts differ: the fewest lines to take away and to add, found by searching from both
ends at once and moved as far down as they can go. -/

namespace Freshen.Shell

namespace Difference

structure Texts where
  xs : Array Nat
  ys : Array Nat

structure Window where
  x : Int
  xEnd : Int
  y : Int
  yEnd : Int

namespace Texts

def isSame (t : Texts) (x y : Int) : Bool := t.xs[x.toNat]? == t.ys[y.toNat]?

def size (t : Texts) : Nat := t.xs.size + t.ys.size + 3

def slideDown (t : Texts) (w : Window) : Nat → Int → Int → Int
  | 0, x, _ => x
  | n + 1, x, y =>
    if x < w.xEnd && y < w.yEnd && t.isSame x y then slideDown t w n (x + 1) (y + 1) else x

def slideUp (t : Texts) (w : Window) : Nat → Int → Int → Int
  | 0, x, _ => x
  | n + 1, x, y =>
    if w.x < x && w.y < y && t.isSame (x - 1) (y - 1) then slideUp t w n (x - 1) (y - 1) else x

end Texts

structure Front where
  reach : Array Int
  shift : Nat
  least : Int
  greatest : Int

namespace Front

def get (f : Front) (d : Int) : Int := f.reach.getD (d + f.shift).toNat 0

def put (f : Front) (d x : Int) : Front :=
  { f with reach := f.reach.setIfInBounds (d + f.shift).toNat x }

def starting (size shift : Nat) (d x : Int) : Front :=
  ({ reach := Array.replicate size 0, shift, least := d, greatest := d } : Front).put d x

def widened (f : Front) (least greatest beyond : Int) : Front :=
  let f := if f.least > least then
      { f.put (f.least - 2) beyond with least := f.least - 1 }
    else { f with least := f.least + 1 }
  if f.greatest < greatest then
    { f.put (f.greatest + 2) beyond with greatest := f.greatest + 1 }
  else { f with greatest := f.greatest - 1 }

def covers (f : Front) (d : Int) : Bool := f.least ≤ d && d ≤ f.greatest

end Front

def stepDown (t : Texts) (w : Window) (meets : Bool) (up : Front) :
    Nat → Int → Front → Front × Option (Int × Int)
  | 0, _, f => (f, none)
  | n + 1, d, f =>
    if d < f.least then (f, none)
    else
      let low := f.get (d - 1)
      let high := f.get (d + 1)
      let first := if low < high then high else low + 1
      let x := t.slideDown w t.size first (first - d)
      let f := f.put d x
      if meets && up.covers d && up.get d ≤ x then (f, some (x, x - d))
      else stepDown t w meets up n (d - 2) f

def stepUp (t : Texts) (w : Window) (meets : Bool) (down : Front) :
    Nat → Int → Front → Front × Option (Int × Int)
  | 0, _, f => (f, none)
  | n + 1, d, f =>
    if d < f.least then (f, none)
    else
      let low := f.get (d - 1)
      let high := f.get (d + 1)
      let first := if low < high then low else high - 1
      let x := t.slideUp w t.size first (first - d)
      let f := f.put d x
      if meets && down.covers d && x ≤ down.get d then (f, some (x, x - d))
      else stepUp t w meets down n (d - 2) f

def meetingPoint (t : Texts) (w : Window) (odd : Bool) :
    Nat → Front → Front → Option (Int × Int)
  | 0, _, _ => none
  | n + 1, down, up =>
    let least := w.x - w.yEnd
    let greatest := w.xEnd - w.y
    let down := down.widened least greatest (-1)
    match stepDown t w odd up t.size down.greatest down with
    | (_, some p) => some p
    | (down, none) =>
      let up := up.widened least greatest (t.size + t.size)
      match stepUp t w (!odd) down t.size up.greatest up with
      | (_, some p) => some p
      | (up, none) => meetingPoint t w odd n down up

def middle (t : Texts) (w : Window) : Option (Int × Int) :=
  let shift := t.ys.size + 2
  let size := t.size + 4
  let first := w.x - w.y
  let last := w.xEnd - w.yEnd
  meetingPoint t w ((first - last) % 2 ≠ 0) t.size (Front.starting size shift first w.x)
    (Front.starting size shift last w.xEnd)

structure Strays where
  removed : List Nat := []
  added : List Nat := []

def Strays.append (s t : Strays) : Strays := ⟨s.removed ++ t.removed, s.added ++ t.added⟩

def between (a b : Int) : List Nat := (List.range (b - a).toNat).map (a.toNat + ·)

def strays (t : Texts) : Nat → Window → Strays
  | 0, w => ⟨between w.x w.xEnd, between w.y w.yEnd⟩
  | n + 1, w =>
    let x := t.slideDown w t.size w.x w.y
    let w := { w with x, y := w.y + (x - w.x) }
    let xEnd := t.slideUp w t.size w.xEnd w.yEnd
    let w := { w with xEnd, yEnd := w.yEnd - (w.xEnd - xEnd) }
    if w.x = w.xEnd || w.y = w.yEnd then ⟨between w.x w.xEnd, between w.y w.yEnd⟩
    else match middle t w with
    | some (x, y) =>
      (strays t n { w with xEnd := x, yEnd := y }).append (strays t n { w with x, y })
    | none => ⟨between w.x w.xEnd, between w.y w.yEnd⟩

structure Run where
  own : Array Bool
  start : Nat
  stop : Nat
  place : Nat
  matched : Option Nat := none

def isMarked (a : Array Bool) (i : Nat) : Bool := a.getD i false

def firstMarked (a : Array Bool) : Nat → Nat
  | 0 => 0
  | i + 1 => if isMarked a i then firstMarked a i else i + 1

def unmarkedBefore (a : Array Bool) (i : Nat) : Nat := firstMarked a i - 1

def afterMarked (a : Array Bool) : Nat → Nat → Nat
  | 0, i => i
  | n + 1, i => if isMarked a i then afterMarked a n (i + 1) else i

namespace Run

def raised (kinds : Array Nat) (other : Array Bool) : Nat → Run → Run
  | 0, r => r
  | n + 1, r =>
    if 0 < r.start && kinds[r.start - 1]? == kinds[r.stop - 1]? then
      let own := (r.own.setIfInBounds (r.start - 1) true).setIfInBounds (r.stop - 1) false
      raised kinds other n { r with
        own, start := firstMarked own (r.start - 1), stop := r.stop - 1
        place := unmarkedBefore other r.place }
    else r

def lowered (kinds : Array Nat) (other : Array Bool) : Nat → Run → Run
  | 0, r => r
  | n + 1, r =>
    if r.stop < kinds.size && kinds[r.start]? == kinds[r.stop]? then
      let own := (r.own.setIfInBounds r.start false).setIfInBounds r.stop true
      let stop := afterMarked own own.size (r.stop + 1)
      let place := afterMarked other other.size (r.place + 1)
      lowered kinds other n { r with
        own, start := r.start + 1, stop, place
        matched := if place = r.place + 1 then r.matched else some stop }
    else r

def settled (kinds : Array Nat) (other : Array Bool) : Nat → Run → Run
  | 0, r => r
  | n + 1, r =>
    let length := r.stop - r.start
    let r := r.raised kinds other kinds.size
    let isMatched := 0 < r.place && isMarked other (r.place - 1)
    let r := { r with matched := if isMatched then some r.stop else none }
    let r := r.lowered kinds other kinds.size
    if r.stop - r.start = length then r else settled kinds other n r

def restored (other : Array Bool) : Nat → Run → Run
  | 0, r => r
  | n + 1, r =>
    if r.matched.any (· < r.stop) then
      restored other n { r with
        own := (r.own.setIfInBounds (r.start - 1) true).setIfInBounds (r.stop - 1) false
        start := r.start - 1, stop := r.stop - 1
        place := unmarkedBefore other r.place }
    else r

end Run

def shifted (kinds : Array Nat) (other : Array Bool) : Nat → Nat → Nat → Array Bool → Array Bool
  | 0, _, _, own => own
  | n + 1, i, j, own =>
    if kinds.size ≤ i then own
    else if !isMarked own i then
      shifted kinds other n (i + 1) (afterMarked other other.size j + 1) own
    else
      let stop := afterMarked own own.size (i + 1)
      let place := afterMarked other other.size j
      let r : Run := { own, start := i, stop, place }
      let r := (r.settled kinds other (kinds.size + 1)).restored other kinds.size
      shifted kinds other n r.stop r.place r.own

structure Change where
  first : Nat
  removed : Nat
  second : Nat
  added : Nat
  deriving DecidableEq, Repr

def changes (a b : Array Bool) : Nat → Nat → Nat → List Change
  | 0, _, _ => []
  | n + 1, i, j =>
    if a.size ≤ i && b.size ≤ j then []
    else
      let p := afterMarked a a.size i
      let q := afterMarked b b.size j
      if p = i && q = j then changes a b n (i + 1) (j + 1)
      else ⟨i, p - i, j, q - j⟩ :: changes a b n p q

def marks (size : Nat) (places : List Nat) : Array Bool :=
  places.foldl (fun a i => a.setIfInBounds i true) (Array.replicate size false)

/-- The changes between two lists of lines. Of what is common at both ends some lines are looked at
nevertheless, because changes may move over them. -/
def ofLines {α : Type} [BEq α] (margin : Nat) (xs ys : List α) : List Change :=
  let before := ((xs.zip ys).takeWhile fun e => e.1 == e.2).length - margin
  let xs := xs.drop before
  let ys := ys.drop before
  let after := ((xs.reverse.zip ys.reverse).takeWhile fun e => e.1 == e.2).length - margin
  let xs := xs.take (xs.length - after)
  let ys := ys.take (ys.length - after)
  let all := xs ++ ys
  let kinds (ls : List α) : Array Nat := (ls.map fun l => all.idxOf l).toArray
  let own := kinds xs
  let others := kinds ys
  -- Lines that the other text does not have at all are changed for sure.
  let kept (a b : Array Nat) : List Nat := (List.range a.size).filter fun i =>
    (a[i]?).any b.contains
  let keptX := kept own others
  let keptY := kept others own
  let t : Texts := {
    xs := (keptX.map fun i => own.getD i 0).toArray
    ys := (keptY.map fun i => others.getD i 0).toArray }
  let s := strays t t.size ⟨0, t.xs.size, 0, t.ys.size⟩
  let marked (a : Array Nat) (keeps places : List Nat) : Array Bool :=
    marks a.size (((List.range a.size).filter (!keeps.contains ·)) ++
      places.filterMap (keeps[·]?))
  let a := marked own keptX s.removed
  let b := marked others keptY s.added
  let size := own.size + others.size + 2
  let a := shifted own b size 0 0 a
  let b := shifted others a size 0 0 b
  (changes a b size 0 0).map fun c =>
    { c with first := c.first + before, second := c.second + before }

end Difference
end Freshen.Shell
