import Std.Data.HashMap
import Freshen.Shell.Awk.Value
/-! Tables: values under keys. The order in which the keys are gone through is that of buckets, and
within a bucket the key that was used last comes first. Keys that are used as whole numbers have
buckets of their own until the keys are used as texts. -/

namespace Freshen.Shell.Awk

inductive Key
  | whole (n : Int)
  | text (bs : Bytes)
  deriving DecidableEq, Repr

def Key.toText : Key → Bytes
  | whole n => bytesOf (toString n)
  | text bs => bs

structure Table where
  values : Std.HashMap Bytes Value := {}
  texts : Array (List Bytes) := Array.replicate 64 []
  wholes : Array (List Int) := Array.replicate 64 []
  hasTexts : Bool := false
  isList : Bool := false
  deriving Inhabited

namespace Table

def size (t : Table) : Nat := t.values.size

def width (t : Table) : Nat := t.texts.size

def load : Nat := 12

def hash (bs : Bytes) : UInt32 :=
  bs.foldl (fun h b => (h ^^^ b.toUInt32) * 16777619) 2166136261

def textBucket (t : Table) (bs : Bytes) : Nat := (hash bs).toNat % t.width

def wholeBucket (t : Table) (n : Int) : Nat := (n % (t.width : Int)).toNat

def addText (t : Table) (bs : Bytes) : Table :=
  { t with texts := t.texts.modify (t.textBucket bs) (bs :: ·.erase bs) }

def addWhole (t : Table) (n : Int) : Table :=
  { t with wholes := t.wholes.modify (t.wholeBucket n) (n :: ·.erase n) }

def parted {α : Type} (place : α → Nat) (buckets : Array (List α)) : Array (List α) :=
  buckets.mapIdx (fun i l => l.filter (place · = i)) ++
    buckets.mapIdx (fun i l => l.filter (place · ≠ i))

def doubled (t : Table) : Table :=
  let k := 2 * t.width
  { t with
    texts := parted (fun bs => (hash bs).toNat % k) t.texts
    wholes := parted (fun n => (n % (k : Int)).toNat) t.wholes }

def enlarged (t : Table) : Table :=
  if t.width * load < t.size + 1 then t.doubled else t

def withTexts (t : Table) : Table :=
  if t.hasTexts then t
  else
    let t := t.wholes.foldl (fun t l => l.foldl (fun t n => t.addText (Key.whole n).toText) t) t
    { t with hasTexts := true, isList := false }

def isWhole (t : Table) (n : Int) : Bool :=
  (t.wholes.getD (t.wholeBucket n) []).contains n

def used (t : Table) (k : Key) : Table :=
  match k with
  | .text bs =>
    let t := t.withTexts
    if t.values.contains bs then t.addText bs else t
  | .whole n =>
    let bs := k.toText
    if t.isList && t.values.contains bs then t
    else
      let t := { t with isList := false }
      if t.isWhole n then t.addWhole n
      else if t.hasTexts && t.values.contains bs then (t.addText bs).addWhole n
      else t

def contains (t : Table) (k : Key) : Bool := t.values.contains k.toText

def get? (t : Table) (k : Key) : Option Value := t.values[k.toText]?

def created (t : Table) (k : Key) : Table :=
  let t := t.used k
  let bs := k.toText
  if t.values.contains bs then t
  else
    let t := t.enlarged
    let t := match k with
      | .text bs => t.addText bs
      | .whole n => (if t.hasTexts then t.addText bs else t).addWhole n
    { t with values := t.values.insert bs .unset }

def set (t : Table) (k : Key) (v : Value) : Table :=
  let t := t.created k
  { t with values := t.values.insert k.toText v }

def erase (t : Table) (k : Key) : Table :=
  let bs := k.toText
  let t := if k matches .text _ then t.withTexts else t
  if t.values.contains bs then
    let number? : Option Int := match k with
      | .whole n => some n
      | .text bs => (stringOf bs).toInt?.filter fun n => (Key.whole n).toText = bs
    let t := match number? with
      | some n => { t with wholes := t.wholes.modify (t.wholeBucket n) (·.erase n) }
      | none => t
    let t := { t with
      texts := t.texts.modify (t.textBucket bs) (·.erase bs)
      values := t.values.erase bs
      isList := false }
    if t.size = 0 then { t with hasTexts := false } else t
  else t

def keys (t : Table) : List Bytes × Table :=
  let t := t.withTexts
  (t.texts.toList.flatten, t)

def numbered (first : Nat) (vs : List Value) : Table :=
  vs.zipIdx.foldl (fun t (v, i) => t.set (.whole (first + i : Nat)) v) {}

def ofList (vs : List Value) : Table := { numbered 1 vs with isList := true }

end Table
end Freshen.Shell.Awk
