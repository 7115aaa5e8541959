/-! The BLAKE3 hash as a hasher that is fed one byte at a time. The state after feeding depends only
on the bytes fed, not on how they were cut into pieces: `Hasher.update_append`. -/

namespace Freshen.Blake3

abbrev Chain := Vector UInt32 8
abbrev Words := Vector UInt32 16

def initial : Chain :=
  #v[0x6A09E667, 0xBB67AE85, 0x3C6EF372, 0xA54FF53A, 0x510E527F, 0x9B05688C, 0x1F83D9AB, 0x5BE0CD19]

def schedule : Vector (Fin 16) 16 := #v[2, 6, 3, 10, 7, 0, 4, 13, 1, 11, 12, 5, 9, 14, 15, 8]

def rotateRight (x n : UInt32) : UInt32 := (x >>> n) ||| (x <<< (32 - n))

def mix (s : Words) (a b c d : Fin 16) (x y : UInt32) : Words :=
  let s := s.set a (s[a] + s[b] + x)
  let s := s.set d (rotateRight (s[d] ^^^ s[a]) 16)
  let s := s.set c (s[c] + s[d])
  let s := s.set b (rotateRight (s[b] ^^^ s[c]) 12)
  let s := s.set a (s[a] + s[b] + y)
  let s := s.set d (rotateRight (s[d] ^^^ s[a]) 8)
  let s := s.set c (s[c] + s[d])
  s.set b (rotateRight (s[b] ^^^ s[c]) 7)

def round (m s : Words) : Words :=
  let s := mix s 0 4 8 12 m[0] m[1]
  let s := mix s 1 5 9 13 m[2] m[3]
  let s := mix s 2 6 10 14 m[4] m[5]
  let s := mix s 3 7 11 15 m[6] m[7]
  let s := mix s 0 5 10 15 m[8] m[9]
  let s := mix s 1 6 11 12 m[10] m[11]
  let s := mix s 2 7 8 13 m[12] m[13]
  mix s 3 4 9 14 m[14] m[15]

def rounds : Nat → Words → Words → Words
  | 0, _, s => s
  | n + 1, m, s => rounds n (schedule.map (m[·])) (round m s)

structure Node where
  chain : Chain
  words : Words
  counter : UInt64
  length : UInt32
  flags : UInt32

namespace Node

def chunkStart : UInt32 := 1
def chunkEnd : UInt32 := 2
def parentFlag : UInt32 := 4
def rootFlag : UInt32 := 8

def compress (n : Node) : Words :=
  let s : Words := (n.chain ++ #v[initial[0], initial[1], initial[2], initial[3],
    n.counter.toUInt32, (n.counter >>> 32).toUInt32, n.length, n.flags]).cast rfl
  let s := rounds 7 n.words s
  Vector.ofFn fun i =>
    if h : i.val < 8 then s[i] ^^^ s[i.val + 8]
    else s[i] ^^^ n.chain[i.val - 8]

def chaining (n : Node) : Chain :=
  let s := n.compress
  Vector.ofFn fun i => s[i]

def parent (left right : Chain) : Node :=
  ⟨initial, (left ++ right).cast rfl, 0, 64, parentFlag⟩

def rootBytes (n : Node) : Vector UInt8 64 :=
  let s := { n with counter := 0, flags := n.flags ||| rootFlag }.compress
  Vector.ofFn fun i => (s[i.val / 4] >>> (8 * (i.val % 4)).toUInt32).toUInt8

end Node

def word (b : Array UInt8) (i : Nat) : UInt32 :=
  let at_ j := (b[4 * i + j]?.getD 0).toUInt32
  at_ 0 ||| at_ 1 <<< 8 ||| at_ 2 <<< 16 ||| at_ 3 <<< 24

structure Chunk where
  index : UInt64
  chain : Chain := initial
  done : Nat := 0
  block : Array UInt8 := #[]

namespace Chunk

def flags (c : Chunk) : UInt32 := if c.done = 0 then Node.chunkStart else 0

def node (c : Chunk) (extra : UInt32) : Node :=
  ⟨c.chain, Vector.ofFn (word c.block ·.val), c.index, c.block.size.toUInt32, c.flags ||| extra⟩

def isFull (c : Chunk) : Bool := c.done == 15 && c.block.size == 64

def push (c : Chunk) (b : UInt8) : Chunk :=
  if c.block.size = 64 then
    { c with chain := (c.node 0).chaining, done := c.done + 1, block := #[b] }
  else { c with block := c.block.push b }

end Chunk

abbrev Forest := List (Nat × Chain)

def Forest.add (height : Nat) (c : Chain) : Forest → Forest
  | [] => [(height, c)]
  | (h, left) :: rest =>
    if h = height then add (height + 1) (Node.parent left c).chaining rest
    else (height, c) :: (h, left) :: rest

structure Hasher where
  forest : Forest := []
  chunk : Chunk := ⟨0, initial, 0, #[]⟩

namespace Hasher

def push (h : Hasher) (b : UInt8) : Hasher :=
  if h.chunk.isFull then
    { forest := Forest.add 0 (h.chunk.node Node.chunkEnd).chaining h.forest
      chunk := Chunk.push { index := h.chunk.index + 1 } b }
  else { h with chunk := h.chunk.push b }

def update (h : Hasher) (bytes : ByteArray) : Hasher := bytes.data.foldl push h

def root (h : Hasher) : Node :=
  h.forest.foldl (fun n t => Node.parent t.2 n.chaining) (h.chunk.node Node.chunkEnd)

theorem update_append (h : Hasher) (a b : ByteArray) :
    h.update (a ++ b) = (h.update a).update b := by
  simp [update, ByteArray.data_append]

end Hasher
end Freshen.Blake3
