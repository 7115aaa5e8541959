import Freshen.Files
import Mathlib.Tactic

/-! A digest does not depend on how the bytes arrive: all at once, or by reads into one buffer that
is filled again and again and that no read has to fill. -/

namespace Freshen

abbrev Buffer := Vector UInt8 readSize

namespace Buffer

def refill (b : Buffer) (r : ByteArray) : Buffer :=
  Vector.ofFn fun i => if h : i.val < r.size then r[i] else b[i]

def front (b : Buffer) (n : Nat) : ByteArray := ⟨b.toArray.extract 0 n⟩

lemma front_refill (b : Buffer) {r : ByteArray} (hr : r.size ≤ readSize) :
    (b.refill r).front r.size = r := by
  have hsize : ((b.refill r).front r.size).size = r.size := by
    change ((b.refill r).toArray.extract 0 r.size).size = r.size
    simp only [Array.size_extract, Vector.size_toArray, Nat.sub_zero]
    omega
  apply ByteArray.ext_getElem hsize
  intro i hi hi'
  change ((b.refill r).toArray.extract 0 r.size)[i] = r[i]
  simp [refill, hi']

end Buffer

def feedThrough (b : Buffer) (h : Blake3.Hasher) : List ByteArray → Blake3.Hasher
  | [] => h
  | r :: rs =>
    if r.size = 0 then h
    else feedThrough (b.refill r) (h.update ((b.refill r).front r.size)) rs

def fingerprintThrough (b : Buffer) (reads : List ByteArray) : Digest :=
  .ofHasher (feedThrough b {} reads)

def readTogether : List ByteArray → ByteArray
  | [] => .empty
  | r :: rs => r ++ readTogether rs

structure Delivers (rs : List ByteArray) (bytes : ByteArray) : Prop where
  nonempty : ∀ r ∈ rs, r.size ≠ 0
  fits : ∀ r ∈ rs, r.size ≤ readSize
  whole : readTogether rs = bytes

variable {rs ts : List ByteArray} {bytes : ByteArray} {h : Blake3.Hasher}

lemma feed_append (hn : ∀ r ∈ rs, r.size ≠ 0) :
    feed h (rs ++ ts) = feed (h.update (readTogether rs)) ts := by
  induction rs generalizing h with
  | nil => rfl
  | cons r rs ih =>
    have hr : r.size ≠ 0 := hn r (by simp)
    have hrest : ∀ q ∈ rs, q.size ≠ 0 := fun q hq => hn q (List.mem_cons_of_mem _ hq)
    calc
      feed h (r :: rs ++ ts) = feed (h.update r) (rs ++ ts) := feed_cons hr
      _ = feed ((h.update r).update (readTogether rs)) ts := ih hrest
      _ = feed (h.update (readTogether (r :: rs))) ts := by
        rw [← Blake3.Hasher.update_append, readTogether]

lemma feedThrough_eq_feed (b : Buffer) (hb : ∀ r ∈ rs, r.size ≤ readSize) :
    feedThrough b h (rs ++ .empty :: ts) = feed h (rs ++ .empty :: ts) := by
  induction rs generalizing b h with
  | nil => rfl
  | cons r rs ih =>
    have hr : r.size ≤ readSize := hb r (by simp)
    have hrest : ∀ q ∈ rs, q.size ≤ readSize := fun q hq => hb q (List.mem_cons_of_mem _ hq)
    rw [List.cons_append, feedThrough, feed, b.front_refill hr]
    split
    · rfl
    · exact ih _ hrest

lemma reads_delivers (bytes : ByteArray) : Delivers (reads bytes) bytes := by
  induction bytes using reads.induct with
  | case1 bytes hempty =>
    rw [reads, if_pos hempty]
    exact ⟨by simp, by simp, (ByteArray.size_eq_zero_iff.mp hempty).symm⟩
  | case2 bytes hne ih =>
    have hfirst : (bytes.extract 0 readSize).size = min readSize bytes.size := by simp
    have hpos : 0 < readSize := by decide
    rw [reads, if_neg hne]
    refine ⟨?_, ?_, ?_⟩
    · exact List.forall_mem_cons.mpr ⟨by omega, ih.nonempty⟩
    · exact List.forall_mem_cons.mpr ⟨by omega, ih.fits⟩
    · rw [readTogether, ih.whole, ByteArray.extract_append_extract]
      simp

lemma Delivers.fingerprintReads_eq (hd : Delivers rs bytes) (ts : List ByteArray)
    (hend : ∀ h, feed h ts = h) : fingerprintReads (rs ++ ts) = fingerprint bytes := by
  rw [fingerprintReads, feed_append hd.nonempty, hend, hd.whole, fingerprint]

/-- However a reader delivers some bytes, and whatever was in the buffer before, their digest is
that of the bytes in one piece. So is the digest of a file that holds them. -/
theorem fingerprint_of_reads :
    (∀ (b : Buffer) (rs rest : List ByteArray) (bytes : ByteArray), Delivers rs bytes →
      fingerprintThrough b (rs ++ .empty :: rest) = fingerprint bytes ∧
      fingerprintReads (rs ++ .empty :: rest) = fingerprint bytes) ∧
    ∀ (f : Files) (p : Path) (bytes : ByteArray), f.openRead p = .ok (.ok bytes) →
      f.digest p = .ok (fingerprint bytes) := by
  constructor
  · intro b rs rest bytes hd
    have hreads : fingerprintReads (rs ++ .empty :: rest) = fingerprint bytes :=
      hd.fingerprintReads_eq (.empty :: rest) fun h => rfl
    refine ⟨?_, hreads⟩
    rw [fingerprintThrough, feedThrough_eq_feed b hd.fits]
    exact hreads
  · intro f p bytes hopen
    have hreads := (reads_delivers bytes).fingerprintReads_eq [] fun h => rfl
    rw [List.append_nil] at hreads
    rw [Files.digest, hopen]
    exact congrArg Except.ok hreads

def zeros (n : Nat) : ByteArray := ⟨.replicate n 0⟩

lemma zeros_append (m n : Nat) : zeros m ++ zeros n = zeros (m + n) := by
  apply ByteArray.ext
  rw [ByteArray.data_append]
  exact Array.replicate_append_replicate

lemma readTogether_zeros (ns : List Nat) : readTogether (ns.map zeros) = zeros ns.sum := by
  induction ns with
  | nil => rfl
  | cons n ns ih => rw [List.map_cons, readTogether, ih, zeros_append, List.sum_cons]

lemma zeros_delivers (ns : List Nat) (hs : ∀ n ∈ ns, n ≠ 0 ∧ n ≤ readSize) :
    Delivers (ns.map zeros) (zeros ns.sum) := by
  have hsize : ∀ n, (zeros n).size = n := fun n => Array.size_replicate
  refine ⟨?_, ?_, readTogether_zeros ns⟩
  · exact List.forall_mem_map.mpr fun n hn => (hsize n).symm ▸ (hs n hn).1
  · exact List.forall_mem_map.mpr fun n hn => (hsize n).symm ▸ (hs n hn).2

theorem fingerprint_of_reads_zeros :
    fingerprintThrough (.replicate readSize 255) [zeros readSize, zeros readSize, .empty] =
      fingerprintReads [zeros 1, zeros readSize, zeros (readSize - 1), .empty] ∧
    (FileSet.files ⟨[(⟨"zeros"⟩, zeros (2 * readSize))]⟩).digest ⟨"zeros"⟩ =
      .ok (fingerprint (zeros (2 * readSize))) := by
  have htwo : Delivers [zeros readSize, zeros readSize] (zeros (2 * readSize)) :=
    zeros_delivers [readSize, readSize] (by decide)
  have hthree : Delivers [zeros 1, zeros readSize, zeros (readSize - 1)] (zeros (2 * readSize)) :=
    zeros_delivers [1, readSize, readSize - 1] (by decide)
  have hplain : (Path.mk "zeros").plain = ⟨"zeros"⟩ := by decide
  obtain ⟨hreads, hfiles⟩ := fingerprint_of_reads
  constructor
  · calc
      _ = fingerprint (zeros (2 * readSize)) := (hreads _ _ [] _ htwo).1
      _ = _ := (hreads (.replicate readSize 0) _ [] _ hthree).2.symm
  · apply hfiles
    simp [FileSet.files, FileSet.get?, hplain, Keyed.get?_cons]

end Freshen
