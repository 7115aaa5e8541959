import Freshen.Blake3
/-! Content fingerprints: the first twenty bytes of BLAKE3. A fingerprint taken from successive
reads is that of all they deliver: `feed_cons`. -/

namespace Freshen

structure Digest where
  bytes : Vector UInt8 20
  deriving DecidableEq

namespace Digest

def hexDigit (n : Nat) : Char := Char.ofNat (if n < 10 then 48 + n else 87 + n)

def hexByte (b : UInt8) : List Char := [hexDigit (b.toNat / 16), hexDigit (b.toNat % 16)]

def hex (d : Digest) : String := String.ofList (d.bytes.toList.flatMap hexByte)

def ofHasher (h : Blake3.Hasher) : Digest := ⟨h.root.rootBytes.take 20⟩

theorem length_flatMap_hexByte (bs : List UInt8) : (bs.flatMap hexByte).length = 2 * bs.length := by
  induction bs with
  | nil => rfl
  | cons b bs ih => simp [hexByte, ih]; omega

theorem hex_length (d : Digest) : d.hex.length = 40 := by
  rw [hex, String.length_ofList, length_flatMap_hexByte, Vector.length_toList]

theorem hexDigit_injective : ∀ m < 16, ∀ n < 16, hexDigit m = hexDigit n → m = n := by decide

theorem hexByte_injective {a b : UInt8} (h : hexByte a = hexByte b) : a = b := by
  simp only [hexByte, List.cons.injEq, and_true] at h
  have ha := a.toNat_lt
  have hb := b.toNat_lt
  have hhigh := hexDigit_injective _ (by omega) _ (by omega) h.1
  have hlow := hexDigit_injective _ (by omega) _ (by omega) h.2
  exact UInt8.toNat_inj.mp (by omega)

theorem flatMap_hexByte_injective {as bs : List UInt8}
    (h : as.flatMap hexByte = bs.flatMap hexByte) : as = bs := by
  induction as generalizing bs with
  | nil =>
    cases bs with
    | nil => rfl
    | cons b bs => simp [hexByte] at h
  | cons a as ih =>
    cases bs with
    | nil => simp [hexByte] at h
    | cons b bs =>
      simp only [List.flatMap_cons] at h
      obtain ⟨hab, hrest⟩ := List.append_inj h rfl
      rw [hexByte_injective hab, ih hrest]

theorem hex_injective {d e : Digest} (h : d.hex = e.hex) : d = e := by
  have hb := Vector.toList_inj.mp (flatMap_hexByte_injective (String.ofList_injective h))
  exact congrArg mk hb

end Digest

def fingerprint (bytes : ByteArray) : Digest := .ofHasher (Blake3.Hasher.update {} bytes)

def fingerprintText (s : String) : Digest := fingerprint s.toUTF8

def feed (h : Blake3.Hasher) : List ByteArray → Blake3.Hasher
  | [] => h
  | r :: rs => if r.size = 0 then h else feed (h.update r) rs

theorem feed_cons {h : Blake3.Hasher} {r : ByteArray} {rs : List ByteArray} (hr : r.size ≠ 0) :
    feed h (r :: rs) = feed (h.update r) rs := by
  simp [feed, hr]

def fingerprintReads (reads : List ByteArray) : Digest := .ofHasher (feed {} reads)

def readSize : Nat := 8192

def reads (bytes : ByteArray) : List ByteArray :=
  if bytes.size = 0 then []
  else bytes.extract 0 readSize :: reads (bytes.extract readSize bytes.size)
  termination_by bytes.size
  decreasing_by simp [readSize]; omega

end Freshen
