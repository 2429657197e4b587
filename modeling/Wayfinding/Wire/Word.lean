/-!
# Words as bytes

Natural numbers as a fixed count of bytes, in both byte orders.

Main statements: `ofBigEndian_bigEndian` and `bigEndian_ofBigEndian`, by which numbers that fit and
byte strings of one length correspond.
-/

namespace Wayfinding.Word

/-- The lowest `count` bytes of a number, the lowest first. -/
def littleEndian : Nat → Nat → List UInt8
  | 0, _ => []
  | count + 1, n => UInt8.ofNat n :: littleEndian count (n / 256)

/-- The number whose bytes are given, the lowest first. -/
def ofLittleEndian : List UInt8 → Nat
  | [] => 0
  | b :: bytes => b.toNat + 256 * ofLittleEndian bytes

/-- The lowest `count` bytes of a number, the highest first. -/
def bigEndian (count n : Nat) : List UInt8 := (littleEndian count n).reverse

/-- The number whose bytes are given, the highest first. -/
def ofBigEndian (bytes : List UInt8) : Nat := ofLittleEndian bytes.reverse

@[simp] theorem length_littleEndian (count n : Nat) : (littleEndian count n).length = count := by
  induction count generalizing n with
  | zero => rfl
  | succ count ih => simp [littleEndian, ih]

@[simp] theorem length_bigEndian (count n : Nat) : (bigEndian count n).length = count := by
  simp [bigEndian]

/-- A number that fits in `count` bytes is read back from them. -/
theorem ofLittleEndian_littleEndian {count n : Nat} (h : n < Nat.pow 256 count) :
    ofLittleEndian (littleEndian count n) = n := by
  induction count generalizing n with
  | zero => simp_all [littleEndian, ofLittleEndian]
  | succ count ih =>
    have hn : n / 256 < Nat.pow 256 count := by
      have h : n < Nat.pow 256 count * 256 := h
      exact Nat.div_lt_of_lt_mul (by omega)
    simp only [littleEndian, ofLittleEndian, ih hn, UInt8.toNat_ofNat']
    omega

/-- A number that fits in `count` bytes is read back from them, the highest first. -/
theorem ofBigEndian_bigEndian {count n : Nat} (h : n < Nat.pow 256 count) :
    ofBigEndian (bigEndian count n) = n := by
  simp [ofBigEndian, bigEndian, ofLittleEndian_littleEndian h]

/-- Bytes give a number that fits in them. -/
theorem ofLittleEndian_lt (bytes : List UInt8) :
    ofLittleEndian bytes < Nat.pow 256 bytes.length := by
  induction bytes with
  | nil => simp [ofLittleEndian]
  | cons b bytes ih =>
    have hb := b.toNat_lt
    change b.toNat + 256 * ofLittleEndian bytes < Nat.pow 256 bytes.length * 256
    omega

/-- Bytes are written back from the number that they give. -/
theorem littleEndian_ofLittleEndian (bytes : List UInt8) :
    littleEndian bytes.length (ofLittleEndian bytes) = bytes := by
  induction bytes with
  | nil => rfl
  | cons b bytes ih =>
    have hb := b.toNat_lt
    have h1 : (b.toNat + 256 * ofLittleEndian bytes) / 256 = ofLittleEndian bytes := by omega
    have h2 : UInt8.ofNat (b.toNat + 256 * ofLittleEndian bytes) = b := by
      apply UInt8.toNat_inj.mp
      rw [UInt8.toNat_ofNat']
      omega
    simp only [List.length_cons, ofLittleEndian, littleEndian, h1, h2, ih]

/-- Bytes are written back from the number that they give, the highest first. -/
theorem bigEndian_ofBigEndian (bytes : List UInt8) :
    bigEndian bytes.length (ofBigEndian bytes) = bytes := by
  have h := littleEndian_ofLittleEndian bytes.reverse
  rw [List.length_reverse] at h
  simp [bigEndian, ofBigEndian, h]

end Wayfinding.Word
