/-!
Byte strings, and whole numbers written into a fixed number of bytes.

A byte string is a list of bytes: every packet, buffer and wire format of the
library is one, and the laws of lists are the laws of the formats. A number is
written little end first (`littleEnd`) or big end first (`bigEnd`); the width
is the number of bytes, and a number too large for it loses its high bytes.
Reading (`ofLittleEnd`, `ofBigEnd`) takes every byte it is given, so the width
is the length of the string.
-/

namespace LinkStack

/-- A byte string. -/
abbrev Bytes := List UInt8

namespace Bytes

/-- The low `width` bytes of a number, least significant first. -/
def littleEnd : Nat → Nat → Bytes
  | 0, _ => []
  | width + 1, n => UInt8.ofNat n :: littleEnd width (n / 256)

/-- The number whose bytes are given least significant first. -/
def ofLittleEnd : Bytes → Nat
  | [] => 0
  | b :: rest => b.toNat + 256 * ofLittleEnd rest

/-- The low `width` bytes of a number, most significant first. -/
def bigEnd (width n : Nat) : Bytes := (littleEnd width n).reverse

/-- The number whose bytes are given most significant first. -/
def ofBigEnd (bytes : Bytes) : Nat := ofLittleEnd bytes.reverse

/-- How many numbers fit into a number of bytes. -/
def range : Nat → Nat
  | 0 => 1
  | width + 1 => 256 * range width

@[simp] theorem length_littleEnd (width n : Nat) : (littleEnd width n).length = width := by
  induction width generalizing n with
  | zero => rfl
  | succ width ih => simp [littleEnd, ih]

@[simp] theorem length_bigEnd (width n : Nat) : (bigEnd width n).length = width := by
  simp [bigEnd]

theorem ofLittleEnd_lt (bytes : Bytes) : ofLittleEnd bytes < range bytes.length := by
  induction bytes with
  | nil => simp [ofLittleEnd, range]
  | cons b rest ih =>
    have hb := b.toNat_lt
    simp only [ofLittleEnd, List.length_cons, range]
    omega

/-- A number that fits its width is read back. -/
theorem ofLittleEnd_littleEnd {width n : Nat} (h : n < range width) :
    ofLittleEnd (littleEnd width n) = n := by
  induction width generalizing n with
  | zero => simp_all [littleEnd, ofLittleEnd, range]
  | succ width ih =>
    have hrest : n / 256 < range width := Nat.div_lt_of_lt_mul h
    simp only [littleEnd, ofLittleEnd, ih hrest, UInt8.toNat_ofNat']
    omega

/-- Writing what was read gives the bytes back. -/
theorem littleEnd_ofLittleEnd (bytes : Bytes) :
    littleEnd bytes.length (ofLittleEnd bytes) = bytes := by
  induction bytes with
  | nil => rfl
  | cons b rest ih =>
    have hb := b.toNat_lt
    have hdiv : (b.toNat + 256 * ofLittleEnd rest) / 256 = ofLittleEnd rest := by omega
    simp only [List.length_cons, ofLittleEnd, littleEnd, hdiv, ih, List.cons.injEq, and_true]
    apply UInt8.toNat_inj.mp
    simp only [UInt8.toNat_ofNat']
    omega

theorem ofBigEnd_bigEnd {width n : Nat} (h : n < range width) :
    ofBigEnd (bigEnd width n) = n := by
  simp [ofBigEnd, bigEnd, ofLittleEnd_littleEnd h]

theorem bigEnd_ofBigEnd (bytes : Bytes) : bigEnd bytes.length (ofBigEnd bytes) = bytes := by
  have h := littleEnd_ofLittleEnd bytes.reverse
  rw [List.length_reverse] at h
  simp [ofBigEnd, bigEnd, h]

end Bytes

end LinkStack
