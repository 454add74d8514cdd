import Mathlib
import LinkStack.Proofs.Frame.Burst

/-!
The checksums as remainders of polynomials.

A number stands for the polynomial over the two-element field whose coefficients are its
binary digits (`binary`), and a byte string for that of the number it is big end first. So
an exclusive or is a sum. In the ring of residues of the divisor a division step
multiplies by `x` (`residue_divisionStep`), and a byte that is taken in multiplies by
`x ^ 8` and adds the byte above the top of the remainder. By induction over the bytes the
remainder that is kept has the residue of the whole string, shifted by its own width
(`residue_foldl`); being narrower than the divisor, it is the remainder (`crc_remainder`).
-/

namespace LinkStack.Frame

open Polynomial

/-! ### Polynomials of numbers -/

/-- The polynomial whose coefficients are the binary digits of a number. -/
noncomputable def binary (n : Nat) : (ZMod 2)[X] :=
  ∑ i ∈ Finset.range n.size, if n.testBit i then X ^ i else 0

@[simp] theorem coeff_binary (n i : Nat) : (binary n).coeff i = if n.testBit i then 1 else 0 := by
  have hterm (j : Nat) : (if n.testBit j then X ^ j else 0 : (ZMod 2)[X]).coeff i =
      if i = j then (if n.testBit i then 1 else 0) else 0 := by
    by_cases hij : i = j
    · subst hij
      split <;> simp
    · split <;> simp [coeff_X_pow, hij]
  rw [binary, finsetSum_coeff, Finset.sum_congr rfl fun j _ => hterm j, Finset.sum_ite_eq]
  split
  · rfl
  · rename_i hi
    rw [Finset.mem_range, Nat.lt_size, not_le] at hi
    rw [Nat.testBit_lt_two_pow hi]
    rfl

theorem binary_injective : Function.Injective binary := by
  intro m n heq
  refine Nat.eq_of_testBit_eq fun i => ?_
  have hcoeff := congrArg (fun p => p.coeff i) heq
  simp only [coeff_binary] at hcoeff
  cases hm : m.testBit i <;> cases hn : n.testBit i <;> simp_all

@[simp] theorem binary_zero : binary 0 = 0 := by
  ext i
  simp

theorem binary_two_pow (k : Nat) : binary (2 ^ k) = X ^ k := by
  ext i
  simp [Nat.testBit_two_pow, coeff_X_pow, eq_comm]

/-- An exclusive or is a sum. -/
theorem binary_xor (m n : Nat) : binary (m ^^^ n) = binary m + binary n := by
  ext i
  rw [coeff_add, coeff_binary, coeff_binary, coeff_binary, Nat.testBit_xor]
  cases m.testBit i <;> cases n.testBit i <;> decide

/-- Digits written behind others shift them. -/
theorem binary_mul_add {k low : Nat} (h : low < 2 ^ k) (high : Nat) :
    binary (2 ^ k * high + low) = binary high * X ^ k + binary low := by
  ext i
  rw [coeff_add, coeff_mul_X_pow', coeff_binary, coeff_binary, coeff_binary,
    Nat.testBit_two_pow_mul_add _ h]
  by_cases hi : i < k
  · simp [hi, Nat.not_le.mpr hi]
  · have hlow : low < 2 ^ i := Nat.lt_of_lt_of_le h (Nat.pow_le_pow_right (by decide) (by omega))
    simp [hi, Nat.not_lt.mp hi, Nat.testBit_lt_two_pow hlow]

theorem binary_two_pow_mul (k n : Nat) : binary (2 ^ k * n) = binary n * X ^ k := by
  simpa using binary_mul_add (Nat.two_pow_pos k) n

theorem degree_binary_lt {n w : Nat} (h : n < 2 ^ w) : (binary n).degree < w := by
  refine (degree_lt_iff_coeff_zero _ _).mpr fun i hi => ?_
  have hn : n < 2 ^ i := Nat.lt_of_lt_of_le h (Nat.pow_le_pow_right (by decide) hi)
  rw [coeff_binary, Nat.testBit_lt_two_pow hn]
  rfl

/-! ### Polynomials of byte strings -/

theorem binary_ofLittleEnd_cons (b : UInt8) (bytes : Bytes) :
    binary (Bytes.ofLittleEnd (b :: bytes)) =
      binary (Bytes.ofLittleEnd bytes) * X ^ 8 + binary b.toNat := by
  rw [Bytes.ofLittleEnd, Nat.add_comm]
  exact binary_mul_add b.toNat_lt _

theorem binary_ofBigEnd_concat (bytes : Bytes) (b : UInt8) :
    binary (Bytes.ofBigEnd (bytes ++ [b])) =
      binary (Bytes.ofBigEnd bytes) * X ^ 8 + binary b.toNat := by
  rw [Bytes.ofBigEnd, List.reverse_concat, binary_ofLittleEnd_cons, Bytes.ofBigEnd]

theorem binary_ofLittleEnd_zipWith {bytes bytes' : Bytes} (h : bytes.length = bytes'.length) :
    binary (Bytes.ofLittleEnd (List.zipWith (· ^^^ ·) bytes bytes')) =
      binary (Bytes.ofLittleEnd bytes) + binary (Bytes.ofLittleEnd bytes') := by
  induction bytes generalizing bytes' with
  | nil =>
      obtain rfl := List.length_eq_zero_iff.mp h.symm
      simp [Bytes.ofLittleEnd]
  | cons b bytes ih =>
      obtain ⟨b', bytes', rfl⟩ := List.exists_cons_of_length_eq_add_one h.symm
      rw [List.zipWith_cons_cons, binary_ofLittleEnd_cons, binary_ofLittleEnd_cons,
        binary_ofLittleEnd_cons, ih (Nat.succ.inj h), UInt8.toNat_xor, binary_xor]
      ring

theorem binary_ofBigEnd_zipWith {bytes bytes' : Bytes} (h : bytes.length = bytes'.length) :
    binary (Bytes.ofBigEnd (List.zipWith (· ^^^ ·) bytes bytes')) =
      binary (Bytes.ofBigEnd bytes) + binary (Bytes.ofBigEnd bytes') := by
  have hreverse : bytes.reverse.length = bytes'.reverse.length := by simpa using h
  rw [Bytes.ofBigEnd, List.reverse_zipWith h, binary_ofLittleEnd_zipWith hreverse, Bytes.ofBigEnd,
    Bytes.ofBigEnd]

/-! ### Division steps -/

/-- A divisor with the leading term that its number leaves out. -/
noncomputable def withLead {w : Nat} (divisor : BitVec w) : (ZMod 2)[X] :=
  X ^ w + binary divisor.toNat

theorem monic_withLead {w : Nat} (divisor : BitVec w) : (withLead divisor).Monic :=
  monic_X_pow_add (degree_binary_lt divisor.isLt)

theorem degree_withLead {w : Nat} (divisor : BitVec w) : (withLead divisor).degree = w := by
  have hlt : (binary divisor.toNat).degree < (X ^ w : (ZMod 2)[X]).degree := by
    rw [degree_X_pow]
    exact degree_binary_lt divisor.isLt
  rw [withLead, degree_add_eq_left_of_degree_lt hlt, degree_X_pow]

/-- The bit that falls out of the top, and the bits that stay. -/
theorem two_mul_toNat {w : Nat} (r : BitVec w) :
    2 ^ 1 * r.toNat = 2 ^ w * r.msb.toNat + (r <<< 1).toNat := by
  have hlow : (r <<< 1).toNat = 2 ^ 1 * r.toNat % 2 ^ w := by
    rw [BitVec.toNat_shiftLeft, Nat.shiftLeft_eq, Nat.mul_comm]
  have hhigh : r.msb.toNat = 2 ^ 1 * r.toNat / 2 ^ w := by
    cases w with
    | zero => simp [BitVec.eq_nil r]
    | succ w =>
        have htop : r.toNat / 2 ^ w < 2 := Nat.div_lt_of_lt_mul r.isLt
        rw [BitVec.msb_eq_getLsbD_last, Nat.add_sub_cancel, ← BitVec.testBit_toNat,
          Nat.toNat_testBit, Nat.mod_eq_of_lt htop, Nat.pow_one, Nat.pow_succ',
          Nat.mul_div_mul_left _ _ Nat.two_pos]
  rw [hlow, hhigh, Nat.div_add_mod]

/-- What a division step takes away is the divisor, if a one falls out of the top. -/
theorem binary_divisionStep {w : Nat} (divisor r : BitVec w) :
    binary r.toNat * X =
      binary (divisionStep divisor r).toNat + if r.msb then withLead divisor else 0 := by
  have hshift : binary r.toNat * X = binary r.msb.toNat * X ^ w + binary (r <<< 1).toNat := by
    rw [← binary_mul_add (r <<< 1).isLt, ← two_mul_toNat, binary_two_pow_mul, pow_one]
  rw [hshift, divisionStep, BitVec.toNat_xor, binary_xor]
  cases r.msb with
  | false => simp
  | true =>
      have hone : binary 1 = 1 := binary_two_pow 0
      have htwice : binary divisor.toNat + binary divisor.toNat = 0 := CharTwo.add_self_eq_zero _
      simp only [Bool.toNat_true, hone, one_mul, if_true, withLead]
      linear_combination -htwice

/-! ### Residues

What is kept is followed in any ring in which the divisor is zero, and in the end in the ring of
its residues. -/

section Residues

variable {R σ : Type} [CommRing R] {φ : (ZMod 2)[X] →+* R} (value : σ → Nat)

theorem residue_divisionStep {w : Nat} {divisor : BitVec w} (h : φ (withLead divisor) = 0)
    (r : BitVec w) :
    φ (binary (divisionStep divisor r).toNat) = φ (binary r.toNat * X) := by
  rw [binary_divisionStep divisor, map_add]
  split
  · rw [h, add_zero]
  · rw [map_zero, add_zero]

theorem residue_repeat {shift : σ → σ}
    (h : ∀ r, φ (binary (value (shift r))) = φ (binary (value r) * X)) (count : Nat) (r : σ) :
    φ (binary (value (Nat.repeat shift count r))) = φ (binary (value r) * X ^ count) := by
  induction count with
  | zero => rw [Nat.repeat, pow_zero, mul_one]
  | succ count ih => rw [Nat.repeat, h, map_mul, ih, ← map_mul, pow_succ, mul_assoc]

/-- What a register holds after a string has the residue of the string, shifted by the width of
the register, and of what it held before, shifted by the string. -/
theorem residue_foldl {width : Nat} {step : σ → UInt8 → σ}
    (h : ∀ r b, φ (binary (value (step r b))) =
      φ (binary b.toNat * X ^ width + binary (value r) * X ^ 8)) (bytes : Bytes) (r : σ) :
    φ (binary (value (bytes.foldl step r))) =
      φ (binary (Bytes.ofBigEnd bytes) * X ^ width + binary (value r) * X ^ (8 * bytes.length)) := by
  induction bytes using List.reverseRecOn with
  | nil => simp [Bytes.ofBigEnd, Bytes.ofLittleEnd]
  | append_singleton bytes b ih =>
      have hlength : 8 * (bytes ++ [b]).length = 8 * bytes.length + 8 := by simp; omega
      rw [List.foldl_concat, h, binary_ofBigEnd_concat, hlength, pow_add]
      simp only [map_add, map_mul, ih]
      ring

end Residues

/-! ### Remainders -/

/-- A number that is narrower than the divisor is the remainder of all that have its residue. -/
theorem binary_eq_modByMonic {w n : Nat} (divisor : BitVec w) {p : (ZMod 2)[X]} (hn : n < 2 ^ w)
    (h : AdjoinRoot.mk (withLead divisor) (binary n) = AdjoinRoot.mk (withLead divisor) p) :
    binary n = p %ₘ withLead divisor := by
  have hnarrow : (binary n).degree < (withLead divisor).degree := by
    rw [degree_withLead]
    exact degree_binary_lt hn
  rw [← (modByMonic_eq_self_iff (monic_withLead divisor)).mpr hnarrow]
  exact modByMonic_eq_of_dvd_sub (monic_withLead divisor) (AdjoinRoot.mk_eq_mk.mp h)

/-- A register into which each byte enters at the top, followed by eight division steps, holds the
remainder of the string behind what it held first. -/
theorem foldl_eq_modByMonic {σ : Type} {w : Nat} {divisor : BitVec w} {held : σ → BitVec w}
    {shift : σ → σ} {enter : σ → UInt8 → σ} (hwide : 8 ≤ w)
    (hshift : ∀ r, held (shift r) = divisionStep divisor (held r))
    (henter : ∀ r b, (held (enter r b)).toNat = 2 ^ (w - 8) * b.toNat ^^^ (held r).toNat)
    (bytes : Bytes) (start : σ) :
    binary (held (bytes.foldl (fun r b => Nat.repeat shift 8 (enter r b)) start)).toNat =
      (binary (Bytes.ofBigEnd bytes) * X ^ w +
        binary (held start).toNat * X ^ (8 * bytes.length)) %ₘ withLead divisor := by
  have hstep (r : σ) : AdjoinRoot.mk (withLead divisor) (binary (held (shift r)).toNat) =
      AdjoinRoot.mk (withLead divisor) (binary (held r).toNat * X) := by
    rw [hshift]
    exact residue_divisionStep AdjoinRoot.mk_self (held r)
  have hbyte (r : σ) (b : UInt8) :
      AdjoinRoot.mk (withLead divisor) (binary (held (Nat.repeat shift 8 (enter r b))).toNat) =
        AdjoinRoot.mk (withLead divisor)
          (binary b.toNat * X ^ w + binary (held r).toNat * X ^ 8) := by
    have htop : X ^ (w - 8) * X ^ 8 = (X ^ w : (ZMod 2)[X]) := by
      rw [← pow_add, Nat.sub_add_cancel hwide]
    rw [residue_repeat (fun r => (held r).toNat) hstep, henter, binary_xor,
      binary_two_pow_mul, add_mul, mul_assoc, htop]
  refine binary_eq_modByMonic divisor (BitVec.isLt _) ?_
  exact residue_foldl (fun r => (held r).toNat) hbyte bytes start

theorem crc8_eq_modByMonic (bytes : Bytes) : binary (crc8 bytes).toNat =
    (binary (Bytes.ofBigEnd bytes) * X ^ 8) %ₘ withLead crc8Divisor.toBitVec := by
  have henter (r b : UInt8) : (r ^^^ b).toBitVec.toNat =
      2 ^ (8 - 8) * b.toNat ^^^ r.toBitVec.toNat := by
    simp [Nat.xor_comm]
  have hremainder := foldl_eq_modByMonic (by decide) toBitVec_crc8Shift henter bytes 0
  have hstart : binary (0 : UInt8).toBitVec.toNat = 0 := binary_zero
  rw [hstart, zero_mul, add_zero] at hremainder
  exact hremainder

theorem crc16_eq_modByMonic (bytes : Bytes) : binary (crc16 bytes).toNat =
    (binary (Bytes.ofBigEnd bytes) * X ^ 16 + binary crc16Start.toNat * X ^ (8 * bytes.length)) %ₘ
      withLead crc16Divisor.toBitVec := by
  have henter (r : UInt16) (b : UInt8) : (r ^^^ b.toUInt16 <<< 8).toBitVec.toNat =
      2 ^ (16 - 8) * b.toNat ^^^ r.toBitVec.toNat := by
    have hb := b.toNat_lt
    have htop : (b.toUInt16 <<< 8).toNat = 2 ^ (16 - 8) * b.toNat := by
      simp only [UInt16.toNat_shiftLeft, UInt8.toNat_toUInt16, UInt16.toNat_ofNat,
        Nat.shiftLeft_eq, Nat.reducePow, Nat.reduceMod]
      omega
    rw [UInt16.toNat_toBitVec, UInt16.toNat_xor, htop, Nat.xor_comm, UInt16.toNat_toBitVec]
  exact foldl_eq_modByMonic (by decide) toBitVec_crc16Shift henter bytes crc16Start

theorem withLead_crc8Divisor : withLead crc8Divisor.toBitVec = X ^ 8 + X ^ 6 + X ^ 3 + X ^ 2 + 1 := by
  have hdigits : crc8Divisor.toBitVec.toNat = 2 ^ 6 ^^^ (2 ^ 3 ^^^ (2 ^ 2 ^^^ 2 ^ 0)) := by decide
  rw [withLead, hdigits, binary_xor, binary_xor, binary_xor]
  rw [binary_two_pow, binary_two_pow, binary_two_pow, binary_two_pow]
  ring

theorem withLead_crc16Divisor : withLead crc16Divisor.toBitVec = X ^ 16 + X ^ 12 + X ^ 5 + 1 := by
  have hdigits : crc16Divisor.toBitVec.toNat = 2 ^ 12 ^^^ (2 ^ 5 ^^^ 2 ^ 0) := by decide
  rw [withLead, hdigits, binary_xor, binary_xor]
  rw [binary_two_pow, binary_two_pow, binary_two_pow]
  ring

/-- The narrow checksum goes along with the exclusive or, since remainders go along with sums. -/
theorem crc8_zipWith_xor {bytes bytes' : Bytes} (h : bytes.length = bytes'.length) :
    crc8 (List.zipWith (· ^^^ ·) bytes bytes') = crc8 bytes ^^^ crc8 bytes' := by
  rw [← UInt8.toNat_inj]
  apply binary_injective
  rw [crc8_eq_modByMonic, binary_ofBigEnd_zipWith h, add_mul, add_modByMonic,
    ← crc8_eq_modByMonic, ← crc8_eq_modByMonic, UInt8.toNat_xor, binary_xor]

/-- The checksums are remainders of the string, read as a polynomial from its most significant bit
on and shifted by the width of the checksum; the wide one puts its start in front of the string.
So the checksum of a string and its checksum is zero, and of no other continuation of that width,
and the narrow checksum of an exclusive or is that of the checksums. -/
theorem crc_remainder :
    (∀ bytes : Bytes, binary (crc8 bytes).toNat =
      (binary (Bytes.ofBigEnd bytes) * X ^ 8) %ₘ (X ^ 8 + X ^ 6 + X ^ 3 + X ^ 2 + 1)) ∧
    (∀ bytes : Bytes, binary (crc16 bytes).toNat =
      (binary (Bytes.ofBigEnd bytes) * X ^ 16 + binary 0xFFFF * X ^ (8 * bytes.length)) %ₘ
        (X ^ 16 + X ^ 12 + X ^ 5 + 1)) ∧
    (∀ (bytes : Bytes) (c : UInt8), crc8 (bytes ++ [c]) = 0 ↔ c = crc8 bytes) ∧
    (∀ (bytes : Bytes) (c c' : UInt8), crc16 (bytes ++ [c, c']) = 0 ↔
      [c, c'] = Bytes.bigEnd 2 (crc16 bytes).toNat) ∧
    ∀ bytes bytes' : Bytes, bytes.length = bytes'.length →
      crc8 (List.zipWith (· ^^^ ·) bytes bytes') = crc8 bytes ^^^ crc8 bytes' := by
  refine ⟨fun bytes => ?_, fun bytes => ?_, fun bytes c => ?_, fun bytes c c' => ?_,
    fun bytes bytes' => crc8_zipWith_xor⟩
  · rw [crc8_eq_modByMonic, withLead_crc8Divisor]
  · rw [crc16_eq_modByMonic, withLead_crc16Divisor]
    rfl
  · rw [crc8_concat, crc8Byte_eq_zero_iff, eq_comm]
  · have hlength : [c, c'].length = Mode.compact.checksumSize := rfl
    exact checksum_append_eq_zero_iff hlength

/-- A string and a mask for it. -/
theorem crc_remainder_masked :
    [(0x31 : UInt8), 0x32].length = [(0xFF : UInt8), 0x0F].length ∧
    crc8 [0xCE, 0x3D] = crc8 [0x31, 0x32] ^^^ crc8 [0xFF, 0x0F] :=
  ⟨rfl, crc_remainder.2.2.2.2 [0x31, 0x32] [0xFF, 0x0F] rfl⟩

end LinkStack.Frame
