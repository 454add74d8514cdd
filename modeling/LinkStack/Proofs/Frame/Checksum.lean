import LinkStack.Proofs.Frame.Grammar

/-!
What the checksums tell apart.

The divisors have a constant term, so a division step can be undone: the bit
that fell out of the top is the lowest bit of the result. Hence neither a byte
nor the remainder before it is lost when the byte is taken in, and the checksums
of two strings that differ in exactly one byte are different, wherever that
byte stands and however long the strings are (`trailer_set_ne`).
-/

namespace LinkStack.Frame

/-! ### Division steps -/

/-- One division step on remainders of any width. -/
def divisionStep {w : Nat} (divisor r : BitVec w) : BitVec w :=
  r <<< 1 ^^^ (if r.msb then divisor else 0#w)

theorem divisionStep_injective {w : Nat} {divisor : BitVec w} (h : divisor.getLsbD 0 = true) :
    Function.Injective (divisionStep divisor) := by
  intro r r' heq
  have hlow (x : BitVec w) : (divisionStep divisor x).getLsbD 0 = x.msb := by
    rw [divisionStep, BitVec.getLsbD_xor, BitVec.getLsbD_shiftLeft]
    cases x.msb <;> simp [h]
  have hmsb : r.msb = r'.msb := by
    rw [← hlow r, ← hlow r', heq]
  have hshift : r <<< 1 = r' <<< 1 := by
    rw [divisionStep, divisionStep, hmsb] at heq
    exact (BitVec.xor_left_inj _).mp heq
  apply BitVec.eq_of_getLsbD_eq
  intro i hi
  by_cases hlast : i = w - 1
  · subst hlast
    rwa [BitVec.msb_eq_getLsbD_last, BitVec.msb_eq_getLsbD_last] at hmsb
  · have hnext := congrArg (fun x => x.getLsbD (i + 1)) hshift
    simpa [show i + 1 < w by omega, hi] using hnext

theorem and_top_eq_zero_iff {w : Nat} (r : BitVec (w + 1)) :
    r &&& BitVec.twoPow (w + 1) w = 0#(w + 1) ↔ r.msb = false := by
  have htop : BitVec.twoPow (w + 1) w ≠ 0#(w + 1) := by
    intro heq
    have hbit := congrArg (fun x => x.getLsbD w) heq
    simp at hbit
  rw [BitVec.and_twoPow, BitVec.msb_eq_getLsbD_last, Nat.add_sub_cancel]
  cases r.getLsbD w <;> simp [htop]

theorem toBitVec_crc8Shift (r : UInt8) :
    (crc8Shift r).toBitVec = divisionStep crc8Divisor.toBitVec r.toBitVec := by
  have htop : r &&& 0x80 = 0 ↔ r.toBitVec.msb = false := by
    rw [← UInt8.toBitVec_inj]
    exact and_top_eq_zero_iff (w := 7) r.toBitVec
  rw [crc8Shift, divisionStep]
  cases hmsb : r.toBitVec.msb with
  | false => simp [htop.mpr hmsb]
  | true =>
      rw [if_neg (by simp [htop, hmsb])]
      rfl

theorem toBitVec_crc16Shift (r : UInt16) :
    (crc16Shift r).toBitVec = divisionStep crc16Divisor.toBitVec r.toBitVec := by
  have htop : r &&& 0x8000 = 0 ↔ r.toBitVec.msb = false := by
    rw [← UInt16.toBitVec_inj]
    exact and_top_eq_zero_iff (w := 15) r.toBitVec
  rw [crc16Shift, divisionStep]
  cases hmsb : r.toBitVec.msb with
  | false => simp [htop.mpr hmsb]
  | true =>
      rw [if_neg (by simp [htop, hmsb])]
      rfl

theorem crc8Shift_injective : Function.Injective crc8Shift := by
  intro r r' heq
  have hstep := congrArg UInt8.toBitVec heq
  rw [toBitVec_crc8Shift, toBitVec_crc8Shift] at hstep
  exact UInt8.toBitVec_inj.mp (divisionStep_injective (by decide) hstep)

theorem crc16Shift_injective : Function.Injective crc16Shift := by
  intro r r' heq
  have hstep := congrArg UInt16.toBitVec heq
  rw [toBitVec_crc16Shift, toBitVec_crc16Shift] at hstep
  exact UInt16.toBitVec_inj.mp (divisionStep_injective (by decide) hstep)

/-! ### Bytes -/

theorem repeat_injective {α : Type} {f : α → α} (h : Function.Injective f) (count : Nat) :
    Function.Injective (Nat.repeat f count) := by
  induction count with
  | zero => exact fun _ _ heq => heq
  | succ count ih => exact fun _ _ heq => ih (h heq)

theorem crc8Byte_injective_left (b : UInt8) : Function.Injective fun r => crc8Byte r b := by
  intro r r' heq
  exact (UInt8.xor_left_inj b).mp (repeat_injective crc8Shift_injective 8 heq)

theorem crc8Byte_injective_right (r : UInt8) : Function.Injective (crc8Byte r) := by
  intro b b' heq
  exact (UInt8.xor_right_inj r).mp (repeat_injective crc8Shift_injective 8 heq)

theorem crc16Byte_injective_left (b : UInt8) : Function.Injective fun r => crc16Byte r b := by
  intro r r' heq
  exact (UInt16.xor_left_inj _).mp (repeat_injective crc16Shift_injective 8 heq)

theorem crc16Byte_injective_right (r : UInt16) : Function.Injective (crc16Byte r) := by
  intro b b' heq
  have hshift := (UInt16.xor_right_inj r).mp (repeat_injective crc16Shift_injective 8 heq)
  have hnat := congrArg UInt16.toNat hshift
  have hb := b.toNat_lt
  have hb' := b'.toNat_lt
  simp only [UInt16.toNat_shiftLeft, UInt8.toNat_toUInt16, UInt16.toNat_ofNat, Nat.shiftLeft_eq,
    Nat.reducePow, Nat.reduceMod] at hnat
  rw [← UInt8.toNat_inj]
  omega

/-! ### Strings -/

theorem foldl_injective {σ : Type} {step : σ → UInt8 → σ}
    (hleft : ∀ b, Function.Injective fun s => step s b) (bytes : Bytes) :
    Function.Injective fun s => bytes.foldl step s := by
  induction bytes with
  | nil => exact fun _ _ heq => heq
  | cons b bytes ih => exact fun _ _ heq => hleft b (ih heq)

/-- A fold whose steps lose nothing tells apart what differs in one place. -/
theorem foldl_set_ne {σ : Type} {step : σ → UInt8 → σ}
    (hleft : ∀ b, Function.Injective fun s => step s b) (hright : ∀ s, Function.Injective (step s))
    {bytes : Bytes} {i : Nat} {v b : UInt8} (hb : bytes[i]? = some b) (hv : v ≠ b) (s : σ) :
    (bytes.set i v).foldl step s ≠ bytes.foldl step s := by
  induction bytes generalizing i s with
  | nil => simp at hb
  | cons b' bytes ih =>
      cases i with
      | zero =>
          simp only [List.getElem?_cons_zero, Option.some.injEq] at hb
          subst hb
          exact fun heq => hv (hright s (foldl_injective hleft bytes heq))
      | succ i => exact ih hb (step s b')

theorem crc8_set_ne {bytes : Bytes} {i : Nat} {v b : UInt8} (hb : bytes[i]? = some b)
    (hv : v ≠ b) : crc8 (bytes.set i v) ≠ crc8 bytes :=
  foldl_set_ne crc8Byte_injective_left crc8Byte_injective_right hb hv 0

theorem crc16_set_ne {bytes : Bytes} {i : Nat} {v b : UInt8} (hb : bytes[i]? = some b)
    (hv : v ≠ b) : crc16 (bytes.set i v) ≠ crc16 bytes :=
  foldl_set_ne crc16Byte_injective_left crc16Byte_injective_right hb hv crc16Start

/-- One byte is told by its narrow checksum. -/
theorem crc8_singleton_inj {b b' : UInt8} : crc8 [b] = crc8 [b'] ↔ b = b' :=
  ⟨fun heq => crc8Byte_injective_right 0 heq, fun heq => heq ▸ rfl⟩

/-- The checksum bytes of strings that differ in one byte are different. -/
theorem trailer_set_ne {mode : Mode} {bytes : Bytes} {i : Nat} {v b : UInt8}
    (hb : bytes[i]? = some b) (hv : v ≠ b) :
    mode.trailer (bytes.set i v) ≠ mode.trailer bytes := by
  cases mode with
  | short => simpa [Mode.trailer] using crc8_set_ne hb hv
  | compact =>
      intro heq
      have hnum := congrArg Bytes.ofBigEnd heq
      have hlt (bytes : Bytes) : (crc16 bytes).toNat < Bytes.range 2 := (crc16 bytes).toNat_lt
      rw [Mode.trailer, Mode.trailer, Bytes.ofBigEnd_bigEnd (hlt _), Bytes.ofBigEnd_bigEnd (hlt _),
        UInt16.toNat_inj] at hnum
      exact crc16_set_ne hb hv hnum

end LinkStack.Frame
