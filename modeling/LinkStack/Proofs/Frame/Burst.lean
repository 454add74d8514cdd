import Mathlib.Data.List.Basic
import LinkStack.Proofs.Frame.Corruption

/-!
Bursts: changes of a few adjacent bytes.

A division step is linear, and bytes that enter one after the other and together are
no wider than the remainder enter it as one word (`crc16Byte_crc16Byte`). Since no step
loses anything, a burst that is no wider than the checksum always changes it, however
long the string is and wherever the burst stands (`checksum_ne_of_burst`).

A frame is sound if the checksum of its body and its checksum bytes together is zero
(`checksum_append_eq_zero_iff`). So a burst is noticed also if it goes across the end
of the body, as long as the reader looks for the checksum where the writer put it. The
narrow checksum says so for the length field, of which every change is noticed in a
short frame (`decode_burst`).
-/

namespace LinkStack.Frame

/-! ### Words -/

theorem divisionStep_xor {w : Nat} (divisor r r' : BitVec w) :
    divisionStep divisor (r ^^^ r') = divisionStep divisor r ^^^ divisionStep divisor r' := by
  have htop : (if (r ^^^ r').msb then divisor else 0#w) =
      (if r.msb then divisor else 0#w) ^^^ (if r'.msb then divisor else 0#w) := by
    rw [BitVec.msb_xor]
    cases r.msb <;> cases r'.msb <;> simp
  rw [divisionStep, divisionStep, divisionStep, htop, BitVec.shiftLeft_xor_distrib]
  ac_rfl

/-- While nothing falls out of the top, division steps only shift. -/
theorem repeat_divisionStep_of_high {w : Nat} {divisor r : BitVec w} {count : Nat}
    (h : ∀ i, w ≤ i + count → r.getLsbD i = false) :
    Nat.repeat (divisionStep divisor) count r = r <<< count := by
  induction count with
  | zero => simp [Nat.repeat]
  | succ count ih =>
      rw [Nat.repeat, ih fun i hi => h i (by omega)]
      have hmsb : (r <<< count).msb = false := by
        rw [BitVec.msb_eq_getLsbD_last, BitVec.getLsbD_shiftLeft]
        by_cases hw : w - 1 < count
        · simp [hw]
        · simp [h (w - 1 - count) (by omega)]
      rw [divisionStep, hmsb]
      simp [BitVec.shiftLeft_add]

theorem crc16Shift_xor (r r' : UInt16) :
    crc16Shift (r ^^^ r') = crc16Shift r ^^^ crc16Shift r' := by
  rw [← UInt16.toBitVec_inj, UInt16.toBitVec_xor, toBitVec_crc16Shift, toBitVec_crc16Shift,
    toBitVec_crc16Shift, UInt16.toBitVec_xor, divisionStep_xor]

theorem repeat_crc16Shift_xor (count : Nat) (r r' : UInt16) :
    Nat.repeat crc16Shift count (r ^^^ r') =
      Nat.repeat crc16Shift count r ^^^ Nat.repeat crc16Shift count r' := by
  induction count with
  | zero => rfl
  | succ count ih =>
      rw [Nat.repeat, ih, crc16Shift_xor]
      rfl

theorem toBitVec_repeat_crc16Shift (count : Nat) (r : UInt16) :
    (Nat.repeat crc16Shift count r).toBitVec =
      Nat.repeat (divisionStep crc16Divisor.toBitVec) count r.toBitVec := by
  induction count with
  | zero => rfl
  | succ count ih =>
      rw [Nat.repeat, toBitVec_crc16Shift, ih]
      rfl

/-- The steps of one byte only shift another one. -/
theorem repeat_crc16Shift_byte (b : UInt8) :
    Nat.repeat crc16Shift 8 b.toUInt16 = b.toUInt16 <<< 8 := by
  have hhigh (i : Nat) (hi : 16 ≤ i + 8) : b.toUInt16.toBitVec.getLsbD i = false := by
    rw [UInt8.toBitVec_toUInt16, BitVec.getLsbD_setWidth, BitVec.getLsbD_of_ge _ _ (by omega),
      Bool.and_false]
  rw [← UInt16.toBitVec_inj, toBitVec_repeat_crc16Shift, repeat_divisionStep_of_high hhigh]
  rfl

theorem shiftLeft_xor_byte (high low : UInt8) :
    high.toUInt16 <<< 8 ^^^ low.toUInt16 = UInt16.ofNat (Bytes.ofBigEnd [high, low]) := by
  have hhigh := high.toNat_lt
  have hlow := low.toNat_lt
  have hsum : Bytes.ofBigEnd [high, low] = 2 ^ 8 * high.toNat + low.toNat := by
    simp [Bytes.ofBigEnd, Bytes.ofLittleEnd]
    omega
  have hlt : Bytes.ofBigEnd [high, low] < UInt16.size := by
    rw [hsum, UInt16.size]
    omega
  have hshift : (high.toUInt16 <<< 8).toNat = 2 ^ 8 * high.toNat + 0 := by
    rw [UInt16.toNat_shiftLeft, UInt8.toNat_toUInt16]
    simp [Nat.shiftLeft_eq]
    omega
  rw [← UInt16.toNat_inj, UInt16.toNat_ofNat_of_lt' hlt, hsum, UInt16.toNat_xor, hshift,
    UInt8.toNat_toUInt16]
  -- the two numbers have no bit in common
  apply Nat.eq_of_testBit_eq
  intro i
  rw [Nat.testBit_xor, Nat.testBit_two_pow_mul_add _ (by decide),
    Nat.testBit_two_pow_mul_add _ hlow]
  split
  · simp
  · rename_i hi
    have hpow : 2 ^ 8 ≤ 2 ^ i := Nat.pow_le_pow_right (by decide) (Nat.le_of_not_lt hi)
    rw [Nat.testBit_lt_two_pow (Nat.lt_of_lt_of_le hlow hpow)]
    simp

/-- Two bytes enter the wide checksum as one word. -/
theorem crc16Byte_crc16Byte (r : UInt16) (high low : UInt8) :
    crc16Byte (crc16Byte r high) low =
      Nat.repeat crc16Shift 16 (r ^^^ UInt16.ofNat (Bytes.ofBigEnd [high, low])) := by
  rw [crc16Byte, crc16Byte, ← repeat_crc16Shift_byte low, ← repeat_crc16Shift_xor,
    UInt16.xor_assoc, shiftLeft_xor_byte]
  rfl

theorem ofNat_ofBigEnd_inj {bytes bytes' : Bytes} (h : bytes.length = 2) (h' : bytes'.length = 2)
    (heq : UInt16.ofNat (Bytes.ofBigEnd bytes) = UInt16.ofNat (Bytes.ofBigEnd bytes')) :
    bytes = bytes' := by
  have hlt {bytes : Bytes} (h : bytes.length = 2) : Bytes.ofBigEnd bytes < UInt16.size := by
    have hlt := Bytes.ofLittleEnd_lt bytes.reverse
    rwa [List.length_reverse, h] at hlt
  have hnum := congrArg UInt16.toNat heq
  rw [UInt16.toNat_ofNat_of_lt' (hlt h), UInt16.toNat_ofNat_of_lt' (hlt h')] at hnum
  rw [← Bytes.bigEnd_ofBigEnd bytes, ← Bytes.bigEnd_ofBigEnd bytes', h, h', hnum]

/-! ### Sound frames -/

theorem crc8Byte_eq_zero_iff {r b : UInt8} : crc8Byte r b = 0 ↔ r = b := by
  have hzero : crc8Byte b b = 0 := by
    rw [crc8Byte, UInt8.xor_self]
    rfl
  rw [← hzero]
  exact ⟨fun heq => crc8Byte_injective_left b heq, fun heq => heq ▸ rfl⟩

theorem repeat_crc16Shift_eq_zero_iff {count : Nat} {r : UInt16} :
    Nat.repeat crc16Shift count r = 0 ↔ r = 0 := by
  have hzero : Nat.repeat crc16Shift count 0 = 0 := by
    induction count with
    | zero => rfl
    | succ count ih =>
        rw [Nat.repeat, ih]
        rfl
  constructor
  · intro heq
    rw [← hzero] at heq
    exact repeat_injective crc16Shift_injective count heq
  · rintro rfl
    exact hzero

/-- The checksum bytes are right if the checksum goes to zero over them. -/
theorem checksum_append_eq_zero_iff {mode : Mode} {bytes trailer : Bytes}
    (h : trailer.length = mode.checksumSize) :
    mode.checksum (bytes ++ trailer) = 0 ↔ trailer = mode.trailer bytes := by
  cases mode with
  | short =>
      obtain ⟨b, rfl⟩ := List.length_eq_one_iff.mp h
      have hbyte : (crc8 (bytes ++ [b])).toUInt16 = 0 ↔ crc8 (bytes ++ [b]) = 0 := by
        rw [← UInt16.toNat_inj, ← UInt8.toNat_inj, UInt8.toNat_toUInt16]
        rfl
      rw [Mode.checksum, hbyte, crc8_concat, crc8Byte_eq_zero_iff, Mode.trailer]
      simp [eq_comm]
  | compact =>
      rw [← checksum_eq_iff h]
      obtain ⟨high, low, rfl⟩ : ∃ high low, trailer = [high, low] := by
        obtain ⟨high, rest, rfl⟩ := List.exists_cons_of_length_eq_add_one h
        obtain ⟨low, rfl⟩ := List.length_eq_one_iff.mp (Nat.succ.inj h)
        exact ⟨high, low, rfl⟩
      have hstep : crc16 (bytes ++ [high, low]) = crc16Byte (crc16Byte (crc16 bytes) high) low := by
        simp [crc16]
      rw [Mode.checksum, hstep, crc16Byte_crc16Byte, repeat_crc16Shift_eq_zero_iff,
        UInt16.xor_eq_zero_iff, Mode.checksum]

/-! ### Bursts -/

/-- Other bytes of the same number, which differ from the first only within a window
of adjacent places. -/
structure Burst (i width : Nat) (bytes bytes' : Bytes) : Prop where
  length : bytes'.length = bytes.length
  changed : bytes' ≠ bytes
  outside : ∀ k, k < i ∨ i + width ≤ k → bytes'[k]? = bytes[k]?

namespace Burst

variable {i width : Nat} {bytes bytes' front rest : Bytes}

theorem take_eq (h : Burst i width bytes bytes') {count : Nat} (hcount : count ≤ i) :
    bytes'.take count = bytes.take count := by
  apply List.ext_getElem?
  intro k
  rw [List.getElem?_take, List.getElem?_take]
  split
  · exact h.outside k (.inl (by omega))
  · rfl

theorem drop_eq (h : Burst i width bytes bytes') {count : Nat} (hcount : i + width ≤ count) :
    bytes'.drop count = bytes.drop count := by
  apply List.ext_getElem?
  intro k
  rw [List.getElem?_drop, List.getElem?_drop]
  exact h.outside _ (.inr (by omega))

/-- What stands in front of a burst stays. -/
theorem of_append (h : Burst i width (front ++ rest) bytes') (hfront : front.length ≤ i) :
    ∃ rest', bytes' = front ++ rest' ∧ Burst (i - front.length) width rest rest' := by
  have htake := h.take_eq hfront
  rw [List.take_left] at htake
  have hbytes : bytes' = front ++ bytes'.drop front.length := by
    have hsplit := List.take_append_drop front.length bytes'
    rw [htake] at hsplit
    exact hsplit.symm
  refine ⟨bytes'.drop front.length, hbytes, ?_, ?_, ?_⟩
  · rw [List.length_drop, h.length, List.length_append]
    omega
  · exact fun heq => h.changed (hbytes.trans (congrArg (front ++ ·) heq))
  · intro k hk
    have hsame := h.outside (front.length + k) (by omega)
    rw [List.getElem?_append_right (by omega), Nat.add_sub_cancel_left] at hsame
    rw [List.getElem?_drop, hsame]

/-- A burst of one byte. -/
theorem of_cons {b : UInt8} (h : Burst 0 width (b :: rest) bytes') (hwidth : width ≤ 1) :
    ∃ b', bytes' = b' :: rest ∧ b' ≠ b := by
  have hdrop := h.drop_eq (Nat.le_trans (Nat.le_of_eq (Nat.zero_add width)) hwidth)
  cases bytes' with
  | nil => exact absurd h.length (by simp)
  | cons b' rest' =>
      obtain rfl : rest' = rest := hdrop
      exact ⟨b', rfl, fun heq => h.changed (heq ▸ rfl)⟩

theorem exists_parts (h : Burst i width bytes bytes') : ∃ before old new after,
    bytes = before ++ (old ++ after) ∧ bytes' = before ++ (new ++ after) ∧
      new.length = old.length ∧ old.length ≤ width ∧ new ≠ old := by
  have hsplit (bytes : Bytes) : bytes =
      bytes.take i ++ ((bytes.drop i).take width ++ bytes.drop (i + width)) := by
    rw [← List.drop_drop, List.take_append_drop, List.take_append_drop]
  have hbytes' := hsplit bytes'
  rw [h.take_eq (Nat.le_refl i), h.drop_eq (Nat.le_refl _)] at hbytes'
  refine ⟨_, _, _, _, hsplit bytes, hbytes', ?_, ?_, ?_⟩
  · simp [h.length]
  · exact List.length_take_le ..
  · intro heq
    rw [heq, ← hsplit] at hbytes'
    exact h.changed hbytes'

theorem of_parts (before old new after : Bytes) (hlength : new.length = old.length)
    (hne : new ≠ old) :
    Burst before.length old.length (before ++ (old ++ after)) (before ++ (new ++ after)) where
  length := by simp [hlength]
  changed heq := hne (List.append_cancel_right (List.append_cancel_left heq))
  outside k hk := by
    rcases hk with hk | hk
    · rw [List.getElem?_append_left hk, List.getElem?_append_left hk]
    · rw [List.getElem?_append_right (by omega), List.getElem?_append_right (by omega),
        List.getElem?_append_right (by omega), List.getElem?_append_right (by omega), hlength]

end Burst

/-- A fold tells bytes apart that differ in a burst, if it tells bursts apart and its
steps lose nothing. -/
theorem foldl_burst_ne {σ : Type} {step : σ → UInt8 → σ} {width : Nat}
    (hleft : ∀ b, Function.Injective fun s => step s b)
    (hburst : ∀ s (old new : Bytes), new.length = old.length → old.length ≤ width →
      new.foldl step s = old.foldl step s → new = old)
    {i : Nat} {bytes bytes' : Bytes} (h : Burst i width bytes bytes') (s : σ) :
    bytes'.foldl step s ≠ bytes.foldl step s := by
  obtain ⟨before, old, new, after, rfl, rfl, hlength, hwidth, hne⟩ := h.exists_parts
  simp only [List.foldl_append]
  intro heq
  exact hne (hburst _ old new hlength hwidth (foldl_injective hleft after heq))

/-- One byte is told by the narrow remainder that it leads to. -/
theorem eq_of_foldl_crc8Byte {s : UInt8} {old new : Bytes} (hlength : new.length = old.length)
    (hold : old.length ≤ 1) (heq : new.foldl crc8Byte s = old.foldl crc8Byte s) : new = old := by
  obtain hold | hold : old.length = 0 ∨ old.length = 1 := by omega
  · rw [List.eq_nil_of_length_eq_zero hold, List.eq_nil_of_length_eq_zero (hlength.trans hold)]
  · obtain ⟨b', rfl⟩ := List.length_eq_one_iff.mp (hlength.trans hold)
    obtain ⟨b, rfl⟩ := List.length_eq_one_iff.mp hold
    rw [crc8Byte_injective_right s heq]

/-- Two bytes are told by the wide remainder that they lead to. -/
theorem eq_of_foldl_crc16Byte {s : UInt16} {old new : Bytes} (hlength : new.length = old.length)
    (hold : old.length ≤ 2) (heq : new.foldl crc16Byte s = old.foldl crc16Byte s) : new = old := by
  obtain hold | hold | hold : old.length = 0 ∨ old.length = 1 ∨ old.length = 2 := by omega
  · rw [List.eq_nil_of_length_eq_zero hold, List.eq_nil_of_length_eq_zero (hlength.trans hold)]
  · obtain ⟨b', rfl⟩ := List.length_eq_one_iff.mp (hlength.trans hold)
    obtain ⟨b, rfl⟩ := List.length_eq_one_iff.mp hold
    rw [crc16Byte_injective_right s heq]
  · obtain ⟨high', low', rfl⟩ := List.length_eq_two.mp (hlength.trans hold)
    obtain ⟨high, low, rfl⟩ := List.length_eq_two.mp hold
    simp only [List.foldl_cons, List.foldl_nil, crc16Byte_crc16Byte] at heq
    have hword := repeat_injective crc16Shift_injective 16 heq
    exact ofNat_ofBigEnd_inj rfl rfl ((UInt16.xor_right_inj s).mp hword)

/-- A burst that is no wider than the checksum changes it. -/
theorem checksum_ne_of_burst {mode : Mode} {i width : Nat} {bytes bytes' : Bytes}
    (h : Burst i width bytes bytes') (hwidth : width ≤ mode.checksumSize) :
    mode.checksum bytes' ≠ mode.checksum bytes := by
  cases mode with
  | short =>
      have hne := foldl_burst_ne crc8Byte_injective_left
        (fun _ _ _ hlength hold => eq_of_foldl_crc8Byte hlength (Nat.le_trans hold hwidth)) h 0
      intro heq
      have hnum := congrArg UInt16.toNat heq
      rw [Mode.checksum, Mode.checksum, UInt8.toNat_toUInt16, UInt8.toNat_toUInt16,
        UInt8.toNat_inj] at hnum
      exact hne hnum
  | compact =>
      exact foldl_burst_ne crc16Byte_injective_left
        (fun _ _ _ hlength hold => eq_of_foldl_crc16Byte hlength (Nat.le_trans hold hwidth)) h
        crc16Start

namespace Codec

variable {c : Codec}

/-! ### Frames with a burst in them -/

theorem decode_of_readFrame_error {src : Bytes} {error : Error}
    (h : c.readFrame src = .error error) :
    c.decode (c.delimiter :: src) = .refused error (c.resync src) := by
  rw [decode_cons_delimiter, h]

/-- In a short frame another length byte is never followed by its check byte. -/
theorem refused_of_length (hmode : c.mode = .short) {b b' : UInt8} (hb : b' ≠ b) (rest : Bytes) :
    ∃ error, c.readFrame (b' :: crc8 [b] :: rest) = .error error := by
  by_cases hlength : b' < 0x40
  · have hfield : LengthField c.mode [b'] b'.toNat := hmode ▸ .short hlength
    by_cases hsize : c.maxSize < b'.toNat + 1
    · exact ⟨_, (Reading.tooLarge hfield hsize).readFrame_eq⟩
    · have hcheck : crc8 [b] ≠ crc8 [b'] := fun heq => hb (crc8_singleton_inj.mp heq).symm
      exact ⟨_, (Reading.wrongCheck hfield (Nat.le_of_not_lt hsize) hcheck).readFrame_eq⟩
  · have hread : c.mode.readLength (b' :: crc8 [b] :: rest) = .error b' := by
      rw [hmode, Mode.readLength, if_neg hlength]
    exact ⟨_, (Reading.malformed hread).readFrame_eq⟩

/-- Behind a sound header a burst that is no wider than the checksum is noticed. -/
theorem readFrame_burst {field body : Bytes} {i width : Nat} {src : Bytes}
    (hfield : LengthField c.mode field (body.length - 1)) (hbody : body ≠ [])
    (hsize : body.length ≤ c.maxSize) (hwidth : width ≤ c.mode.checksumSize)
    (hi : field.length < i)
    (h : Burst i width (covered field body ++ c.mode.trailer (covered field body)) src)
    (suffix : Bytes) : ∃ expected found,
      c.readFrame (src ++ suffix) = .error (.checksumMismatch expected found) := by
  have hsound : c.mode.checksum (covered field body ++ c.mode.trailer (covered field body)) = 0 :=
    (checksum_append_eq_zero_iff (c.mode.length_trailer _)).mpr rfl
  have hchanged := checksum_ne_of_burst h hwidth
  rw [hsound] at hchanged
  have hheader : covered field body ++ c.mode.trailer (covered field body) =
      (field ++ [crc8 field]) ++ (body ++ c.mode.trailer (covered field body)) := by
    simp [covered]
  rw [hheader] at h
  obtain ⟨tail, rfl, hburst⟩ := h.of_append (by simpa [Nat.succ_le_iff] using hi)
  -- the bytes are those of another body of the same length and its checksum
  have hlength := hburst.length
  rw [List.length_append, Mode.length_trailer] at hlength
  obtain ⟨body', trailer, more, rfl, hbody', htrailer⟩ := exists_parts (Nat.le_of_eq hlength.symm)
  obtain rfl : more = [] := by
    simp only [List.length_append] at hlength
    exact List.eq_nil_of_length_eq_zero (by omega)
  have hsrc : field ++ [crc8 field] ++ (body' ++ (trailer ++ [])) =
      covered field body' ++ trailer := by
    simp [covered]
  rw [hsrc] at hchanged ⊢
  rw [ne_eq, checksum_append_eq_zero_iff htrailer] at hchanged
  rw [← hbody'] at hfield hsize
  have hne : body' ≠ [] := by
    rw [← List.length_pos_iff, hbody']
    exact List.length_pos_iff.mpr hbody
  exact ⟨_, _, (Reading.mismatch hfield hne hsize htrailer hchanged).readFrame_eq⟩

/-- A frame with a burst in it begins with its delimiter if the burst is behind it. -/
theorem exists_burst {body wire wire' : Bytes} {i width : Nat}
    (hwire : c.encode body [] = (.ok (), wire)) (h : Burst i width wire wire') (hi : 0 < i) :
    ∃ src, wire' = c.delimiter :: src ∧
      Burst (i - 1) width (covered (c.mode.lengthField (body.length - 1)) body ++
        c.mode.trailer (covered (c.mode.lengthField (body.length - 1)) body)) src := by
  obtain ⟨-, -, rfl⟩ := encode_eq_ok_iff.mp hwire
  rw [List.nil_append, frame_eq_layout] at h
  exact h.of_append (show [c.delimiter].length ≤ i from hi)

/-- Another check byte is noticed. -/
theorem readFrame_burst_check {field body : Bytes} {width : Nat} {src : Bytes}
    (hfield : LengthField c.mode field (body.length - 1)) (hbody : body ≠ [])
    (hsize : body.length ≤ c.maxSize) (hwidth : width ≤ 1)
    (h : Burst field.length width (covered field body ++ c.mode.trailer (covered field body)) src)
    (suffix : Bytes) : ∃ expected found,
      c.readFrame (src ++ suffix) = .error (.lengthCheck expected found) := by
  have hpos := List.length_pos_iff.mpr hbody
  have hheader : covered field body ++ c.mode.trailer (covered field body) =
      field ++ (crc8 field :: (body ++ c.mode.trailer (covered field body))) := by
    simp [covered]
  rw [hheader] at h
  obtain ⟨rest, rfl, hburst⟩ := h.of_append (Nat.le_refl _)
  rw [Nat.sub_self] at hburst
  obtain ⟨check, rfl, hcheck⟩ := hburst.of_cons hwidth
  rw [List.append_assoc, List.cons_append]
  exact ⟨_, _, (Reading.wrongCheck hfield (by omega) hcheck).readFrame_eq⟩

/-- Behind the delimiter of a short frame no change of one byte goes unnoticed, and in
every frame no change of the check byte and no burst behind it that is no wider than the
checksum. Each is refused at once, whatever follows, and the latter two for what they
are. -/
theorem decode_burst (hceiling : c.maxSize ≤ c.mode.ceiling) {body wire wire' : Bytes}
    {i width : Nat} (hwire : c.encode body [] = (.ok (), wire)) (h : Burst i width wire wire')
    (suffix : Bytes) :
    (c.mode = .short → 0 < i → width ≤ 1 →
      ∃ error rest, c.decode (wire' ++ suffix) = .refused error rest) ∧
    (i = 1 + c.mode.lengthSize body.length → width ≤ 1 → ∃ expected found rest,
      c.decode (wire' ++ suffix) = .refused (.lengthCheck expected found) rest) ∧
    (1 + c.mode.lengthSize body.length < i → width ≤ c.mode.checksumSize →
      ∃ expected found rest,
        c.decode (wire' ++ suffix) = .refused (.checksumMismatch expected found) rest) := by
  obtain ⟨hbody, hsize, -⟩ := encode_eq_ok_iff.mp hwire
  have hpos := List.length_pos_iff.mpr hbody
  have hfield : LengthField c.mode (c.mode.lengthField (body.length - 1)) (body.length - 1) :=
    lengthField_lengthField (by omega)
  have hlength : (c.mode.lengthField (body.length - 1)).length = c.mode.lengthSize body.length := by
    rw [length_lengthField, Nat.sub_add_cancel hpos]
  have hcheck (hi : i = 1 + c.mode.lengthSize body.length) (hwidth : width ≤ 1) :
      ∃ expected found rest,
        c.decode (wire' ++ suffix) = .refused (.lengthCheck expected found) rest := by
    obtain ⟨src, rfl, hburst⟩ := exists_burst hwire h (by omega)
    rw [hi, Nat.add_sub_cancel_left, ← hlength] at hburst
    obtain ⟨expected, found, hread⟩ := readFrame_burst_check hfield hbody hsize hwidth hburst suffix
    exact ⟨expected, found, _, decode_of_readFrame_error hread⟩
  have hrest (hi : 1 + c.mode.lengthSize body.length < i) (hwidth : width ≤ c.mode.checksumSize) :
      ∃ expected found rest,
        c.decode (wire' ++ suffix) = .refused (.checksumMismatch expected found) rest := by
    obtain ⟨src, rfl, hburst⟩ := exists_burst hwire h (by omega)
    obtain ⟨expected, found, hread⟩ :=
      readFrame_burst hfield hbody hsize hwidth (by omega) hburst suffix
    exact ⟨expected, found, _, decode_of_readFrame_error hread⟩
  refine ⟨?_, hcheck, hrest⟩
  intro hmode hi hwidth
  have hone : c.mode.lengthSize body.length = 1 := by rw [hmode]; rfl
  rcases Nat.lt_trichotomy i 2 with hfront | rfl | hbehind
  · -- the length byte
    obtain rfl : i = 1 := by omega
    obtain ⟨src, rfl, hburst⟩ := exists_burst hwire h hi
    rw [hmode] at hburst
    obtain ⟨b, rfl, hb⟩ := hburst.of_cons hwidth
    obtain ⟨error, hread⟩ := refused_of_length hmode hb _
    exact ⟨error, _, decode_of_readFrame_error hread⟩
  · obtain ⟨expected, found, rest, hdecode⟩ := hcheck (by omega) hwidth
    exact ⟨_, rest, hdecode⟩
  · have hsum : c.mode.checksumSize = 1 := by rw [hmode]; rfl
    obtain ⟨expected, found, rest, hdecode⟩ := hrest (by omega) (by omega)
    exact ⟨_, rest, hdecode⟩

/-- A check byte that became a delimiter, and a burst from the last byte of a body into
its checksum. -/
theorem decode_burst_across_body :
    (new .short 0xA5 4).encode [0xA5] [] = (.ok (), [0xA5, 0x00, 0x00, 0xA5, 0x57]) ∧
    Burst 2 1 [0xA5, 0x00, 0x00, 0xA5, 0x57] [0xA5, 0x00, 0xA5, 0xA5, 0x57] ∧
    (∃ expected found rest, (new .short 0xA5 4).decode [0xA5, 0x00, 0xA5, 0xA5, 0x57] =
      .refused (.lengthCheck expected found) rest) ∧
    (new .compact 0xA5 4).encode [0xA5, 0x00] [] =
      (.ok (), [0xA5, 0x81, 0x31, 0xA5, 0x00, 0x3F, 0x52]) ∧
    Burst 4 2 [0xA5, 0x81, 0x31, 0xA5, 0x00, 0x3F, 0x52]
      [0xA5, 0x81, 0x31, 0xA5, 0xA5, 0xA5, 0x52] ∧
    ∃ expected found rest,
      (new .compact 0xA5 4).decode ([0xA5, 0x81, 0x31, 0xA5, 0xA5, 0xA5, 0x52] ++ [0xA5]) =
        .refused (.checksumMismatch expected found) rest := by
  have hshort : (new .short 0xA5 4).encode [0xA5] [] = (.ok (), [0xA5, 0x00, 0x00, 0xA5, 0x57]) :=
    encode_eq_ok_iff.mpr ⟨by decide, by decide, by decide +kernel⟩
  have hcompact : (new .compact 0xA5 4).encode [0xA5, 0x00] [] =
      (.ok (), [0xA5, 0x81, 0x31, 0xA5, 0x00, 0x3F, 0x52]) :=
    encode_eq_ok_iff.mpr ⟨by decide, by decide, by decide +kernel⟩
  have hcheck : Burst 2 1 [0xA5, 0x00, 0x00, 0xA5, 0x57] [0xA5, 0x00, 0xA5, 0xA5, 0x57] :=
    Burst.of_parts [0xA5, 0x00] [0x00] [0xA5] [0xA5, 0x57] rfl (by decide)
  have hacross : Burst 4 2 [0xA5, 0x81, 0x31, 0xA5, 0x00, 0x3F, 0x52]
      [0xA5, 0x81, 0x31, 0xA5, 0xA5, 0xA5, 0x52] :=
    Burst.of_parts [0xA5, 0x81, 0x31, 0xA5] [0x00, 0x3F] [0xA5, 0xA5] [0x52] rfl (by decide)
  refine ⟨hshort, hcheck, ?_, hcompact, hacross, ?_⟩
  · exact (decode_burst (by decide) hshort hcheck []).2.1 rfl (by decide)
  · have hbehind : 1 + (new .compact 0xA5 4).mode.lengthSize 2 < 4 := by
      simp [new, Mode.lengthSize, groupCount]
    exact (decode_burst (by decide) hcompact hacross [0xA5]).2.2 hbehind (by decide)

end Codec

end LinkStack.Frame
