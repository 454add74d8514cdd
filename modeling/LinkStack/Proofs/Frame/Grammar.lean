import LinkStack.Frame.Codec
import LinkStack.Proofs.Frame.LengthField

/-!
The grammar of frames, and what the reader answers in terms of it.

A frame is a delimiter, a length field, the narrow checksum of the field, a
body of the length that the field holds less one, and the checksum of all that
stands behind the delimiter. `Codec.IsFrame` says so without mentioning the
reader. `Codec.Reading` lists the eight things that can stand behind a
delimiter together with what the reader answers to each; every string is one of
them (`reading`) and none is two (`Reading.readFrame_eq`), so a statement about
the reader is a case analysis, and nobody has to open `readFrame` again.

The main statement is `decode_packet_iff_isFrame`: a packet is read exactly
where a frame with its body stands.
-/

namespace LinkStack.Frame

/-- The checksum bytes that belong to the bytes of a frame. -/
def Mode.trailer : Mode → Bytes → Bytes
  | .short, bytes => [crc8 bytes]
  | .compact, bytes => Bytes.bigEnd 2 (crc16 bytes).toNat

@[simp] theorem Mode.length_trailer (mode : Mode) (bytes : Bytes) :
    (mode.trailer bytes).length = mode.checksumSize := by
  cases mode with
  | short => rfl
  | compact => exact Bytes.length_bigEnd 2 _

theorem Mode.checksumSize_pos (mode : Mode) : 0 < mode.checksumSize := by
  cases mode <;> decide

/-- The bytes of a frame that its checksum covers. -/
def covered (field body : Bytes) : Bytes := field ++ crc8 field :: body

namespace Codec

/-- A frame's bytes, given the bytes of its parts. -/
def layout (c : Codec) (field body trailer : Bytes) : Bytes :=
  c.delimiter :: (covered field body ++ trailer)

/-- The bytes `wire` are a frame with the given body. -/
structure IsFrame (c : Codec) (body wire : Bytes) : Prop where
  nonempty : body ≠ []
  fits : body.length ≤ c.maxSize
  parts : ∃ field, LengthField c.mode field (body.length - 1) ∧
    wire = c.layout field body (c.mode.trailer (covered field body))

/-- The bytes end before the frame does that they might be the beginning of.
Checksum bytes are not looked at before all of them are there. -/
def Unfinished (c : Codec) (bytes : Bytes) : Prop :=
  ∃ field body trailer ext, LengthField c.mode field (body.length - 1) ∧ body ≠ [] ∧
    body.length ≤ c.maxSize ∧ trailer.length = c.mode.checksumSize ∧ ext ≠ [] ∧
    c.layout field body trailer = bytes ++ ext

end Codec

/-! ### Checksum bytes -/

theorem bigEnd_checksum (mode : Mode) (bytes : Bytes) :
    Bytes.bigEnd mode.checksumSize (mode.checksum bytes).toNat = mode.trailer bytes := by
  cases mode with
  | short => simp [Mode.checksumSize, Mode.checksum, Mode.trailer, Bytes.bigEnd, Bytes.littleEnd]
  | compact => rfl

/-- Comparing checksums as numbers is comparing their bytes. -/
theorem checksum_eq_iff {mode : Mode} {bytes trailer : Bytes}
    (h : trailer.length = mode.checksumSize) :
    mode.checksum bytes = UInt16.ofNat (Bytes.ofBigEnd trailer) ↔
      trailer = mode.trailer bytes := by
  have hrange : Bytes.range mode.checksumSize ≤ 65536 := by cases mode <;> decide
  have hlt : Bytes.ofBigEnd trailer < Bytes.range mode.checksumSize := by
    have hlt := Bytes.ofLittleEnd_lt trailer.reverse
    rwa [List.length_reverse, h] at hlt
  have hnum : (UInt16.ofNat (Bytes.ofBigEnd trailer)).toNat = Bytes.ofBigEnd trailer :=
    UInt16.toNat_ofNat_of_lt' (Nat.lt_of_lt_of_le hlt hrange)
  rw [← bigEnd_checksum]
  constructor
  · intro heq
    rw [heq, hnum, ← h, Bytes.bigEnd_ofBigEnd]
  · intro heq
    have hsum : (mode.checksum bytes).toNat < Bytes.range mode.checksumSize := by
      cases mode with
      | short => simpa [Mode.checksum, Mode.checksumSize, Bytes.range] using (crc8 bytes).toNat_lt
      | compact => exact (crc16 bytes).toNat_lt
    rw [heq, Bytes.ofBigEnd_bigEnd hsum, UInt16.ofNat_toNat]

namespace Codec

/-! ### What the reader answers -/

/-- What can stand behind a delimiter, and what the reader answers to it. -/
inductive Reading (c : Codec) : Bytes → Except Error (Option (Packet × Bytes)) → Prop
  | malformed {src : Bytes} {byte : UInt8} (h : c.mode.readLength src = .error byte) :
      Reading c src (.error (.malformedLength byte))
  | noField {src : Bytes} (h : c.mode.readLength src = .ok none) : Reading c src (.ok none)
  | tooLarge {field rest : Bytes} {n : Nat} (hfield : LengthField c.mode field n)
      (hsize : c.maxSize < n + 1) :
      Reading c (field ++ rest) (.error (.payloadTooLarge (n + 1) c.maxSize))
  | noCheck {field : Bytes} {n : Nat} (hfield : LengthField c.mode field n)
      (hsize : n + 1 ≤ c.maxSize) : Reading c field (.ok none)
  | wrongCheck {field rest : Bytes} {n : Nat} {check : UInt8}
      (hfield : LengthField c.mode field n) (hsize : n + 1 ≤ c.maxSize)
      (hcheck : check ≠ crc8 field) :
      Reading c (field ++ check :: rest) (.error (.lengthCheck (crc8 field) check))
  | short {field rest : Bytes} {n : Nat} (hfield : LengthField c.mode field n)
      (hsize : n + 1 ≤ c.maxSize) (hshort : rest.length < n + 1 + c.mode.checksumSize) :
      Reading c (field ++ crc8 field :: rest) (.ok none)
  | mismatch {field body trailer rest : Bytes}
      (hfield : LengthField c.mode field (body.length - 1)) (hbody : body ≠ [])
      (hsize : body.length ≤ c.maxSize) (hlength : trailer.length = c.mode.checksumSize)
      (htrailer : trailer ≠ c.mode.trailer (covered field body)) :
      Reading c (covered field body ++ trailer ++ rest)
        (.error (.checksumMismatch (c.mode.checksum (covered field body))
          (UInt16.ofNat (Bytes.ofBigEnd trailer))))
  | frame {field rest : Bytes} {packet : Packet}
      (hfield : LengthField c.mode field (packet.body.length - 1))
      (hsize : packet.body.length ≤ c.maxSize) :
      Reading c
        (covered field packet.body ++ c.mode.trailer (covered field packet.body) ++ rest)
        (.ok (some (packet, rest)))

/-- What stands behind a sound header and is long enough is a body, checksum
bytes and the rest. -/
theorem exists_parts {rest : Bytes} {size width : Nat} (h : size + width ≤ rest.length) :
    ∃ body trailer more, rest = body ++ (trailer ++ more) ∧ body.length = size ∧
      trailer.length = width := by
  refine ⟨rest.take size, (rest.drop size).take width, (rest.drop size).drop width, ?_, ?_, ?_⟩
  · rw [List.take_append_drop, List.take_append_drop]
  · rw [List.length_take]
    omega
  · rw [List.length_take, List.length_drop]
    omega

theorem readFrame_layout {c : Codec} {field body trailer : Bytes}
    (hfield : LengthField c.mode field (body.length - 1)) (hbody : body ≠ [])
    (hsize : body.length ≤ c.maxSize) (hlength : trailer.length = c.mode.checksumSize)
    (rest : Bytes) :
    c.readFrame (covered field body ++ trailer ++ rest) =
      if trailer = c.mode.trailer (covered field body) then
        .ok ((Packet.ofBody? body).map fun packet => (packet, rest))
      else .error (.checksumMismatch (c.mode.checksum (covered field body))
        (UInt16.ofNat (Bytes.ofBigEnd trailer))) := by
  have hnum : body.length - 1 + 1 = body.length :=
    Nat.succ_pred_eq_of_pos (List.length_pos_iff.mpr hbody)
  have hsrc : covered field body ++ trailer ++ rest =
      field ++ crc8 field :: (body ++ (trailer ++ rest)) := by
    simp [covered]
  have hrest : (body ++ (trailer ++ rest)).drop (body.length + c.mode.checksumSize) = rest := by
    rw [← List.drop_drop, List.drop_left, ← hlength, List.drop_left]
  have hfront : (trailer ++ rest).take c.mode.checksumSize = trailer := by
    rw [← hlength, List.take_left]
  have hcovered : field ++ crc8 field :: body = covered field body := rfl
  rw [hsrc]
  simp only [readFrame, readLength_append hfield, hnum, Nat.not_lt.mpr hsize, if_false,
    List.take_left, List.drop_left, ne_eq, not_true_eq_false, hrest, hfront, hlength,
    Nat.lt_irrefl, hcovered, checksum_eq_iff hlength, ite_not]

theorem Reading.readFrame_eq {c : Codec} {src : Bytes}
    {result : Except Error (Option (Packet × Bytes))} (h : c.Reading src result) :
    c.readFrame src = result := by
  cases h with
  | malformed h => simp [readFrame, h]
  | noField h => simp [readFrame, h]
  | tooLarge hfield hsize => simp [readFrame, readLength_append hfield, hsize]
  | noCheck hfield hsize =>
      have hread := readLength_append hfield []
      rw [List.append_nil] at hread
      simp [readFrame, hread, Nat.not_lt.mpr hsize]
  | wrongCheck hfield hsize hcheck =>
      simp [readFrame, readLength_append hfield, Nat.not_lt.mpr hsize, hcheck]
  | short hfield hsize hshort =>
      have hpos := c.mode.checksumSize_pos
      simp [readFrame, readLength_append hfield, Nat.not_lt.mpr hsize]
      omega
  | mismatch hfield hbody hsize hlength htrailer =>
      rw [readFrame_layout hfield hbody hsize hlength, if_neg htrailer]
  | frame hfield hsize =>
      rw [readFrame_layout hfield (by simp [Packet.body]) hsize (c.mode.length_trailer _),
        if_pos rfl, Packet.ofBody?_body]
      rfl

/-- Every string is one of those that can stand behind a delimiter. -/
theorem exists_reading (c : Codec) (src : Bytes) : ∃ result, c.Reading src result := by
  cases hread : c.mode.readLength src with
  | error byte => exact ⟨_, .malformed hread⟩
  | ok found =>
      cases found with
      | none => exact ⟨_, .noField hread⟩
      | some found =>
          obtain ⟨n, size⟩ := found
          obtain ⟨field, rest, rfl, rfl, hfield⟩ := readLength_eq_some_iff.mp hread
          by_cases hsize : c.maxSize < n + 1
          · exact ⟨_, .tooLarge hfield hsize⟩
          replace hsize := Nat.le_of_not_lt hsize
          cases rest with
          | nil =>
              rw [List.append_nil]
              exact ⟨_, .noCheck hfield hsize⟩
          | cons check rest =>
              by_cases hcheck : check = crc8 field
              · subst hcheck
                by_cases hshort : rest.length < n + 1 + c.mode.checksumSize
                · exact ⟨_, .short hfield hsize hshort⟩
                obtain ⟨body, trailer, more, rfl, hbody, hlength⟩ :=
                  exists_parts (Nat.le_of_not_lt hshort)
                obtain ⟨packet, rfl⟩ : ∃ packet : Packet, body = packet.body := by
                  cases body with
                  | nil => simp at hbody
                  | cons tag payload => exact ⟨⟨tag, payload⟩, rfl⟩
                rw [← hbody] at hsize
                replace hfield : LengthField c.mode field (packet.body.length - 1) := by
                  rwa [hbody, Nat.add_sub_cancel]
                have hsrc : field ++ crc8 field :: (packet.body ++ (trailer ++ more)) =
                    covered field packet.body ++ trailer ++ more := by
                  simp [covered]
                rw [hsrc]
                by_cases htrailer : trailer = c.mode.trailer (covered field packet.body)
                · subst htrailer
                  exact ⟨_, .frame hfield hsize⟩
                · exact ⟨_, .mismatch hfield (by simp [Packet.body]) hsize hlength htrailer⟩
              · exact ⟨_, .wrongCheck hfield hsize hcheck⟩

/-- What the reader answers is the answer to what stands there. -/
theorem reading (c : Codec) (src : Bytes) : c.Reading src (c.readFrame src) := by
  obtain ⟨result, h⟩ := c.exists_reading src
  rwa [h.readFrame_eq]

/-! ### Whole frames -/

theorem frame_eq_layout (c : Codec) (body : Bytes) :
    c.frame body = c.layout (c.mode.lengthField (body.length - 1)) body
      (c.mode.trailer (covered (c.mode.lengthField (body.length - 1)) body)) := by
  rw [layout, ← bigEnd_checksum]
  rfl

/-- What the writer writes is a frame. -/
theorem isFrame_frame {c : Codec} {body : Bytes} (hceiling : c.maxSize ≤ c.mode.ceiling)
    (hbody : body ≠ []) (hsize : body.length ≤ c.maxSize) : c.IsFrame body (c.frame body) := by
  refine ⟨hbody, hsize, _, lengthField_lengthField ?_, c.frame_eq_layout body⟩
  have hpos := List.length_pos_iff.mpr hbody
  omega

theorem readFrame_eq_packet_iff {c : Codec} {src rest : Bytes} {packet : Packet} :
    c.readFrame src = .ok (some (packet, rest)) ↔
      ∃ wire, c.delimiter :: src = wire ++ rest ∧ c.IsFrame packet.body wire := by
  constructor
  · intro h
    have hreading := c.reading src
    rw [h] at hreading
    cases hreading with
    | frame hfield hsize =>
        exact ⟨c.layout _ packet.body _, rfl, by simp [Packet.body], hsize, _, hfield, rfl⟩
  · rintro ⟨wire, hsrc, hframe⟩
    obtain ⟨field, hfield, rfl⟩ := hframe.parts
    rw [layout, List.cons_append, List.cons.injEq] at hsrc
    obtain ⟨-, rfl⟩ := hsrc
    exact (Reading.frame hfield hframe.fits).readFrame_eq

theorem decode_cons_delimiter (c : Codec) (src : Bytes) :
    c.decode (c.delimiter :: src) =
      match c.readFrame src with
      | .ok none => .needsMore
      | .ok (some (packet, rest)) => .item (.packet packet) rest
      | .error error => .refused error (c.resync src) := by
  rcases hread : c.readFrame src with error | _ | ⟨packet, rest⟩ <;> simp [decode, hread]

theorem decode_cons_of_ne {c : Codec} {b : UInt8} (h : b ≠ c.delimiter) (src : Bytes) :
    c.decode (b :: src) = .item (.stray (c.noise (b :: src))) (c.resync (b :: src)) := by
  simp [decode, h]

theorem decode_eq_packet_iff {c : Codec} {buffer rest : Bytes} {packet : Packet} :
    c.decode buffer = .item (.packet packet) rest ↔
      ∃ wire, buffer = wire ++ rest ∧ c.IsFrame packet.body wire := by
  cases buffer with
  | nil =>
      constructor
      · intro h
        simp [decode] at h
      · rintro ⟨wire, hnil, hframe⟩
        obtain ⟨field, -, rfl⟩ := hframe.parts
        simp [layout] at hnil
  | cons b src =>
      by_cases hb : b = c.delimiter
      · subst hb
        rw [← readFrame_eq_packet_iff, decode_cons_delimiter]
        cases c.readFrame src with
        | error error => simp
        | ok found =>
            cases found with
            | none => simp
            | some found => simp [Prod.ext_iff]
      · constructor
        · intro h
          simp [decode_cons_of_ne hb] at h
        · rintro ⟨wire, hsrc, hframe⟩
          obtain ⟨field, -, rfl⟩ := hframe.parts
          rw [layout, List.cons_append, List.cons.injEq] at hsrc
          exact absurd hsrc.1 hb

theorem encode_of_fits {c : Codec} {body : Bytes} (hbody : body ≠ [])
    (hsize : body.length ≤ c.maxSize) (buffer : Bytes) :
    c.encode body buffer = (.ok (), buffer ++ c.frame body) := by
  simp [encode, hbody, Nat.not_lt.mpr hsize]

/-- A short frame is what the writer writes for its body. -/
theorem IsFrame.eq_frame {c : Codec} {body wire : Bytes} (h : c.IsFrame body wire)
    (hmode : c.mode = .short) : wire = c.frame body := by
  obtain ⟨field, hfield, rfl⟩ := h.parts
  rw [hmode] at hfield
  rw [frame_eq_layout, hfield.eq_lengthField, hmode]

/-- A packet is read exactly where a frame with its body stands, and the frame
is what is taken off the buffer. A short frame is moreover the one that is
written for the body; a packet that is read is never empty and never longer
than the codec allows. -/
theorem decode_packet_iff_isFrame (c : Codec) :
    (∀ buffer packet rest, c.decode buffer = .item (.packet packet) rest ↔
      ∃ wire, buffer = wire ++ rest ∧ c.IsFrame packet.body wire) ∧
    (∀ body wire buffer, c.mode = .short → c.IsFrame body wire →
      c.encode body buffer = (.ok (), buffer ++ wire)) ∧
    (∀ buffer packet rest, c.decode buffer = .item (.packet packet) rest →
      packet.body ≠ [] ∧ packet.body.length ≤ c.maxSize) := by
  refine ⟨fun _ _ _ => decode_eq_packet_iff, ?_, ?_⟩
  · intro body wire buffer hmode hframe
    rw [encode_of_fits hframe.nonempty hframe.fits, hframe.eq_frame hmode]
  · intro buffer packet rest h
    obtain ⟨wire, -, hframe⟩ := decode_eq_packet_iff.mp h
    exact ⟨hframe.nonempty, hframe.fits⟩

end Codec

end LinkStack.Frame
