import LinkStack.Proofs.Frame.Checksum
import LinkStack.Proofs.Frame.Stream

/-!
Frames in which one byte was changed.

The body has at most 63 bytes and no delimiter in it. The checksums notice the
change wherever it falls, but a reader does not always compare the checksums
that the writer wrote. A changed length byte can claim the check byte for the
length field, so that the checks of the frame in front are those that the body
happens to hold; and a byte that is, or became, a delimiter can begin a frame
inside of the refused one. `Opening` lists the places at which a frame can
begin at all, and `exists_packet_changed_iff` says that a packet is read exactly
if a frame begins at one of them and no delimiter in front of it keeps the
reader waiting.
-/

namespace LinkStack.Frame

/-- Length fields are a prefix code. -/
theorem LengthField.eq_of_append_eq {mode : Mode} {field field' rest rest' : Bytes} {n n' : Nat}
    (h : LengthField mode field n) (h' : LengthField mode field' n')
    (heq : field ++ rest = field' ++ rest') : field = field' ∧ n = n' ∧ rest = rest' := by
  have hread := readLength_append h rest
  rw [heq, readLength_append h' rest'] at hread
  simp only [Except.ok.injEq, Option.some.injEq, Prod.mk.injEq] at hread
  obtain ⟨hnum, hlen⟩ := hread
  obtain ⟨hfield, hrest⟩ := List.append_inj heq hlen.symm
  exact ⟨hfield, hnum.symm, hrest⟩

theorem LengthField.length_pos {mode : Mode} {field : Bytes} {n : Nat}
    (h : LengthField mode field n) : 0 < field.length := by
  cases h <;> simp

theorem LengthField.top_le {b : UInt8} {rest : Bytes} {n : Nat}
    (h : LengthField .compact (b :: rest) n) : 0x80 ≤ b := by
  cases h with
  | compact h => exact h
  | compactMore h => exact UInt8.le_trans (by decide) h

theorem Groups.eq_of_zero {groups : Bytes} (h : Groups maxGroups groups 0) :
    groups = [0] ∨ groups = [0x80, 0] := by
  have last_eq {b : UInt8} (hb : 0 = b.toNat) : b = 0 := UInt8.toNat_inj.mp hb.symm
  generalize hn : 0 = n at h
  generalize hlimit : maxGroups = limit at h
  cases h with
  | @last _ b hlast =>
      obtain rfl : b = 0 := last_eq hn
      exact .inl rfl
  | @cons more b groups n hflag tail =>
      have hbound := b.toNat_lt
      rw [UInt8.le_iff_toNat_le] at hflag
      change 128 ≤ b.toNat at hflag
      obtain rfl : b = 0x80 := by
        rw [← UInt8.toNat_inj]
        change b.toNat = 128
        omega
      cases tail with
      | @last _ b hlast =>
          obtain rfl : b = 0 := last_eq (by omega)
          exact .inr rfl
      | cons _ tail =>
          rw [maxGroups] at hlimit
          obtain rfl := Nat.succ.inj (Nat.succ.inj hlimit)
          cases tail

/-- A small number is held by one byte, or by more that hold nothing. -/
theorem LengthField.cases_of_lt {mode : Mode} {field : Bytes} {n : Nat}
    (h : LengthField mode field n) (hn : n < 64) :
    (∃ b, field = [b]) ∨
      (mode = .compact ∧ ∃ b, 0xC0 ≤ b ∧ (field = [b, 0] ∨ field = [b, 0x80, 0])) := by
  cases h with
  | @short b => exact .inl ⟨b, rfl⟩
  | @compact b => exact .inl ⟨b, rfl⟩
  | @compactMore b groups n hmore tail =>
      obtain rfl : n = 0 := by omega
      refine .inr ⟨rfl, b, hmore, ?_⟩
      exact (Groups.eq_of_zero tail).imp (congrArg (b :: ·)) (congrArg (b :: ·))

/-- The length byte of a body that needs no more than one. -/
def Mode.lengthByte : Mode → Bytes → UInt8
  | .short, body => UInt8.ofNat (body.length - 1)
  | .compact, body => UInt8.ofNat (0x80 + (body.length - 1))

theorem lengthField_eq_lengthByte (mode : Mode) {body : Bytes} (hsize : body.length ≤ 64) :
    mode.lengthField (body.length - 1) = [mode.lengthByte body] := by
  cases mode with
  | short => rfl
  | compact =>
      rw [Mode.lengthField, if_pos (by omega)]
      rfl

theorem lengthField_lengthByte (mode : Mode) {body : Bytes} (hsize : body.length ≤ 64) :
    LengthField mode [mode.lengthByte body] (body.length - 1) := by
  rw [← lengthField_eq_lengthByte mode hsize]
  refine lengthField_lengthField ?_
  cases mode <;> simp only [Mode.ceiling] <;> omega

/-- A length byte is known from its value only in a compact frame, where the
short ones are too small. -/
theorem lengthByte_eq_iff {mode : Mode} {body : Bytes} (hsize : body.length ≤ 64) {n : Nat}
    (hn : n < 64) : mode.lengthByte body = UInt8.ofNat (0x80 + n) ↔
      mode = .compact ∧ body.length - 1 = n := by
  rw [← UInt8.toNat_inj, toNat_byte (by omega)]
  cases mode with
  | short =>
      rw [Mode.lengthByte, toNat_byte (by omega)]
      simp
      omega
  | compact =>
      rw [Mode.lengthByte, toNat_byte (by omega)]
      simp

namespace Codec

/-- The places at which a frame can begin in the frame of a body after its byte
number `i` became `v`. -/
inductive Opening (c : Codec) (body : Bytes) (i : Nat) (v : UInt8) : Nat → Prop
  /-- The changed byte itself is a delimiter. -/
  | changed (hi : 0 < i) (hv : v = c.delimiter) : Opening c body i v i
  /-- The length byte is one, and the check byte was changed. -/
  | length (hmode : c.mode = .compact) (hsize : body.length = 38) (hi : i = 2) :
      Opening c body i v 1
  /-- The check byte is one. -/
  | check (hmode : c.mode = .compact) (hsize : body.length = 46) : Opening c body i v 2
  /-- The length byte was changed and makes the check byte and the first byte of
  the body a part of the length field, with no effect on its number. -/
  | front (hmode : c.mode = .compact) (hsize : body.length = 39) (hfirst : body.head? = some 0)
      (hi : i = 1) (hv : 0xC0 ≤ v) : Opening c body i v 0

/-! ### Frames in front -/

theorem StartsWithFrame.exists_parts {c : Codec} {bytes : Bytes} (h : c.StartsWithFrame bytes) :
    ∃ field body rest, LengthField c.mode field (body.length - 1) ∧ body ≠ [] ∧
      bytes = c.delimiter :: (field ++ crc8 field :: (body ++
        (c.mode.trailer (covered field body) ++ rest))) := by
  obtain ⟨body, wire, hframe, rest, rfl⟩ := h
  obtain ⟨field, hfield, rfl⟩ := hframe.parts
  exact ⟨field, body, rest, hfield, hframe.nonempty, by simp [layout, covered]⟩

theorem StartsWithFrame.top_le {c : Codec} {bytes : Bytes} {b : UInt8} (h : c.StartsWithFrame bytes)
    (hmode : c.mode = .compact) (hb : bytes[1]? = some b) : 0x80 ≤ b := by
  obtain ⟨field, body, rest, hfield, -, rfl⟩ := h.exists_parts
  rw [hmode] at hfield
  cases field with
  | nil => cases hfield
  | cons b' field =>
      obtain rfl : b' = b := by simpa using hb
      exact hfield.top_le

theorem frame_eq_cons (c : Codec) {body : Bytes} (hsize : body.length ≤ 64) :
    c.frame body = c.delimiter :: c.mode.lengthByte body :: crc8 [c.mode.lengthByte body] ::
      (body ++ c.mode.trailer (covered [c.mode.lengthByte body] body)) := by
  rw [frame_eq_layout, lengthField_eq_lengthByte c.mode hsize]
  simp [layout, covered]

section Changed

variable {c : Codec} {body : Bytes} {v : UInt8}

/-- With its length byte changed a frame is read in front only if the check byte
is taken for a part of the length field. -/
theorem opening_of_length {check : UInt8} {trailer : Bytes}
    (hcheck : check = crc8 [c.mode.lengthByte body]) (hbody : body ≠ []) (hsize : body.length ≤ 63)
    (hlength : trailer.length = c.mode.checksumSize) (hv : v ≠ c.mode.lengthByte body)
    (h : c.StartsWithFrame (c.delimiter :: v :: check :: (body ++ trailer))) :
    c.Opening body 1 v 0 := by
  obtain ⟨field, body', rest, hfield, hbody', hbytes⟩ := h.exists_parts
  have hbytes := (List.cons.inj hbytes).2
  have hlen := congrArg List.length hbytes
  have hpos := List.length_pos_iff.mpr hbody'
  have hpos' := hfield.length_pos
  simp only [List.length_cons, List.length_append, Mode.length_trailer, hlength] at hlen
  rcases hfield.cases_of_lt (by omega) with ⟨b, rfl⟩ | ⟨hmode, b, hmore, hgroups⟩
  · -- the check byte still follows the length byte
    obtain ⟨rfl, htail⟩ := List.cons.inj hbytes
    have hkept : check = crc8 [v] := (List.cons.inj htail).1
    exact absurd (crc8_singleton_inj.mp (hkept.symm.trans hcheck)) hv
  rcases hgroups with rfl | rfl
  · -- a check byte of zero would belong to a length byte of zero
    obtain ⟨-, htail⟩ := List.cons.inj hbytes
    have hzero : crc8 [c.mode.lengthByte body] = crc8 [0] := hcheck.symm.trans (List.cons.inj htail).1
    rw [crc8_singleton_inj, hmode, Mode.lengthByte, ← UInt8.toNat_inj, toNat_byte (by omega)] at hzero
    simp at hzero
  · obtain ⟨first, body, rfl⟩ := List.exists_cons_of_ne_nil hbody
    obtain ⟨rfl, htail⟩ := List.cons.inj hbytes
    obtain ⟨hgroup, htail⟩ := List.cons.inj htail
    obtain ⟨rfl, -⟩ := List.cons.inj htail
    have hbyte : c.mode.lengthByte (0 :: body) = UInt8.ofNat (0x80 + 38) := by
      rw [← crc8_singleton_inj, ← hcheck, hgroup]
      decide
    obtain ⟨-, hnum⟩ := (lengthByte_eq_iff (Nat.le_succ_of_le hsize) (by decide)).mp hbyte
    exact .front hmode (congrArg (· + 1) hnum) rfl rfl hmore

theorem not_startsWithFrame_of_check {f : UInt8} {n : Nat} {rest : Bytes}
    (hfield : LengthField c.mode [f] n) (hv : v ≠ crc8 [f]) :
    ¬ c.StartsWithFrame (c.delimiter :: f :: v :: rest) := by
  intro h
  obtain ⟨field, body, rest', hfield', -, hbytes⟩ := h.exists_parts
  obtain ⟨rfl, -, hrest⟩ := hfield.eq_of_append_eq hfield' (List.cons.inj hbytes).2
  exact hv (List.cons.inj hrest).1

theorem not_startsWithFrame_of_covered {f b : UInt8} {i : Nat}
    (hfield : LengthField c.mode [f] (body.length - 1)) (hbody : body ≠ [])
    (hb : (body ++ c.mode.trailer (covered [f] body))[i]? = some b) (hv : v ≠ b) :
    ¬ c.StartsWithFrame (c.delimiter :: f :: crc8 [f] ::
      (body ++ c.mode.trailer (covered [f] body)).set i v) := by
  intro h
  obtain ⟨field, body', rest, hfield', hbody', hbytes⟩ := h.exists_parts
  obtain ⟨rfl, hnum, hrest⟩ := hfield.eq_of_append_eq hfield' (List.cons.inj hbytes).2
  have hrest := (List.cons.inj hrest).2
  have hsame : body'.length = body.length := by
    have hpos := List.length_pos_iff.mpr hbody
    have hpos' := List.length_pos_iff.mpr hbody'
    omega
  have hnil : rest = [] := by
    have hlen := congrArg List.length hrest
    simp only [List.length_set, List.length_append, Mode.length_trailer] at hlen
    exact List.eq_nil_of_length_eq_zero (by omega)
  subst hnil
  rw [List.append_nil, List.set_append] at hrest
  split at hrest
  · rename_i hi
    obtain ⟨rfl, htrailer⟩ := List.append_inj hrest (by simp [hsame])
    rw [List.getElem?_append_left hi] at hb
    have hcovered : (covered [f] body)[i + 2]? = some b := hb
    exact trailer_set_ne hcovered hv htrailer.symm
  · rename_i hi
    obtain ⟨rfl, htrailer⟩ := List.append_inj hrest hsame.symm
    rw [List.getElem?_append_right (Nat.le_of_not_lt hi)] at hb
    have hchanged := congrArg (fun bytes => bytes[i - body.length]?) htrailer
    simp only [List.getElem?_set_self', hb] at hchanged
    exact hv (by simpa using hchanged)

/-- A frame with one byte changed is read in front only at the opening there. -/
theorem opening_of_front {i : Nat} (hbody : body ≠ []) (hsize : body.length ≤ 63)
    (hi : i < (c.frame body).length) (hv : (c.frame body)[i]? ≠ some v)
    (h : c.StartsWithFrame ((c.frame body).set i v)) : c.Opening body i v 0 := by
  have hfield : LengthField c.mode [c.mode.lengthByte body] (body.length - 1) :=
    lengthField_lengthByte c.mode (by omega)
  rw [frame_eq_cons c (by omega)] at hi hv h
  match i with
  | 0 =>
      obtain ⟨field, body', rest, -, -, hbytes⟩ := h.exists_parts
      obtain ⟨rfl, -⟩ := List.cons.inj hbytes
      simp at hv
  | 1 => exact opening_of_length rfl hbody hsize (by simp) (by simpa [eq_comm] using hv) h
  | 2 => exact absurd h (not_startsWithFrame_of_check hfield (by simpa [eq_comm] using hv))
  | i + 3 =>
      simp only [List.getElem?_cons_succ] at hv
      simp only [List.length_cons, Nat.add_lt_add_iff_right] at hi
      have hb := List.getElem?_eq_getElem hi
      rw [hb] at hv
      refine absurd h (not_startsWithFrame_of_covered hfield hbody hb ?_)
      exact fun heq => hv (heq ▸ rfl)

/-- Behind the front a frame is read only at an opening. -/
theorem opening_of_drop {i j : Nat} (hdelimiter : c.delimiter = 0xA5)
    (hsize : body.length ≤ 63) (hclean : c.delimiter ∉ body) (hi : i < (c.frame body).length)
    (hj : 0 < j) (h : c.StartsWithFrame (((c.frame body).set i v).drop j)) :
    c.Opening body i v j := by
  obtain ⟨field, body', rest, hfield, hbody', hbytes⟩ := h.exists_parts
  have hstart : ((c.frame body).set i v)[j]? = some c.delimiter := by
    have hhead := congrArg (fun bytes => bytes[0]?) hbytes
    simpa using hhead
  have hroom : j < body.length := by
    have hlen := congrArg List.length hbytes
    have hpos := List.length_pos_iff.mpr hbody'
    have hfieldpos := hfield.length_pos
    simp only [List.length_drop, List.length_set, List.length_cons, List.length_append,
      Mode.length_trailer, frame_eq_cons c (show body.length ≤ 64 by omega)] at hlen
    omega
  by_cases heq : i = j
  · subst heq
    rw [List.getElem?_set_self hi, Option.some.injEq] at hstart
    exact .changed hj hstart
  rw [List.getElem?_set_ne heq, frame_eq_cons c (by omega)] at hstart
  match j with
  | 1 =>
      have hbyte : c.mode.lengthByte body = UInt8.ofNat (0x80 + 37) := by
        rw [hdelimiter] at hstart
        simpa using hstart
      obtain ⟨hmode, hnum⟩ := (lengthByte_eq_iff (by omega) (by decide)).mp hbyte
      by_cases hother : i = 2
      · exact .length hmode (by omega) hother
      have hcheck : (((c.frame body).set i v).drop 1)[1]? = some (crc8 [UInt8.ofNat (0x80 + 37)]) := by
        rw [List.getElem?_drop, List.getElem?_set_ne hother, frame_eq_cons c (by omega), hbyte]
        rfl
      -- this check byte does not begin a length field
      exact absurd (h.top_le hmode hcheck) (by decide)
  | 2 =>
      have hbyte : c.mode.lengthByte body = UInt8.ofNat (0x80 + 45) := by
        rw [hdelimiter] at hstart
        rw [← crc8_singleton_inj]
        exact Option.some.inj hstart
      obtain ⟨hmode, hnum⟩ := (lengthByte_eq_iff (by omega) (by decide)).mp hbyte
      exact .check hmode (by omega)
  | j + 3 =>
      simp only [List.getElem?_cons_succ] at hstart
      rw [List.getElem?_append_left (by omega)] at hstart
      exact absurd (List.mem_of_getElem? hstart) hclean

end Changed

theorem encode_eq_ok_iff {c : Codec} {body buffer wire : Bytes} :
    c.encode body buffer = (.ok (), wire) ↔
      body ≠ [] ∧ body.length ≤ c.maxSize ∧ wire = buffer ++ c.frame body := by
  constructor
  · intro h
    rw [encode] at h
    split at h
    · simp at h
    · rename_i hbody
      split at h
      · simp at h
      · rename_i hsize
        simp only [Prod.mk.injEq, true_and] at h
        exact ⟨by simpa using hbody, Nat.le_of_not_lt hsize, h.symm⟩
  · rintro ⟨hbody, hsize, rfl⟩
    exact encode_of_fits hbody hsize buffer

/-- One changed byte lets a packet be read exactly if a frame begins at one of
the openings and no delimiter in front of it seems to begin a frame that goes
beyond the end. Where there is no opening the change is always noticed. -/
theorem exists_packet_changed_iff (mode : Mode) {body wire : Bytes} {i : Nat} {v : UInt8}
    (hwire : (new mode 0xA5 mode.ceiling).encode body [] = (.ok (), wire))
    (hsize : body.length ≤ 63) (hclean : 0xA5 ∉ body) (hi : i < wire.length)
    (hv : wire[i]? ≠ some v) :
    (∃ packet, .ok (.packet packet) ∈
        ((new mode 0xA5 mode.ceiling).decodeAll (wire.set i v)).1) ↔
      ∃ j, (new mode 0xA5 mode.ceiling).Opening body i v j ∧
        (new mode 0xA5 mode.ceiling).StartsWithFrame ((wire.set i v).drop j) ∧
        ∀ k < j, ¬ (new mode 0xA5 mode.ceiling).Unfinished ((wire.set i v).drop k) := by
  obtain ⟨hbody, -, rfl⟩ := encode_eq_ok_iff.mp hwire
  rw [List.nil_append] at hi hv ⊢
  rw [exists_packet_iff (Nat.min_self mode.ceiling)]
  constructor
  · rintro ⟨j, hframe, hbefore⟩
    refine ⟨j, ?_, hframe, hbefore⟩
    cases j with
    | zero => exact opening_of_front hbody hsize hi hv hframe
    | succ j => exact opening_of_drop rfl hsize hclean hi (Nat.succ_pos j) hframe
  · rintro ⟨j, -, hframe, hbefore⟩
    exact ⟨j, hframe, hbefore⟩

/-- A body that goes on like a length field with a superfluous group and holds a
whole frame of one byte behind it. -/
def reframable : Bytes := [0x00, 0x19, 0x00, 0x46, 0x67] ++ List.replicate 34 0x11

/-- The frame of that body after its length byte became the first of three. -/
def reframed : Bytes := ((new .compact 0xA5 65536).frame reframable).set 1 0xC0

theorem encode_reframable : (new .compact 0xA5 65536).encode reframable [] =
    (.ok (), (new .compact 0xA5 65536).frame reframable) :=
  encode_of_fits (by decide) (by decide) []

theorem decodeAll_reframed :
    .ok (.packet ⟨0x00, []⟩) ∈ ((new .compact 0xA5 65536).decodeAll reframed).1 := by
  have hfirst : (new .compact 0xA5 65536).decode reframed =
      .item (.packet ⟨0x00, []⟩) (reframed.drop 8) := by
    decide +kernel
  rw [decodeAll_of_item hfirst]
  exact List.mem_cons_self

/-- The opening in front is reached when a body is made for it. -/
theorem exists_opening_reframed :
    (new .compact 0xA5 65536).encode reframable [] =
      (.ok (), (new .compact 0xA5 65536).frame reframable) ∧
    reframable.length ≤ 63 ∧ 0xA5 ∉ reframable ∧
    1 < ((new .compact 0xA5 65536).frame reframable).length ∧
    ((new .compact 0xA5 65536).frame reframable)[1]? ≠ some 0xC0 ∧
    ∃ j, (new .compact 0xA5 65536).Opening reframable 1 0xC0 j ∧
      (new .compact 0xA5 65536).StartsWithFrame (reframed.drop j) ∧
      ∀ k < j, ¬ (new .compact 0xA5 65536).Unfinished (reframed.drop k) := by
  have hsize : reframable.length ≤ 63 := by decide
  have hclean : 0xA5 ∉ reframable := by decide
  have hi : 1 < ((new .compact 0xA5 65536).frame reframable).length := by decide +kernel
  have hv : ((new .compact 0xA5 65536).frame reframable)[1]? ≠ some 0xC0 := by decide +kernel
  refine ⟨encode_reframable, hsize, hclean, hi, hv, ?_⟩
  exact (exists_packet_changed_iff .compact encode_reframable hsize hclean hi hv).mp
    ⟨_, decodeAll_reframed⟩

/-- Not every change of one byte is noticed. -/
theorem not_forall_changed_noticed :
    ¬ ∀ (mode : Mode) (body wire : Bytes) (i : Nat) (v : UInt8),
      (new mode 0xA5 mode.ceiling).encode body [] = (.ok (), wire) → body.length ≤ 63 →
      0xA5 ∉ body → i < wire.length → wire[i]? ≠ some v →
      ∀ packet, .ok (.packet packet) ∉
        ((new mode 0xA5 mode.ceiling).decodeAll (wire.set i v)).1 := by
  intro h
  exact h .compact reframable _ 1 0xC0 encode_reframable (by decide) (by decide)
    (by decide +kernel) (by decide +kernel) _ decodeAll_reframed

end Codec

end LinkStack.Frame
