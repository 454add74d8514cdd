import LinkStack.Proofs.Frame.Grammar

/-!
Streams of frames.

Every unit that is taken from a buffer is at least one byte long, so reading
until nothing more is found comes to an end, and `decodeAll` can be unrolled
unit by unit (`decodeAll_of_item`, `decodeAll_of_refused`) without regard to
its number of turns; `decode_induction` is the induction that goes with it.

Two statements are made about whole streams. What was written is read back,
frame by frame, and a frame that is cut short is waited for
(`decodeAll_encoded`). And whether any packet is read from arbitrary bytes
depends on the frames that stand among them alone (`exists_packet_iff`): the
first one is read unless an earlier delimiter seems to begin a frame that goes
beyond the end of the buffer.
-/

namespace LinkStack.Frame.Codec

/-! ### Progress -/

theorem length_resync_le (c : Codec) (bytes : Bytes) :
    (c.resync bytes).length ≤ bytes.length :=
  (List.dropWhile_sublist _).length_le

theorem resync_cons_of_ne {c : Codec} {b : UInt8} (h : b ≠ c.delimiter) (src : Bytes) :
    c.resync (b :: src) = c.resync src := by
  simp [resync, h]

theorem length_lt_of_item {c : Codec} {buffer rest : Bytes} {item : Item}
    (h : c.decode buffer = .item item rest) : rest.length < buffer.length := by
  cases buffer with
  | nil => simp [decode] at h
  | cons b src =>
      cases item with
      | packet packet =>
          obtain ⟨wire, hsrc, hframe⟩ := decode_eq_packet_iff.mp h
          obtain ⟨field, -, rfl⟩ := hframe.parts
          rw [hsrc, List.length_append, layout, List.length_cons]
          omega
      | stray bytes =>
          by_cases hb : b = c.delimiter
          · subst hb
            rw [decode_cons_delimiter] at h
            split at h <;> simp at h
          · rw [decode_cons_of_ne hb, resync_cons_of_ne hb] at h
            simp only [Decoded.item.injEq] at h
            obtain ⟨-, rfl⟩ := h
            exact Nat.lt_succ_of_le (c.length_resync_le src)

theorem eq_cons_of_refused {c : Codec} {buffer rest : Bytes} {error : Error}
    (h : c.decode buffer = .refused error rest) :
    ∃ src, buffer = c.delimiter :: src ∧ c.readFrame src = .error error ∧
      rest = c.resync src := by
  cases buffer with
  | nil => simp [decode] at h
  | cons b src =>
      by_cases hb : b = c.delimiter
      · subst hb
        rw [decode_cons_delimiter] at h
        split at h
        · simp at h
        · simp at h
        · rename_i hread
          simp only [Decoded.refused.injEq] at h
          obtain ⟨rfl, rfl⟩ := h
          exact ⟨src, rfl, hread, rfl⟩
      · simp [decode_cons_of_ne hb] at h

theorem length_lt_of_refused {c : Codec} {buffer rest : Bytes} {error : Error}
    (h : c.decode buffer = .refused error rest) : rest.length < buffer.length := by
  obtain ⟨src, rfl, -, rfl⟩ := eq_cons_of_refused h
  exact Nat.lt_succ_of_le (c.length_resync_le src)

/-- More turns than there are bytes change nothing. -/
theorem decodeUpTo_eq {c : Codec} {turns turns' : Nat} {buffer : Bytes}
    (h : buffer.length ≤ turns) (h' : buffer.length ≤ turns') :
    c.decodeUpTo turns buffer = c.decodeUpTo turns' buffer := by
  have decodeUpTo_nil (turns : Nat) : c.decodeUpTo turns [] = ([], []) := by
    cases turns <;> rfl
  induction turns generalizing turns' buffer with
  | zero =>
      obtain rfl := List.eq_nil_of_length_eq_zero (Nat.le_zero.mp h)
      rw [decodeUpTo_nil, decodeUpTo_nil]
  | succ turns ih =>
      cases turns' with
      | zero =>
          obtain rfl := List.eq_nil_of_length_eq_zero (Nat.le_zero.mp h')
          rw [decodeUpTo_nil, decodeUpTo_nil]
      | succ turns' =>
          simp only [decodeUpTo]
          cases hdecode : c.decode buffer with
          | needsMore => rfl
          | item item rest =>
              have hlt := length_lt_of_item hdecode
              simp only [ih (show rest.length ≤ turns by omega) (show rest.length ≤ turns' by omega)]
          | refused error rest =>
              have hlt := length_lt_of_refused hdecode
              simp only [ih (show rest.length ≤ turns by omega) (show rest.length ≤ turns' by omega)]

theorem decodeAll_of_needsMore {c : Codec} {buffer : Bytes} (h : c.decode buffer = .needsMore) :
    c.decodeAll buffer = ([], buffer) := by
  rw [decodeAll]
  cases buffer.length with
  | zero => rfl
  | succ turns => rw [decodeUpTo, h]

theorem decodeAll_of_item {c : Codec} {buffer rest : Bytes} {item : Item}
    (h : c.decode buffer = .item item rest) :
    c.decodeAll buffer = (.ok item :: (c.decodeAll rest).1, (c.decodeAll rest).2) := by
  have hlt := length_lt_of_item h
  obtain ⟨turns, hturns⟩ : ∃ turns, buffer.length = turns + 1 :=
    Nat.exists_eq_add_one_of_ne_zero (by omega)
  have hsame : c.decodeUpTo turns rest = c.decodeAll rest :=
    decodeUpTo_eq (by omega) (Nat.le_refl _)
  rw [decodeAll, hturns, decodeUpTo, h]
  simp only [hsame]

theorem decodeAll_of_refused {c : Codec} {buffer rest : Bytes} {error : Error}
    (h : c.decode buffer = .refused error rest) :
    c.decodeAll buffer = (.error error :: (c.decodeAll rest).1, (c.decodeAll rest).2) := by
  have hlt := length_lt_of_refused h
  obtain ⟨turns, hturns⟩ : ∃ turns, buffer.length = turns + 1 :=
    Nat.exists_eq_add_one_of_ne_zero (by omega)
  have hsame : c.decodeUpTo turns rest = c.decodeAll rest :=
    decodeUpTo_eq (by omega) (Nat.le_refl _)
  rw [decodeAll, hturns, decodeUpTo, h]
  simp only [hsame]

/-- Induction along the units of a buffer. -/
theorem decode_induction (c : Codec) {P : Bytes → Prop}
    (needsMore : ∀ buffer, c.decode buffer = .needsMore → P buffer)
    (item : ∀ buffer item rest, c.decode buffer = .item item rest → P rest → P buffer)
    (refused : ∀ buffer error rest, c.decode buffer = .refused error rest → P rest → P buffer)
    (buffer : Bytes) : P buffer := by
  induction hlen : buffer.length using Nat.strongRecOn generalizing buffer with
  | ind n ih =>
      cases hdecode : c.decode buffer with
      | needsMore => exact needsMore buffer hdecode
      | item found rest =>
          have hlt := length_lt_of_item hdecode
          exact item buffer found rest hdecode (ih rest.length (hlen ▸ hlt) rest rfl)
      | refused error rest =>
          have hlt := length_lt_of_refused hdecode
          exact refused buffer error rest hdecode (ih rest.length (hlen ▸ hlt) rest rfl)

/-! ### Frames that are cut short -/

/-- In front of the proper beginning of a frame the reader waits. -/
theorem decode_of_unfinished {c : Codec} {bytes : Bytes} (h : c.Unfinished bytes) :
    c.decode bytes = .needsMore := by
  obtain ⟨field, body, trailer, ext, hfield, hbody, hsize, hlength, hext, hwhole⟩ := h
  have hpos := List.length_pos_iff.mpr hbody
  have hnum : body.length - 1 + 1 = body.length := Nat.succ_pred_eq_of_pos hpos
  cases bytes with
  | nil => rfl
  | cons b src =>
      rw [layout, covered, List.cons_append, List.cons.injEq, List.append_assoc] at hwhole
      obtain ⟨rfl, hwhole⟩ := hwhole
      have hread : c.readFrame src = .ok none := by
        -- the bytes end behind the length field or inside of it
        rcases List.append_eq_append_iff.mp hwhole with ⟨more, rfl, htail⟩ | ⟨more, rfl, rfl⟩
        · cases more with
          | nil =>
              rw [List.append_nil]
              exact (Reading.noCheck hfield (by omega)).readFrame_eq
          | cons check rest =>
              rw [List.cons_append, List.cons_append, List.cons.injEq] at htail
              obtain ⟨rfl, htail⟩ := htail
              refine (Reading.short hfield (by omega) ?_).readFrame_eq
              have hlen := congrArg List.length htail
              have hextpos := List.length_pos_iff.mpr hext
              simp only [List.length_append] at hlen
              omega
        · cases more with
          | nil =>
              rw [List.append_nil] at hfield
              exact (Reading.noCheck hfield (by omega)).readFrame_eq
          | cons b' rest =>
              exact (Reading.noField (readLength_of_beginning hfield (by simp))).readFrame_eq
      rw [decode_cons_delimiter, hread]

theorem unfinished_of_field {c : Codec} {src ext : Bytes} {n : Nat}
    (hfield : LengthField c.mode (src ++ ext) n) (hsize : n + 1 ≤ c.maxSize) :
    c.Unfinished (c.delimiter :: src) := by
  refine ⟨src ++ ext, List.replicate (n + 1) 0, List.replicate c.mode.checksumSize 0,
    ext ++ crc8 (src ++ ext) :: (List.replicate (n + 1) 0 ++
      List.replicate c.mode.checksumSize 0), ?_, by simp, by simpa using hsize, by simp,
    by simp, ?_⟩
  · simpa using hfield
  · simp [layout, covered]

theorem unfinished_of_short {c : Codec} {field rest : Bytes} {n : Nat}
    (hfield : LengthField c.mode field n) (hsize : n + 1 ≤ c.maxSize)
    (hshort : rest.length < n + 1 + c.mode.checksumSize) :
    c.Unfinished (c.delimiter :: (field ++ crc8 field :: rest)) := by
  -- what is missing can be filled up with anything, the checksums are not compared yet
  let fill := List.replicate (n + 1 + c.mode.checksumSize - rest.length) (0 : UInt8)
  have hlen : (rest ++ fill).length = n + 1 + c.mode.checksumSize := by
    simp [fill]
    omega
  have hbody : ((rest ++ fill).take (n + 1)).length = n + 1 := by
    rw [List.length_take, hlen]
    omega
  refine ⟨field, (rest ++ fill).take (n + 1), (rest ++ fill).drop (n + 1), fill,
    ?_, ?_, ?_, ?_, ?_, ?_⟩
  · rwa [hbody, Nat.add_sub_cancel]
  · exact List.ne_nil_of_length_pos (by omega)
  · rwa [hbody]
  · rw [List.length_drop, hlen]
    omega
  · refine List.ne_nil_of_length_pos ?_
    simp only [fill, List.length_replicate]
    omega
  · simp [layout, covered]

/-- A codec of full size waits only in front of the proper beginning of a
frame. -/
theorem unfinished_of_needsMore {c : Codec} (hfull : c.maxSize = c.mode.ceiling)
    {bytes : Bytes} (h : c.decode bytes = .needsMore) (hbytes : bytes ≠ []) :
    c.Unfinished bytes := by
  cases bytes with
  | nil => exact absurd rfl hbytes
  | cons b src =>
      by_cases hb : b = c.delimiter
      · subst hb
        have hreading := c.reading src
        rw [decode_cons_delimiter] at h
        split at h
        · rename_i hread
          rw [hread] at hreading
          cases hreading with
          | noField hfield =>
              obtain ⟨ext, n, -, hfield, hn⟩ := exists_completion hfield
              exact unfinished_of_field hfield (by omega)
          | noCheck hfield hsize =>
              rw [← List.append_nil src] at hfield
              exact unfinished_of_field hfield hsize
          | short hfield hsize hshort => exact unfinished_of_short hfield hsize hshort
        · simp at h
        · simp at h
      · simp [decode_cons_of_ne hb] at h

/-! ### The first frame among arbitrary bytes -/

/-- A frame stands at the front. -/
def StartsWithFrame (c : Codec) (bytes : Bytes) : Prop :=
  ∃ body wire, c.IsFrame body wire ∧ wire <+: bytes

/-- A frame stands somewhere, and nothing in front of it seems to begin one that
goes beyond the end. -/
def HasFrame (c : Codec) (bytes : Bytes) : Prop :=
  ∃ j, c.StartsWithFrame (bytes.drop j) ∧ ∀ i < j, ¬ c.Unfinished (bytes.drop i)

theorem startsWithFrame_iff {c : Codec} {bytes : Bytes} :
    c.StartsWithFrame bytes ↔ ∃ packet rest, c.decode bytes = .item (.packet packet) rest := by
  constructor
  · rintro ⟨body, wire, hframe, rest, rfl⟩
    cases body with
    | nil => exact absurd rfl hframe.nonempty
    | cons tag payload =>
        exact ⟨⟨tag, payload⟩, rest, decode_eq_packet_iff.mpr ⟨wire, rfl, hframe⟩⟩
  · rintro ⟨packet, rest, h⟩
    obtain ⟨wire, rfl, hframe⟩ := decode_eq_packet_iff.mp h
    exact ⟨packet.body, wire, hframe, rest, rfl⟩

theorem hasFrame_cons {c : Codec} {b : UInt8} {src : Bytes}
    (hframe : ¬ c.StartsWithFrame (b :: src)) (hwaits : c.decode (b :: src) ≠ .needsMore) :
    c.HasFrame (b :: src) ↔ c.HasFrame src := by
  constructor
  · rintro ⟨j, hj, hbefore⟩
    cases j with
    | zero => exact absurd hj hframe
    | succ j => exact ⟨j, hj, fun i hi => hbefore (i + 1) (Nat.succ_lt_succ hi)⟩
  · rintro ⟨j, hj, hbefore⟩
    refine ⟨j + 1, hj, ?_⟩
    intro i hi
    cases i with
    | zero => exact fun h => hwaits (decode_of_unfinished h)
    | succ i => exact hbefore i (Nat.lt_of_succ_lt_succ hi)

theorem hasFrame_resync (c : Codec) (bytes : Bytes) :
    c.HasFrame (c.resync bytes) ↔ c.HasFrame bytes := by
  induction bytes with
  | nil => rfl
  | cons b src ih =>
      by_cases hb : b = c.delimiter
      · rw [resync, List.dropWhile_cons_of_neg (by simpa using hb)]
      · have hdecode := decode_cons_of_ne hb src
        rw [resync_cons_of_ne hb, ih, hasFrame_cons]
        · rw [startsWithFrame_iff, hdecode]
          simp
        · simp [hdecode]

theorem eq_resync_of_stray {c : Codec} {buffer bytes rest : Bytes}
    (h : c.decode buffer = .item (.stray bytes) rest) : rest = c.resync buffer := by
  cases buffer with
  | nil => simp [decode] at h
  | cons b src =>
      by_cases hb : b = c.delimiter
      · subst hb
        rw [decode_cons_delimiter] at h
        split at h <;> simp at h
      · rw [decode_cons_of_ne hb] at h
        simp only [Decoded.item.injEq] at h
        exact h.2.symm

/-- While the reader waits, what it waits for hides all frames behind it. -/
theorem not_hasFrame_of_needsMore {c : Codec} (hfull : c.maxSize = c.mode.ceiling)
    {buffer : Bytes} (h : c.decode buffer = .needsMore) : ¬ c.HasFrame buffer := by
  rintro ⟨j, hj, hbefore⟩
  cases buffer with
  | nil =>
      obtain ⟨body, wire, hframe, hprefix⟩ := hj
      obtain ⟨field, -, rfl⟩ := hframe.parts
      simp [layout] at hprefix
  | cons b src =>
      cases j with
      | zero =>
          obtain ⟨packet, rest, hpacket⟩ := startsWithFrame_iff.mp hj
          simp [h] at hpacket
      | succ j => exact absurd (unfinished_of_needsMore hfull h (by simp)) (hbefore 0 (by omega))

/-- A packet is read from bytes exactly when a frame stands among them that no
earlier delimiter hides. -/
theorem exists_packet_iff {c : Codec} (hfull : c.maxSize = c.mode.ceiling) (bytes : Bytes) :
    (∃ packet, .ok (.packet packet) ∈ (c.decodeAll bytes).1) ↔ c.HasFrame bytes := by
  induction bytes using c.decode_induction with
  | needsMore buffer h =>
      rw [decodeAll_of_needsMore h]
      exact iff_of_false (by simp) (not_hasFrame_of_needsMore hfull h)
  | item buffer item rest h ih =>
      rw [decodeAll_of_item h]
      cases item with
      | packet packet =>
          have hframe : c.StartsWithFrame buffer := startsWithFrame_iff.mpr ⟨packet, rest, h⟩
          exact ⟨fun _ => ⟨0, hframe, by simp⟩, fun _ => ⟨packet, by simp⟩⟩
      | stray bytes =>
          rw [← c.hasFrame_resync buffer, ← eq_resync_of_stray h, ← ih]
          simp
  | refused buffer error rest h ih =>
      rw [decodeAll_of_refused h]
      obtain ⟨src, rfl, -, rfl⟩ := eq_cons_of_refused h
      rw [hasFrame_cons, ← c.hasFrame_resync src, ← ih]
      · simp
      · rw [startsWithFrame_iff, h]
        simp
      · simp [h]

/-! ### What was written is read back -/

theorem new_maxSize_le (mode : Mode) (delimiter : UInt8) (maxSize : Nat) :
    (new mode delimiter maxSize).maxSize ≤ mode.ceiling :=
  Nat.min_le_right _ _

theorem length_frame (c : Codec) {body : Bytes} (hbody : body ≠ []) :
    (c.frame body).length = body.length + c.mode.overhead body.length := by
  have hnum : body.length - 1 + 1 = body.length :=
    Nat.succ_pred_eq_of_pos (List.length_pos_iff.mpr hbody)
  have hfield := length_lengthField c.mode (body.length - 1)
  rw [hnum] at hfield
  simp only [frame_eq_layout, layout, covered, List.length_cons, List.length_append,
    Mode.length_trailer, hfield, Mode.overhead]
  omega

theorem IsFrame.unfinished {c : Codec} {body part ext : Bytes}
    (h : c.IsFrame body (part ++ ext)) (hext : ext ≠ []) : c.Unfinished part := by
  obtain ⟨field, hfield, hwire⟩ := h.parts
  exact ⟨field, body, _, ext, hfield, h.nonempty, h.fits, c.mode.length_trailer _, hext,
    hwire.symm⟩

theorem decode_frame_append {c : Codec} (hceiling : c.maxSize ≤ c.mode.ceiling) {packet : Packet}
    (hsize : packet.body.length ≤ c.maxSize) (rest : Bytes) :
    c.decode (c.frame packet.body ++ rest) = .item (.packet packet) rest :=
  decode_eq_packet_iff.mpr ⟨_, rfl, isFrame_frame hceiling (by simp [Packet.body]) hsize⟩

theorem frame_body_inj {c : Codec} (hceiling : c.maxSize ≤ c.mode.ceiling) {packet packet' : Packet}
    (hsize : packet.body.length ≤ c.maxSize) (hsize' : packet'.body.length ≤ c.maxSize)
    (heq : c.frame packet.body = c.frame packet'.body) : packet = packet' := by
  have hdecode := decode_frame_append hceiling hsize []
  rw [heq, decode_frame_append hceiling hsize' []] at hdecode
  simpa [eq_comm] using hdecode

/-- The buffer after bodies have been written to it one by one. -/
def encodeAll (c : Codec) (bodies : List Bytes) (buffer : Bytes) : Bytes :=
  bodies.foldl (fun buffer body => (c.encode body buffer).2) buffer

theorem encodeAll_eq {c : Codec} {bodies : List Bytes}
    (h : ∀ body ∈ bodies, body ≠ [] ∧ body.length ≤ c.maxSize) (buffer : Bytes) :
    c.encodeAll bodies buffer = buffer ++ bodies.flatMap c.frame := by
  induction bodies generalizing buffer with
  | nil => simp [encodeAll]
  | cons body bodies ih =>
      obtain ⟨hbody, hsize⟩ := h body List.mem_cons_self
      have hrest := ih fun body hmem => h body (List.mem_cons_of_mem _ hmem)
      have hstep : c.encodeAll (body :: bodies) buffer =
          c.encodeAll bodies (c.encode body buffer).2 := rfl
      rw [hstep, encode_of_fits hbody hsize, hrest, List.flatMap_cons, List.append_assoc]

/-- Frames at the front of a buffer are read one by one, whatever follows them. -/
theorem decodeAll_flatMap_frame_append {c : Codec} (hceiling : c.maxSize ≤ c.mode.ceiling)
    {packets : List Packet} (h : ∀ packet ∈ packets, packet.body.length ≤ c.maxSize)
    (rest : Bytes) :
    c.decodeAll ((packets.flatMap fun packet => c.frame packet.body) ++ rest) =
      ((packets.map fun packet => .ok (.packet packet)) ++ (c.decodeAll rest).1,
        (c.decodeAll rest).2) := by
  induction packets with
  | nil => rfl
  | cons packet packets ih =>
      have hrest := ih fun packet hmem => h packet (List.mem_cons_of_mem _ hmem)
      have hfirst := decode_frame_append hceiling (h packet List.mem_cons_self)
        ((packets.flatMap fun packet => c.frame packet.body) ++ rest)
      rw [List.flatMap_cons, List.append_assoc, decodeAll_of_item hfirst, hrest]
      rfl

theorem decodeAll_flatMap_frame {c : Codec} (hceiling : c.maxSize ≤ c.mode.ceiling)
    {packets : List Packet} (h : ∀ packet ∈ packets, packet.body.length ≤ c.maxSize) :
    c.decodeAll (packets.flatMap fun packet => c.frame packet.body) =
      (packets.map fun packet => .ok (.packet packet), []) := by
  simpa [decodeAll, decodeUpTo] using decodeAll_flatMap_frame_append hceiling h []

theorem exists_packets {bodies : List Bytes} (h : ∀ body ∈ bodies, body ≠ []) :
    ∃ packets : List Packet, packets.map Packet.body = bodies := by
  induction bodies with
  | nil => exact ⟨[], rfl⟩
  | cons body bodies ih =>
      obtain ⟨packets, rfl⟩ := ih fun body hmem => h body (List.mem_cons_of_mem _ hmem)
      cases body with
      | nil => exact absurd rfl (h [] List.mem_cons_self)
      | cons tag payload => exact ⟨⟨tag, payload⟩ :: packets, rfl⟩

/-- Writing adds exactly the announced number of bytes and leaves the buffer in
front of them alone. What was written is read back body by body with nothing
else in between; in front of a frame that is cut short the reader waits. A body
that is empty or too long is refused and nothing is written. -/
theorem decodeAll_encoded (c : Codec) (hceiling : c.maxSize ≤ c.mode.ceiling) :
    (∀ body buffer, body ≠ [] → body.length ≤ c.maxSize →
      ∃ frame, c.encode body buffer = (.ok (), buffer ++ frame) ∧
        frame.length = body.length + c.mode.overhead body.length ∧
        ∀ part ext, frame = part ++ ext → ext ≠ [] →
          c.decode part = .needsMore ∧ c.decodeAll part = ([], part)) ∧
    (∀ bodies : List Bytes, (∀ body ∈ bodies, body ≠ [] ∧ body.length ≤ c.maxSize) →
      ∃ packets : List Packet, packets.map Packet.body = bodies ∧
        c.decodeAll (c.encodeAll bodies []) =
          (packets.map fun packet => .ok (.packet packet), [])) ∧
    c.decode [] = .needsMore ∧
    (∀ body buffer, body = [] ∨ c.maxSize < body.length →
      ∃ error, c.encode body buffer = (.error error, buffer)) := by
  refine ⟨?_, ?_, rfl, ?_⟩
  · intro body buffer hbody hsize
    refine ⟨c.frame body, encode_of_fits hbody hsize buffer, c.length_frame hbody, ?_⟩
    intro part ext hwire hext
    have hframe := isFrame_frame hceiling hbody hsize
    rw [hwire] at hframe
    have hwaits := decode_of_unfinished (hframe.unfinished hext)
    exact ⟨hwaits, decodeAll_of_needsMore hwaits⟩
  · intro bodies h
    obtain ⟨packets, rfl⟩ := exists_packets fun body hmem => (h body hmem).1
    refine ⟨packets, rfl, ?_⟩
    have hfits : ∀ packet ∈ packets, packet.body.length ≤ c.maxSize := by
      intro packet hmem
      exact (h packet.body (List.mem_map_of_mem hmem)).2
    rw [encodeAll_eq h, List.nil_append, List.flatMap_map]
    exact decodeAll_flatMap_frame hceiling hfits
  · rintro body buffer (rfl | hsize)
    · exact ⟨.emptyBody, rfl⟩
    · have hbody : body ≠ [] := by
        rintro rfl
        simp at hsize
      exact ⟨.payloadTooLarge body.length c.maxSize, by simp [encode, hbody, hsize]⟩

/-- Two bodies, one of them full of delimiters, and the shortest codec that
takes both. -/
theorem decodeAll_encoded_delimiters :
    (new .compact 0xA5 2).maxSize ≤ Mode.compact.ceiling ∧
    (∀ body ∈ [[0xA5, 0xA5], [0x00]], body ≠ [] ∧ body.length ≤ (new .compact 0xA5 2).maxSize) ∧
    ∃ packets : List Packet, packets.map Packet.body = [[0xA5, 0xA5], [0x00]] ∧
      (new .compact 0xA5 2).decodeAll ((new .compact 0xA5 2).encodeAll [[0xA5, 0xA5], [0x00]] []) =
        (packets.map fun packet => .ok (.packet packet), []) :=
  ⟨by decide, by decide, (decodeAll_encoded (new .compact 0xA5 2) (by decide)).2.1 _ (by decide)⟩

end LinkStack.Frame.Codec
