import LinkStack.Proofs.Frame.Stream

/-!
Streams that arrive in chunks.

Bytes are put behind what is left of those before them, and after each chunk
everything is read that can be read (`decodeChunks`). What the reader answers it
answers for good: bytes behind a packet or behind a frame that is refused do not
change what is read there (`decode_append_of_packet`, `decode_append_of_refused`).
Only the end of noise is not known before the next delimiter has come. So noise
may be reported in several parts, and noise behind a refused frame is skipped as
far as it is there and reported from there on.

`condense` leaves out what depends on that, and nothing else. Up to it, reading
the chunks of a stream is reading the stream (`decodeChunks_eq_decodeAll`).
-/

namespace LinkStack.Frame

/-! ### Units up to their cuts -/

/-- Puts a unit in front of others. Noise is joined with noise that follows it,
and an error swallows noise that follows it. -/
def absorb : Except Error Item → List (Except Error Item) → List (Except Error Item)
  | .ok (.stray bytes), .ok (.stray more) :: units => .ok (.stray (bytes ++ more)) :: units
  | .error error, .ok (.stray _) :: units => .error error :: units
  | unit, units => unit :: units

/-- Units without what depends on how their stream was cut: each stretch of noise
is one unit, and there is none behind an error. -/
def condense (units : List (Except Error Item)) : List (Except Error Item) :=
  units.foldr absorb []

/-- The packets among units. -/
def packets (units : List (Except Error Item)) : List Packet :=
  units.filterMap fun
    | .ok (.packet packet) => some packet
    | _ => none

/-- The errors among units. -/
def errors (units : List (Except Error Item)) : List Error :=
  units.filterMap fun
    | .error error => some error
    | _ => none

theorem absorb_stray_stray (bytes more : Bytes) (units : List (Except Error Item)) :
    absorb (.ok (.stray bytes)) (absorb (.ok (.stray more)) units) =
      absorb (.ok (.stray (bytes ++ more))) units := by
  rcases units with _ | ⟨_ | _ | _, units⟩ <;> simp [absorb]

theorem absorb_error_stray (error : Error) (bytes : Bytes) (units : List (Except Error Item)) :
    absorb (.error error) (absorb (.ok (.stray bytes)) units) = absorb (.error error) units := by
  rcases units with _ | ⟨_ | _ | _, units⟩ <;> simp [absorb]

theorem condense_append (units units' : List (Except Error Item)) :
    condense (units ++ units') = units.foldr absorb (condense units') :=
  List.foldr_append

section Chosen

variable {α : Type} {choose : Except Error Item → Option α}
  (h : ∀ bytes, choose (.ok (.stray bytes)) = none)

include h

theorem filterMap_absorb (unit : Except Error Item) (units : List (Except Error Item)) :
    (absorb unit units).filterMap choose = (unit :: units).filterMap choose := by
  rcases unit with _ | _ | _ <;> rcases units with _ | ⟨_ | _ | _, units⟩ <;>
    simp [absorb, List.filterMap_cons, h]

/-- Condensing keeps what is chosen from units and its order, if noise is not
chosen. -/
theorem filterMap_condense (units : List (Except Error Item)) :
    (condense units).filterMap choose = units.filterMap choose := by
  induction units with
  | nil => rfl
  | cons unit units ih =>
      calc
        (absorb unit (condense units)).filterMap choose =
            (unit :: condense units).filterMap choose := filterMap_absorb h unit _
        _ = [unit].filterMap choose ++ (condense units).filterMap choose :=
          List.filterMap_append (l := [unit])
        _ = (unit :: units).filterMap choose := by
          rw [ih]
          exact (List.filterMap_append (l := [unit])).symm

end Chosen

theorem packets_condense (units : List (Except Error Item)) :
    packets (condense units) = packets units :=
  filterMap_condense (fun _ => rfl) units

theorem errors_condense (units : List (Except Error Item)) :
    errors (condense units) = errors units :=
  filterMap_condense (fun _ => rfl) units

/-! ### Answers are final -/

theorem readGroups_append_of_error {more : Nat} {previous byte : UInt8} {src : Bytes}
    (h : readGroups more previous src = .error byte) (ext : Bytes) :
    readGroups more previous (src ++ ext) = .error byte := by
  induction more generalizing previous src with
  | zero => exact h
  | succ more ih =>
      cases src with
      | nil => simp [readGroups] at h
      | cons b src =>
          rw [readGroups] at h
          rw [List.cons_append, readGroups]
          split at h
          · simp at h
          · rename_i hb
            rw [if_neg hb]
            cases hread : readGroups more b src with
            | error byte' =>
                rw [hread] at h
                cases h
                rw [ih hread]
                rfl
            | ok found =>
                rw [hread] at h
                cases h

theorem readLength_append_of_error {mode : Mode} {src : Bytes} {byte : UInt8}
    (h : mode.readLength src = .error byte) (ext : Bytes) :
    mode.readLength (src ++ ext) = .error byte := by
  cases src with
  | nil => cases mode <;> simp [Mode.readLength] at h
  | cons b src =>
      cases mode with
      | short => exact h
      | compact =>
          rw [Mode.readLength] at h
          rw [List.cons_append, Mode.readLength]
          split at h
          · rename_i hb
            rwa [if_pos hb]
          · rename_i hb
            rw [if_neg hb]
            split at h
            · simp at h
            · rename_i hmore
              rw [if_neg hmore]
              cases hread : readGroups maxGroups b src with
              | error byte' =>
                  rw [hread] at h
                  cases h
                  rw [readGroups_append_of_error hread]
                  rfl
              | ok found =>
                  rw [hread] at h
                  cases h

namespace Codec

variable {c : Codec}

/-- A frame that is refused is refused for what has been read of it. -/
theorem readFrame_append_of_error {src : Bytes} {error : Error}
    (h : c.readFrame src = .error error) (ext : Bytes) :
    c.readFrame (src ++ ext) = .error error := by
  have hreading := c.reading src
  rw [h] at hreading
  cases hreading with
  | malformed hlength =>
      exact (Reading.malformed (readLength_append_of_error hlength ext)).readFrame_eq
  | tooLarge hfield hsize =>
      rw [List.append_assoc]
      exact (Reading.tooLarge hfield hsize).readFrame_eq
  | wrongCheck hfield hsize hcheck =>
      rw [List.append_assoc]
      exact (Reading.wrongCheck hfield hsize hcheck).readFrame_eq
  | mismatch hfield hbody hsize hlength htrailer =>
      rw [List.append_assoc]
      exact (Reading.mismatch hfield hbody hsize hlength htrailer).readFrame_eq

theorem decode_append_of_packet {buffer rest : Bytes} {packet : Packet}
    (h : c.decode buffer = .item (.packet packet) rest) (ext : Bytes) :
    c.decode (buffer ++ ext) = .item (.packet packet) (rest ++ ext) := by
  obtain ⟨wire, rfl, hframe⟩ := decode_eq_packet_iff.mp h
  exact decode_eq_packet_iff.mpr ⟨wire, List.append_assoc .., hframe⟩

theorem decode_append_of_refused {src rest : Bytes} {error : Error}
    (h : c.decode (c.delimiter :: src) = .refused error rest) (ext : Bytes) :
    c.decode (c.delimiter :: (src ++ ext)) = .refused error (c.resync (src ++ ext)) := by
  obtain ⟨src', hsrc, hread, -⟩ := eq_cons_of_refused h
  obtain rfl : src = src' := (List.cons.inj hsrc).2
  rw [decode_cons_delimiter, readFrame_append_of_error hread]

/-! ### Noise -/

theorem noise_append_resync (c : Codec) (bytes : Bytes) :
    c.noise bytes ++ c.resync bytes = bytes :=
  List.takeWhile_append_dropWhile

theorem resync_append_of_nil {bytes : Bytes} (h : c.resync bytes = []) (ext : Bytes) :
    c.resync (bytes ++ ext) = c.resync ext := by
  rw [resync, List.dropWhile_append, ← resync, h]
  rfl

theorem resync_append_of_ne {bytes : Bytes} (h : c.resync bytes ≠ []) (ext : Bytes) :
    c.resync (bytes ++ ext) = c.resync bytes ++ ext := by
  rw [resync, List.dropWhile_append, ← resync, if_neg]
  rwa [List.isEmpty_iff]

/-- Where there is no delimiter all bytes are noise. -/
theorem resync_eq_nil {bytes : Bytes} (h : c.delimiter ∉ bytes) : c.resync bytes = [] := by
  induction bytes with
  | nil => rfl
  | cons b bytes ih =>
      rw [List.mem_cons, not_or] at h
      rw [resync_cons_of_ne (Ne.symm h.1), ih h.2]

theorem noise_append_of_nil {bytes : Bytes} (h : c.resync bytes = []) (ext : Bytes) :
    c.noise (bytes ++ ext) = bytes ++ c.noise ext := by
  have hsplit := c.noise_append_resync (bytes ++ ext)
  rw [resync_append_of_nil h] at hsplit
  apply (List.append_left_inj (c.resync ext)).mp
  rw [hsplit, List.append_assoc, noise_append_resync]

theorem noise_append_of_ne {bytes : Bytes} (h : c.resync bytes ≠ []) (ext : Bytes) :
    c.noise (bytes ++ ext) = c.noise bytes := by
  have hsplit := c.noise_append_resync (bytes ++ ext)
  rw [resync_append_of_ne h] at hsplit
  apply (List.append_left_inj (c.resync bytes ++ ext)).mp
  rw [hsplit, ← List.append_assoc, noise_append_resync]

theorem exists_cons_of_stray {buffer rest bytes : Bytes}
    (h : c.decode buffer = .item (.stray bytes) rest) :
    ∃ b src, buffer = b :: src ∧ b ≠ c.delimiter ∧ bytes = c.noise (b :: src) ∧
      rest = c.resync (b :: src) := by
  cases buffer with
  | nil => simp [decode] at h
  | cons b src =>
      by_cases hb : b = c.delimiter
      · subst hb
        rw [decode_cons_delimiter] at h
        split at h <;> simp at h
      · rw [decode_cons_of_ne hb] at h
        simp only [Decoded.item.injEq, Item.stray.injEq] at h
        exact ⟨b, src, rfl, hb, h.1.symm, h.2.symm⟩

theorem decodeAll_cons_of_ne {b : UInt8} (h : b ≠ c.delimiter) (src : Bytes) :
    c.decodeAll (b :: src) = (.ok (.stray (c.noise (b :: src))) ::
      (c.decodeAll (c.resync (b :: src))).1, (c.decodeAll (c.resync (b :: src))).2) :=
  decodeAll_of_item (decode_cons_of_ne h src)

/-- Behind noise it does not matter whether more noise is told apart from it. -/
theorem absorb_stray_decodeAll (c : Codec) (bytes buffer : Bytes) :
    absorb (.ok (.stray bytes)) (condense (c.decodeAll buffer).1) =
      absorb (.ok (.stray (bytes ++ c.noise buffer)))
        (condense (c.decodeAll (c.resync buffer)).1) := by
  cases buffer with
  | nil => simp [noise, resync]
  | cons b src =>
      by_cases hb : b = c.delimiter
      · simp [noise, resync, hb]
      · rw [decodeAll_cons_of_ne hb]
        exact absorb_stray_stray ..

/-- Behind an error it does not matter whether noise is reported. -/
theorem absorb_error_decodeAll (c : Codec) (error : Error) (buffer : Bytes) :
    absorb (.error error) (condense (c.decodeAll buffer).1) =
      absorb (.error error) (condense (c.decodeAll (c.resync buffer)).1) := by
  cases buffer with
  | nil => rfl
  | cons b src =>
      by_cases hb : b = c.delimiter
      · simp [resync, hb]
      · rw [decodeAll_cons_of_ne hb]
        exact absorb_error_stray ..

theorem decodeAll_resync_snd (c : Codec) (buffer : Bytes) :
    (c.decodeAll (c.resync buffer)).2 = (c.decodeAll buffer).2 := by
  cases buffer with
  | nil => rfl
  | cons b src =>
      by_cases hb : b = c.delimiter
      · simp [resync, hb]
      · rw [decodeAll_cons_of_ne hb]

/-! ### Chunks -/

/-- Two readings of one stream, up to their cuts: the condensed units are the
same, and so is what is left in the buffer. -/
structure Agree (reading reading' : List (Except Error Item) × Bytes) : Prop where
  units : condense reading.1 = condense reading'.1
  rest : reading.2 = reading'.2

/-- Reading what is there before more bytes come changes nothing but cuts. -/
theorem decodeAll_append (c : Codec) (buffer ext : Bytes) :
    Agree (c.decodeAll (buffer ++ ext))
      ((c.decodeAll buffer).1 ++ (c.decodeAll ((c.decodeAll buffer).2 ++ ext)).1,
        (c.decodeAll ((c.decodeAll buffer).2 ++ ext)).2) := by
  induction buffer using c.decode_induction with
  | needsMore buffer h =>
      rw [decodeAll_of_needsMore h]
      exact ⟨rfl, rfl⟩
  | item buffer item rest h ih =>
      rw [decodeAll_of_item h]
      cases item with
      | packet packet =>
          rw [decodeAll_of_item (decode_append_of_packet h ext)]
          exact ⟨congrArg (absorb (.ok (.packet packet))) ih.units, ih.rest⟩
      | stray bytes =>
          obtain ⟨b, src, rfl, hb, rfl, rfl⟩ := exists_cons_of_stray h
          rw [List.cons_append, decodeAll_cons_of_ne hb, ← List.cons_append]
          by_cases hnone : c.resync (b :: src) = []
          · -- the noise may go on in what is still to come
            have hnoise : c.noise (b :: src) = b :: src := by
              simpa [hnone] using c.noise_append_resync (b :: src)
            rw [noise_append_of_nil hnone, resync_append_of_nil hnone, hnone, hnoise]
            exact ⟨(absorb_stray_decodeAll c _ ext).symm, decodeAll_resync_snd c ext⟩
          · rw [noise_append_of_ne hnone, resync_append_of_ne hnone]
            exact ⟨congrArg (absorb (.ok (.stray _))) ih.units, ih.rest⟩
  | refused buffer error rest h ih =>
      obtain ⟨src, rfl, -, rfl⟩ := eq_cons_of_refused h
      have hagain := decode_append_of_refused h ext
      rw [decodeAll_of_refused h, List.cons_append, decodeAll_of_refused hagain]
      by_cases hnone : c.resync src = []
      · -- noise behind the refused frame may still be to come
        rw [resync_append_of_nil hnone, hnone]
        exact ⟨(absorb_error_decodeAll c error ext).symm, decodeAll_resync_snd c ext⟩
      · rw [resync_append_of_ne hnone]
        exact ⟨congrArg (absorb (.error error)) ih.units, ih.rest⟩

/-- Reading stops where nothing more can be read. -/
theorem decode_decodeAll_snd (c : Codec) (buffer : Bytes) :
    c.decode (c.decodeAll buffer).2 = .needsMore := by
  induction buffer using c.decode_induction with
  | needsMore buffer h => rwa [decodeAll_of_needsMore h]
  | item buffer item rest h ih => rwa [decodeAll_of_item h]
  | refused buffer error rest h ih => rwa [decodeAll_of_refused h]

/-- Chunks arrive one after another, and after each of them everything is read
that can be read. Answers the units and what is left of the buffer. -/
def decodeChunks (c : Codec) : List Bytes → Bytes → List (Except Error Item) × Bytes
  | [], buffer => ([], buffer)
  | chunk :: chunks, buffer =>
    let (units, rest) := c.decodeAll (buffer ++ chunk)
    let (more, rest) := c.decodeChunks chunks rest
    (units ++ more, rest)

theorem agree_decodeChunks {buffer : Bytes} (h : c.decode buffer = .needsMore)
    (chunks : List Bytes) :
    Agree (c.decodeChunks chunks buffer) (c.decodeAll (buffer ++ chunks.flatten)) := by
  induction chunks generalizing buffer with
  | nil =>
      rw [List.flatten_nil, List.append_nil, decodeAll_of_needsMore h]
      exact ⟨rfl, rfl⟩
  | cons chunk chunks ih =>
      have hrest := ih (c.decode_decodeAll_snd (buffer ++ chunk))
      have hcut := c.decodeAll_append (buffer ++ chunk) chunks.flatten
      rw [List.append_assoc] at hcut
      constructor
      · calc
          condense (c.decodeChunks (chunk :: chunks) buffer).1 =
              (c.decodeAll (buffer ++ chunk)).1.foldr absorb
                (condense (c.decodeChunks chunks (c.decodeAll (buffer ++ chunk)).2).1) :=
            condense_append ..
          _ = condense ((c.decodeAll (buffer ++ chunk)).1 ++
                (c.decodeAll ((c.decodeAll (buffer ++ chunk)).2 ++ chunks.flatten)).1) := by
            rw [hrest.units, condense_append]
          _ = condense (c.decodeAll (buffer ++ (chunk :: chunks).flatten)).1 := hcut.units.symm
      · exact hrest.rest.trans hcut.rest.symm

/-- However a stream is cut into chunks, reading them one after another gives
the packets and the errors of the stream, each in their order, and leaves the
same buffer, in front of which the reader waits. The readings differ at most in
how noise is grouped and in whether noise behind an error is reported. -/
theorem decodeChunks_eq_decodeAll (c : Codec) (chunks : List Bytes) :
    packets (c.decodeChunks chunks []).1 = packets (c.decodeAll chunks.flatten).1 ∧
    errors (c.decodeChunks chunks []).1 = errors (c.decodeAll chunks.flatten).1 ∧
    condense (c.decodeChunks chunks []).1 = condense (c.decodeAll chunks.flatten).1 ∧
    (c.decodeChunks chunks []).2 = (c.decodeAll chunks.flatten).2 ∧
    c.decode (c.decodeAll chunks.flatten).2 = .needsMore := by
  have hagree : Agree (c.decodeChunks chunks []) (c.decodeAll chunks.flatten) :=
    agree_decodeChunks rfl chunks
  refine ⟨?_, ?_, hagree.units, hagree.rest, c.decode_decodeAll_snd _⟩
  · rw [← packets_condense, hagree.units, packets_condense]
  · rw [← errors_condense, hagree.units, errors_condense]

example :
    (new .short 0xA5 64).decodeChunks [[0xA5, 0xFF, 0x01], [0x02, 0xA5]] [] =
      ([.error (.malformedLength 0xFF), .ok (.stray [0x02])], [0xA5]) ∧
    (new .short 0xA5 64).decodeAll [0xA5, 0xFF, 0x01, 0x02, 0xA5] =
      ([.error (.malformedLength 0xFF)], [0xA5]) :=
  ⟨rfl, rfl⟩

end Codec

end LinkStack.Frame
