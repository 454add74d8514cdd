import LinkStack.Proofs.Frame.Chunks

/-!
What a damaged frame costs.

The header of a damaged frame may announce any size, so that the reader counts whole
frames behind it as its body, or waits for more. But a frame that is refused is
discarded only up to the next delimiter, and the bytes behind are read anew: however far
the header reached, no sound frame behind the damaged one is lost (`recovers`).
-/

namespace LinkStack.Frame.Codec

variable {c : Codec}

/-- Noise in front of a delimiter is one unit. -/
theorem decode_noise_append {noise : Bytes} (hnoise : c.delimiter ∉ noise) (hne : noise ≠ [])
    (rest : Bytes) :
    c.decode (noise ++ c.delimiter :: rest) = .item (.stray noise) (c.delimiter :: rest) := by
  have hnone := resync_eq_nil hnoise
  obtain ⟨b, src, rfl⟩ := List.exists_cons_of_ne_nil hne
  have hb : b ≠ c.delimiter := fun heq => hnoise (heq ▸ List.mem_cons_self)
  have hdecode := decode_cons_of_ne hb (src ++ c.delimiter :: rest)
  rw [← List.cons_append, noise_append_of_nil hnone, resync_append_of_nil hnone] at hdecode
  simpa [noise, resync] using hdecode

/-- A refused frame without another delimiter in it is all that is discarded, and noise
behind it. -/
theorem eq_resync_of_damaged {damaged rest left : Bytes} {error : Error}
    (hdamaged : c.delimiter ∉ damaged)
    (h : c.decode (c.delimiter :: (damaged ++ rest)) = .refused error left) :
    left = c.resync rest := by
  obtain ⟨src, hsrc, -, rfl⟩ := eq_cons_of_refused h
  obtain rfl := (List.cons.inj hsrc).2
  exact resync_append_of_nil (resync_eq_nil hdamaged) rest

/-- A stream of frames begins with a delimiter. -/
theorem resync_flatMap_frame_append (packets : List Packet) (rest : Bytes) :
    c.resync ((packets.flatMap fun packet => c.frame packet.body) ++ rest) =
      (packets.flatMap fun packet => c.frame packet.body) ++
        if packets = [] then c.resync rest else rest := by
  cases packets with
  | nil => rfl
  | cons packet packets => simp [frame, resync]

/-- Noise, a damaged frame and sound frames. The noise is one unit. If the damaged frame
is refused, exactly the sound frames are read behind it. If the reader waits, it keeps
everything from the damaged frame on; and whenever later bytes let it refuse the frame, it
reads the sound frames first, and then what follows them. -/
theorem recovers (hceiling : c.maxSize ≤ c.mode.ceiling) {noise damaged : Bytes}
    {bodies : List Bytes} (hnoise : c.delimiter ∉ noise) (hdamaged : c.delimiter ∉ damaged)
    (hbodies : ∀ body ∈ bodies, body ≠ [] ∧ body.length ≤ c.maxSize) :
    ∃ packets : List Packet, packets.map Packet.body = bodies ∧
      let rest := c.delimiter :: (damaged ++ c.encodeAll bodies [])
      (noise ≠ [] → c.decode (noise ++ rest) = .item (.stray noise) rest) ∧
      (∀ error left, c.decode rest = .refused error left →
        c.decodeAll left = (packets.map fun packet => .ok (.packet packet), [])) ∧
      (c.decode rest = .needsMore →
        c.decodeAll (noise ++ rest) = (if noise = [] then [] else [.ok (.stray noise)], rest) ∧
        ∀ ext error left, c.decode (rest ++ ext) = .refused error left →
          ∃ later, later <:+ ext ∧ (bodies ≠ [] → later = ext) ∧
            c.decodeAll left = ((packets.map fun packet => .ok (.packet packet)) ++
              (c.decodeAll later).1, (c.decodeAll later).2)) := by
  obtain ⟨packets, rfl⟩ := exists_packets fun body hmem => (hbodies body hmem).1
  have hfits (packet : Packet) (hmem : packet ∈ packets) : packet.body.length ≤ c.maxSize :=
    (hbodies packet.body (List.mem_map_of_mem hmem)).2
  have hstream : c.encodeAll (packets.map Packet.body) [] =
      packets.flatMap fun packet => c.frame packet.body := by
    rw [encodeAll_eq hbodies, List.nil_append, List.flatMap_map]
  have hfront (rest : Bytes) (hne : noise ≠ []) :
      c.decode (noise ++ c.delimiter :: rest) = .item (.stray noise) (c.delimiter :: rest) :=
    decode_noise_append hnoise hne rest
  have hbehind (ext left : Bytes) (error : Error)
      (h : c.decode (c.delimiter :: (damaged ++ ((packets.flatMap fun packet =>
        c.frame packet.body) ++ ext))) = .refused error left) :
      c.decodeAll left = ((packets.map fun packet => .ok (.packet packet)) ++
        (c.decodeAll (if packets = [] then c.resync ext else ext)).1,
        (c.decodeAll (if packets = [] then c.resync ext else ext)).2) := by
    rw [eq_resync_of_damaged hdamaged h, resync_flatMap_frame_append,
      decodeAll_flatMap_frame_append hceiling hfits]
  refine ⟨packets, rfl, ?_⟩
  rw [hstream]
  refine ⟨hfront _, ?_, ?_⟩
  · intro error left h
    have hread := hbehind [] left error (by rwa [List.append_nil])
    simpa [resync, decodeAll, decodeUpTo] using hread
  · intro hwaits
    refine ⟨?_, ?_⟩
    · split
      · rename_i hnil
        rw [hnil, List.nil_append, decodeAll_of_needsMore hwaits]
      · rename_i hne
        rw [decodeAll_of_item (hfront _ hne), decodeAll_of_needsMore hwaits]
    · intro ext error left h
      rw [List.cons_append, List.append_assoc] at h
      refine ⟨_, ?_, ?_, hbehind ext left error h⟩
      · split
        · exact List.dropWhile_suffix _
        · exact List.suffix_refl ext
      · exact fun hne => if_neg fun hnil => hne (by rw [hnil]; rfl)

/-- A header that announces more than there is, and is refused four bytes later. -/
theorem recovers_swallowed :
    (0xA5 : UInt8) ∉ [0x01] ∧ (0xA5 : UInt8) ∉ [0x07, 0xAE] ∧
    (∀ body ∈ ([[0x11]] : List Bytes), body ≠ [] ∧ body.length ≤ (new .short 0xA5 8).maxSize) ∧
    ∃ (packets : List Packet) (error : Error) (left : Bytes), packets.map Packet.body = [[0x11]] ∧
      (new .short 0xA5 8).decode ([0x01] ++ [0xA5, 0x07, 0xAE, 0xA5, 0x00, 0x00, 0x11, 0xE4]) =
        .item (.stray [0x01]) [0xA5, 0x07, 0xAE, 0xA5, 0x00, 0x00, 0x11, 0xE4] ∧
      (new .short 0xA5 8).decode [0xA5, 0x07, 0xAE, 0xA5, 0x00, 0x00, 0x11, 0xE4] = .needsMore ∧
      (new .short 0xA5 8).decode ([0xA5, 0x07, 0xAE, 0xA5, 0x00, 0x00, 0x11, 0xE4] ++
        [0x00, 0x00, 0x00, 0x00]) = .refused error left ∧
      (new .short 0xA5 8).decodeAll left = ((packets.map fun packet => .ok (.packet packet)) ++
        [.ok (.stray [0x00, 0x00, 0x00, 0x00])], []) := by
  have hnoise : (0xA5 : UInt8) ∉ [0x01] := by decide
  have hdamaged : (0xA5 : UInt8) ∉ [0x07, 0xAE] := by decide
  have hbodies : ∀ body ∈ ([[0x11]] : List Bytes),
      body ≠ [] ∧ body.length ≤ (new .short 0xA5 8).maxSize := by
    decide
  have hstream : (new .short 0xA5 8).encodeAll [[0x11]] [] = [0xA5, 0x00, 0x00, 0x11, 0xE4] := by
    decide +kernel
  have hwaiting : (new .short 0xA5 8).decode
      [0xA5, 0x07, 0xAE, 0xA5, 0x00, 0x00, 0x11, 0xE4] = .needsMore := by
    decide +kernel
  have hrefused : (new .short 0xA5 8).decode
      ([0xA5, 0x07, 0xAE, 0xA5, 0x00, 0x00, 0x11, 0xE4] ++ [0x00, 0x00, 0x00, 0x00]) =
        .refused (.checksumMismatch 0xA3 0x00)
          [0xA5, 0x00, 0x00, 0x11, 0xE4, 0x00, 0x00, 0x00, 0x00] := by
    decide +kernel
  obtain ⟨packets, hpackets, hrecovers⟩ :=
    recovers (c := new .short 0xA5 8) (by decide) hnoise hdamaged hbodies
  rw [hstream] at hrecovers
  obtain ⟨hfront, -, hwaits⟩ := hrecovers
  obtain ⟨later, -, hlater, hread⟩ := (hwaits hwaiting).2 _ _ _ hrefused
  obtain rfl := hlater (by decide)
  exact ⟨hnoise, hdamaged, hbodies, packets, _, _, hpackets, hfront (by decide), hwaiting, hrefused,
    hread⟩

end LinkStack.Frame.Codec
