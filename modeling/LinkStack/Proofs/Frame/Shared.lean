import LinkStack.Proofs.Frame.Chunks

/-!
Two codecs on one stream.

Frames of an outer and of an inner codec follow one another. The outer codec
reads the stream; what it finds outside of its frames is a stream for the inner
one. If no byte of an inner frame is the outer delimiter, nothing is lost: the
outer codec reads its own packets, whatever these contain, and leaves exactly
the inner frames (`decodeAll_shared`). The stream comes in chunks, and so does
what is left for the inner codec, cut in yet another way; neither matters, by
the agreement of `decodeChunks` with `decodeAll` (`decodeChunks_shared`).
-/

namespace LinkStack.Frame

/-- The stretches of noise among units. -/
def strays (units : List (Except Error Item)) : List Bytes :=
  units.filterMap fun
    | .ok (.stray bytes) => some bytes
    | _ => none

/-- Without errors condensing joins noise and loses none of it. -/
theorem flatten_strays_absorb (unit : Except Error Item) (units : List (Except Error Item))
    (h : errors [unit] = []) :
    (strays (absorb unit units)).flatten = (strays (unit :: units)).flatten := by
  rcases unit with _ | _ | _ <;> rcases units with _ | ⟨_ | _ | _, units⟩ <;>
    simp_all [absorb, strays, errors]

theorem flatten_strays_condense {units : List (Except Error Item)} (h : errors units = []) :
    (strays (condense units)).flatten = (strays units).flatten := by
  induction units with
  | nil => rfl
  | cons unit units ih =>
      have hsplit : errors [unit] = [] ∧ errors units = [] := by
        have happend : errors (unit :: units) = errors [unit] ++ errors units :=
          List.filterMap_append (l := [unit])
        rwa [happend, List.append_eq_nil_iff] at h
      have hcons (units : List (Except Error Item)) :
          strays (unit :: units) = strays [unit] ++ strays units :=
        List.filterMap_append (l := [unit])
      calc
        (strays (absorb unit (condense units))).flatten =
            (strays (unit :: condense units)).flatten :=
          flatten_strays_absorb unit _ hsplit.1
        _ = (strays (unit :: units)).flatten := by
          rw [hcons, hcons units, List.flatten_append, List.flatten_append, ih hsplit.2]

/-- Packets are never joined. -/
theorem condense_map_packet (list : List Packet) :
    condense (list.map fun p => .ok (.packet p)) = list.map fun p => .ok (.packet p) := by
  induction list with
  | nil => rfl
  | cons p list ih => exact congrArg (absorb (.ok (.packet p))) ih

theorem absorb_ne_nil (unit : Except Error Item) (units : List (Except Error Item)) :
    absorb unit units ≠ [] := by
  rcases unit with _ | _ | _ <;> rcases units with _ | ⟨_ | _ | _, _⟩ <;> simp [absorb]

theorem eq_packet_of_absorb {unit : Except Error Item} {units rest : List (Except Error Item)}
    {p : Packet} (h : absorb unit units = .ok (.packet p) :: rest) :
    unit = .ok (.packet p) ∧ units = rest := by
  rcases unit with _ | _ | _ <;> rcases units with _ | ⟨_ | _ | _, _⟩ <;>
    simp_all [absorb]

/-- Units that condense to packets are these packets. -/
theorem eq_of_condense {units : List (Except Error Item)} {list : List Packet}
    (h : condense units = list.map fun p => .ok (.packet p)) :
    units = list.map fun p => .ok (.packet p) := by
  induction units generalizing list with
  | nil => exact h
  | cons unit units ih =>
      have habsorb : absorb unit (condense units) = list.map fun p => .ok (.packet p) := h
      cases list with
      | nil => exact (absorb_ne_nil _ _ habsorb).elim
      | cons p list =>
          obtain ⟨rfl, hrest⟩ := eq_packet_of_absorb habsorb
          exact congrArg (_ :: ·) (ih hrest)

namespace Codec

/-- What is left of a stream behind some chunks is read with the next ones. -/
theorem decodeChunks_append (c : Codec) (chunks chunks' : List Bytes) (buffer : Bytes) :
    c.decodeChunks (chunks ++ chunks') buffer =
      ((c.decodeChunks chunks buffer).1 ++
          (c.decodeChunks chunks' (c.decodeChunks chunks buffer).2).1,
        (c.decodeChunks chunks' (c.decodeChunks chunks buffer).2).2) := by
  induction chunks generalizing buffer with
  | nil => rfl
  | cons chunk chunks ih =>
      simp only [List.cons_append, decodeChunks, ih, List.append_assoc]

theorem decodeChunks_singleton (c : Codec) (chunk buffer : Bytes) :
    c.decodeChunks [chunk] buffer = c.decodeAll (buffer ++ chunk) := by
  simp [decodeChunks]

end Codec

/-! ### Frames of two codecs -/

/-- Whose a frame is. -/
inductive Side where
  | outer
  | inner
  deriving DecidableEq, Repr

/-- The packets of one side, in order. -/
def ofSide (side : Side) (frames : List (Side × Packet)) : List Packet :=
  frames.filterMap fun frame => if frame.1 = side then some frame.2 else none

theorem mem_ofSide {side : Side} {frames : List (Side × Packet)} {p : Packet} :
    p ∈ ofSide side frames ↔ (side, p) ∈ frames := by
  simp [ofSide, eq_comm]

/-- The frames of packets, one after another, each by the codec of its side. -/
def sharedStream (codec : Side → Codec) (frames : List (Side × Packet)) : Bytes :=
  frames.flatMap fun frame => (codec frame.1).frame frame.2.body

/-- What can be told apart again: every packet fits its codec, and the outer
delimiter does not occur in inner frames. -/
structure Separable (codec : Side → Codec) (frames : List (Side × Packet)) : Prop where
  fits : ∀ frame ∈ frames, frame.2.body.length ≤ (codec frame.1).maxSize
  apart : ∀ frame ∈ frames, frame.1 = .inner →
    (codec .outer).delimiter ∉ (codec .inner).frame frame.2.body

namespace Separable

variable {codec : Side → Codec} {frames : List (Side × Packet)}

theorem tail {frame : Side × Packet} (h : Separable codec (frame :: frames)) :
    Separable codec frames where
  fits f hf := h.fits f (List.mem_cons_of_mem _ hf)
  apart f hf := h.apart f (List.mem_cons_of_mem _ hf)

end Separable

/-- The packets that each side has read when the outer codec has read some units
and left the noise among them to the inner one. -/
def readBy (inner : Codec) (units : List (Except Error Item)) : Side → List Packet
  | .outer => packets units
  | .inner => packets (inner.decodeChunks (strays units) []).1

theorem strays_append (units units' : List (Except Error Item)) :
    strays (units ++ units') = strays units ++ strays units' :=
  List.filterMap_append

theorem readBy_append_packet (inner : Codec) (units : List (Except Error Item)) (p : Packet)
    (side : Side) : readBy inner (units ++ [.ok (.packet p)]) side =
      readBy inner units side ++ if side = .outer then [p] else [] := by
  cases side with
  | outer => exact List.filterMap_append
  | inner =>
      have hstrays : strays (units ++ [.ok (.packet p)]) = strays units :=
        (strays_append ..).trans (List.append_nil _)
      rw [readBy, hstrays, if_neg nofun, List.append_nil]
      rfl

theorem readBy_append_stray (inner : Codec) (units : List (Except Error Item)) (bytes : Bytes)
    (side : Side) : readBy inner (units ++ [.ok (.stray bytes)]) side =
      readBy inner units side ++ if side = .inner then
        packets (inner.decodeAll ((inner.decodeChunks (strays units) []).2 ++ bytes)).1 else [] := by
  cases side with
  | outer => exact List.filterMap_append
  | inner =>
      have hstrays : strays (units ++ [.ok (.stray bytes)]) = strays units ++ [bytes] :=
        strays_append ..
      rw [readBy, hstrays, Codec.decodeChunks_append, Codec.decodeChunks_singleton, if_pos rfl]
      exact List.filterMap_append

theorem rest_append_stray (inner : Codec) (units : List (Except Error Item)) (bytes : Bytes) :
    (inner.decodeChunks (strays (units ++ [.ok (.stray bytes)])) []).2 =
      (inner.decodeAll ((inner.decodeChunks (strays units) []).2 ++ bytes)).2 := by
  have hstrays : strays (units ++ [.ok (.stray bytes)]) = strays units ++ [bytes] :=
    strays_append ..
  rw [hstrays, Codec.decodeChunks_append, Codec.decodeChunks_singleton]

/-- A stream as the outer codec reads it: the packets of its side, no errors,
and all inner frames as noise. -/
structure Parted (codec : Side → Codec) (frames : List (Side × Packet))
    (reading : List (Except Error Item) × Bytes) : Prop where
  packets : packets reading.1 = ofSide .outer frames
  errors : errors reading.1 = []
  strays : (strays reading.1).flatten =
    (ofSide .inner frames).flatMap fun p => (codec .inner).frame p.body
  rest : reading.2 = []

/-- Noise in front of a stream joins the noise the stream begins with. -/
theorem decodeAll_noise_append {c : Codec} {bytes : Bytes} (hne : bytes ≠ [])
    (h : c.delimiter ∉ bytes) (stream : Bytes) :
    packets (c.decodeAll (bytes ++ stream)).1 = packets (c.decodeAll stream).1 ∧
      errors (c.decodeAll (bytes ++ stream)).1 = errors (c.decodeAll stream).1 ∧
      (strays (c.decodeAll (bytes ++ stream)).1).flatten =
        bytes ++ (strays (c.decodeAll stream).1).flatten ∧
      (c.decodeAll (bytes ++ stream)).2 = (c.decodeAll stream).2 := by
  have hnone : c.resync bytes = [] := Codec.resync_eq_nil h
  obtain ⟨b, src, rfl⟩ := List.exists_cons_of_ne_nil hne
  have hb : b ≠ c.delimiter := fun heq => h (heq ▸ List.mem_cons_self)
  have hwhole := Codec.decodeAll_cons_of_ne hb (src ++ stream)
  rw [← List.cons_append, Codec.noise_append_of_nil hnone, Codec.resync_append_of_nil hnone]
    at hwhole
  rw [hwhole]
  cases stream with
  | nil => simp [Codec.noise, Codec.resync, packets, errors, strays, Codec.decodeAll,
      Codec.decodeUpTo]
  | cons s stream =>
      by_cases hs : s = c.delimiter
      · have hnoise : c.noise (s :: stream) = [] := by simp [Codec.noise, hs]
        have hresync : c.resync (s :: stream) = s :: stream := by simp [Codec.resync, hs]
        rw [hnoise, hresync, List.append_nil]
        exact ⟨rfl, rfl, rfl, rfl⟩
      · rw [Codec.decodeAll_cons_of_ne hs]
        refine ⟨rfl, rfl, ?_, rfl⟩
        simp [strays]

section Codecs

variable {codec : Side → Codec} (hceiling : ∀ side, (codec side).maxSize ≤ (codec side).mode.ceiling)
  {frames : List (Side × Packet)} (h : Separable codec frames)

include hceiling h

/-- The outer codec reads its own packets and leaves the inner frames. -/
theorem decodeAll_shared :
    Parted codec frames ((codec .outer).decodeAll (sharedStream codec frames)) := by
  induction frames with
  | nil => exact ⟨rfl, rfl, rfl, rfl⟩
  | cons frame frames ih =>
      obtain ⟨hpackets, herrors, hstrays, hrest⟩ := ih h.tail
      obtain ⟨side, packet⟩ := frame
      have hfits := h.fits _ List.mem_cons_self
      rw [sharedStream, List.flatMap_cons, ← sharedStream]
      cases side with
      | outer =>
          rw [Codec.decodeAll_of_item (Codec.decode_frame_append (hceiling .outer) hfits _)]
          exact ⟨congrArg (packet :: ·) hpackets, herrors, hstrays, hrest⟩
      | inner =>
          have happart : (codec .outer).delimiter ∉ (codec .inner).frame packet.body :=
            h.apart _ List.mem_cons_self rfl
          have hne : (codec .inner).frame packet.body ≠ [] := List.cons_ne_nil _ _
          obtain ⟨hpackets', herrors', hstrays', hrest'⟩ :=
            decodeAll_noise_append hne happart (sharedStream codec frames)
          refine ⟨hpackets'.trans hpackets, herrors'.trans herrors, ?_, hrest'.trans hrest⟩
          exact hstrays'.trans (congrArg _ hstrays)

/-- In chunks, too. -/
theorem decodeChunks_shared {chunks : List Bytes}
    (hchunks : chunks.flatten = sharedStream codec frames) :
    Parted codec frames ((codec .outer).decodeChunks chunks []) := by
  have hagree : Codec.Agree ((codec .outer).decodeChunks chunks [])
      ((codec .outer).decodeAll chunks.flatten) := Codec.agree_decodeChunks rfl chunks
  rw [hchunks] at hagree
  obtain ⟨hpackets, herrors, hstrays, hrest⟩ := decodeAll_shared hceiling h
  have hnone : errors ((codec .outer).decodeChunks chunks []).1 = [] := by
    rw [← errors_condense, hagree.units, errors_condense, herrors]
  refine ⟨?_, hnone, ?_, hagree.rest.trans hrest⟩
  · rw [← packets_condense, hagree.units, packets_condense, hpackets]
  · rw [← flatten_strays_condense hnone, hagree.units, flatten_strays_condense herrors, hstrays]

/-- What is left for the inner codec are its packets and nothing else, however
it is cut. -/
theorem decodeChunks_inner {pieces : List Bytes}
    (hpieces : pieces.flatten =
      (ofSide .inner frames).flatMap fun p => (codec .inner).frame p.body) :
    (codec .inner).decodeChunks pieces [] =
      ((ofSide .inner frames).map fun p => .ok (.packet p), []) := by
  have hagree : Codec.Agree ((codec .inner).decodeChunks pieces [])
      ((codec .inner).decodeAll pieces.flatten) := Codec.agree_decodeChunks rfl pieces
  rw [hpieces, Codec.decodeAll_flatMap_frame (hceiling .inner)
    fun p hp => h.fits (.inner, p) (mem_ofSide.mp hp)] at hagree
  refine Prod.ext (eq_of_condense ?_) hagree.rest
  rw [hagree.units, condense_map_packet]

/-- Each side reads its packets, and the inner codec reads nothing else. -/
theorem readBy_shared {chunks : List Bytes} (hchunks : chunks.flatten = sharedStream codec frames)
    (side : Side) :
    readBy (codec .inner) ((codec .outer).decodeChunks chunks []).1 side = ofSide side frames := by
  have hparted := decodeChunks_shared hceiling h hchunks
  cases side with
  | outer => exact hparted.packets
  | inner =>
      rw [readBy, decodeChunks_inner hceiling h hparted.strays]
      exact (List.filterMap_map ..).trans (List.filterMap_some ..)

end Codecs

end LinkStack.Frame
