import LinkStack.Proofs.Frame.Shared
import LinkStack.Proofs.Network.Framing

/-!
Two framing layers on one channel.

The outer layer reads the channel and gives what it finds outside of its frames
to the inner one. What either has read is then a function of the units that the
outer layer has taken so far (`readBy`), and this is the invariant of its loop:
the listeners have heard what was read, and the inner layer keeps the frame that
it has begun (`Reading`). Nothing is refused, since nothing is refused in the
whole of the stream.
-/

namespace LinkStack.Sharing

open LinkStack.Frame (Side Framer Packet Codec Item readBy ofSide strays packets)
open Network (Detail Leads AtRest)

variable {plan : Ref → Option Object} {answer : Log → Except LayerError Nat} {levels : Nat}
  {d : Detail Log} {ref : Ref} {now : Tick} {f f' : Framer Ref}

/-! ### Framing layers below listeners -/

/-- A framing layer with the given settings, below a listener with the given key. -/
structure Seated (objects : Ref → Option Object) (ref : Ref) (config : Frame.Config) (key : Key)
    (f : Framer Ref) : Prop where
  object : objects ref = some (.framer f)
  config : f.config = config
  parent : ∃ links parent, f.node.links = some links ∧ links.parent = some parent ∧
    (objects parent).bind Object.listener? = some key

theorem Seated.bare {n : Network Log} {config : Frame.Config} {key : Key}
    (h : Seated n.object? ref config key f) :
    Seated n.bare ref config key (View.Bared.bare .framer f) where
  object := Network.bare_eq h.object
  config := h.config
  parent := by
    obtain ⟨links, parent, hlinks, hparent, hkey⟩ := h.parent
    exact ⟨links, parent, hlinks, hparent, (Network.bind_listener?_bare n parent).trans hkey⟩

/-- The errors and the drops that a framing layer has counted on the way up. -/
def faults (f : Framer Ref) : UInt32 × UInt32 := (f.stats.rxErrors, f.stats.rxDropped)

/-- What changes in a framing layer that reads plain packets while the clock
stands still: what it has of a frame has just come, and it has counted no fault. -/
structure Calm (now : Tick) (f f' : Framer Ref) : Prop where
  recent : f'.buffer = [] ∨ f'.lastRx = now
  outstanding : f'.outstanding = f.outstanding
  config : f'.config = f.config
  faults : faults f' = faults f

namespace Calm

theorem of_atRest (h : AtRest now f) : Calm now f f := ⟨.inl h.buffer, rfl, rfl, rfl⟩

theorem expirePartial (h : Calm now f f') : f'.expirePartial now = f' := by
  refine if_neg ?_
  rintro ⟨hbuffer, hlate⟩
  have hnow : f'.lastRx = now := h.recent.resolve_left hbuffer
  simp [hnow, Tick.since] at hlate

theorem expireOutstanding (h : Calm now f f') (hrest : AtRest now f) :
    f'.expireOutstanding now = (.nothing, f') :=
  Network.expireOutstanding_early (h.outstanding ▸ h.config ▸ hrest.outstanding)

theorem receive (h : Calm now f f') (bytes : Bytes) : Calm now f (f'.receive now bytes) :=
  ⟨.inr rfl, h.outstanding, h.config, h.faults⟩

/-- A unit is taken from the buffer. -/
theorem rest (h : Calm now f f') (hbuffer : f'.buffer ≠ []) (rest : Bytes) :
    Calm now f { f' with buffer := rest } :=
  ⟨.inr (h.recent.resolve_left hbuffer), h.outstanding, h.config, h.faults⟩

theorem count (h : Calm now f f') (size : Nat) : Calm now f (f'.count (.rxPacket size)) :=
  ⟨h.recent, h.outstanding, h.config, h.faults⟩

end Calm

theorem buffer_ne_nil {c : Codec} {buffer rest : Bytes} {item : Item}
    (h : c.decode buffer = .item item rest) : buffer ≠ [] := by
  rintro rfl
  cases h

theorem mem_of_front {unit : Except Frame.Error Item} {units all : List (Except Frame.Error Item)}
    (h : units ++ [unit] <+: all) : unit ∈ all :=
  h.subset (List.mem_append_right _ (List.mem_singleton_self _))

/-- A packet outside of the framing layer's own protocol. -/
def IsPlain (unit : Except Frame.Error Item) : Prop :=
  ∃ p : Packet, unit = .ok (.packet p) ∧ p.tag < Tag.frame

section Seated

variable {config : Frame.Config} {key : Key} {f₀ start : Framer Ref}
  (hseat : Seated plan ref config key f₀)

include hseat

theorem Seated.codec_eq : f₀.codec = Codec.ofConfig config :=
  congrArg Codec.ofConfig hseat.config

/-- What becomes of bytes in which there are only plain packets: the listener
hears these, and the rest is kept. -/
theorem leads_plain (hf : d.read? .framer ref = some f) (hrest : AtRest d.clock.now start)
    (hcalm : Calm d.clock.now start f) {bytes : Bytes}
    (hplain : ∀ unit ∈ ((Codec.ofConfig config).decodeAll (f.buffer ++ bytes)).1, IsPlain unit)
    {Q : Except LayerError Nat → Detail Log → Prop}
    (hQ : ∀ f', Calm d.clock.now start f' →
      f'.buffer = ((Codec.ofConfig config).decodeAll (f.buffer ++ bytes)).2 →
      Q (.ok bytes.length) ((d.put .framer ref f').withApp
        (d.app ++ (packets ((Codec.ofConfig config).decodeAll (f.buffer ++ bytes)).1).map
          fun p => (key, p.body)))) :
    Leads plan (((Network.calls (listening answer) (levels + 2)).layer ref).recv bytes).run d Q := by
  obtain ⟨links, parent, hlinks, hparent, hkey⟩ := hseat.parent
  have hcodec := hseat.codec_eq
  have hsame : f.expirePartial d.clock.now = f := hcalm.expirePartial
  let heard (units : List (Except Frame.Error Item)) : Log :=
    (packets units).map fun p => (key, p.body)
  let I (units : List (Except Frame.Error Item)) (d' : Detail Log) : Prop :=
    ∃ f', Calm d.clock.now start f' ∧ d' = (d.put .framer ref f').withApp (d.app ++ heard units)
  refine Leads.recv hseat.object rfl ?_
  refine Network.leads_recv (I := I) hseat.object ?_ ?_ hlinks hf
    ⟨_, hcalm.expirePartial.symm ▸ hcalm.receive bytes, ?_⟩ (by rw [hsame, hcodec]) ?_
  · rintro units item rest _ g hfront ⟨f', hcalm', rfl⟩ hg - hdecode
    obtain rfl : f' = g := Option.some.inj ((Detail.read?_put_self ..).symm.trans hg)
    obtain ⟨p, hp, htag⟩ := hplain _ (mem_of_front hfront)
    cases hp
    refine Network.leads_take_packet hseat.object hlinks hparent (Network.alive_of_listener hkey)
      (Network.fold_ne_of_lt htag) (Detail.read?_put_self ..) (Network.leads_listener hkey _ fun _ => ?_)
    have hcalm'' := (hcalm'.rest (buffer_ne_nil hdecode) rest).count p.body.length
    refine ⟨⟨_, hcalm'', ?_⟩, _, Detail.read?_put_self .., rfl⟩
    simp [heard, packets]
  · rintro units error rest _ g hfront - - - -
    obtain ⟨p, hp, -⟩ := hplain _ (mem_of_front hfront)
    cases hp
  · simp only [hsame, heard, packets, List.filterMap_nil, List.map_nil, List.append_nil]
    rfl
  · rintro d' g ⟨f', hcalm', rfl⟩ hg - hbuffer
    obtain rfl : f' = g := Option.some.inj ((Detail.read?_put_self ..).symm.trans hg)
    refine Network.leads_retry_idle hg (hcalm'.expireOutstanding hrest) (hQ f' hcalm' ?_)
    rw [hbuffer, hsame, hcodec]

end Seated

/-! ### Two layers on one channel -/

section Shared

variable {layer : Side → Ref} {config : Side → Frame.Config} {key : Side → Key}
  {shown start : Side → Framer Ref} {log : Log} {units whole : List (Except Frame.Error Item)}

/-- The codecs of the two layers. -/
def codec (config : Side → Frame.Config) (side : Side) : Codec := Codec.ofConfig (config side)

/-- Two framing layers of which the outer one leaves to the inner one what is
outside of its frames. -/
structure Nested (objects : Ref → Option Object) (layer : Side → Ref)
    (config : Side → Frame.Config) (key : Side → Key) (framer : Side → Framer Ref) : Prop where
  seated : ∀ side, Seated objects (layer side) (config side) (key side) (framer side)
  other : (framer .outer).other = some (layer .inner)
  keys : key .outer ≠ key .inner
  delimiters : (config .outer).delimiter ≠ (config .inner).delimiter

theorem Nested.layer_ne (h : Nested plan layer config key shown) :
    layer .outer ≠ layer .inner := by
  intro heq
  have hsame : shown .outer = shown .inner := by
    simpa [(h.seated .outer).object, (h.seated .inner).object] using congrArg plan heq
  apply h.delimiters
  rw [← (h.seated .outer).config, ← (h.seated .inner).config, hsame]

/-- What both layers have read of a channel when the outer one has taken some
units, and what was heard of it since `log`. -/
structure Reading (layer : Side → Ref) (config : Side → Frame.Config) (key : Side → Key)
    (start : Side → Framer Ref) (now : Tick) (log : Log) (units : List (Except Frame.Error Item))
    (d : Detail Log) : Prop where
  clock : d.clock.now = now
  framer : ∀ side, ∃ f, d.read? .framer (layer side) = some f ∧ Calm now (start side) f ∧
    (side = .inner → f.buffer = ((codec config .inner).decodeChunks (strays units) []).2)
  heard : ∀ side, d.app.heardBy (key side) =
    log.heardBy (key side) ++ (readBy (codec config .inner) units side).map Packet.body

/-- Units without errors, and all packets are plain, those read from the noise too. -/
structure Clean (inner : Codec) (whole : List (Except Frame.Error Item)) : Prop where
  outer : ∀ unit ∈ whole, IsPlain unit ∨ ∃ bytes, unit = .ok (.stray bytes)
  inner : ∀ unit ∈ (inner.decodeChunks (strays whole) []).1, IsPlain unit

theorem Clean.of_front {inner : Codec} (h : Clean inner whole) {bytes : Bytes}
    (hfront : units ++ [.ok (.stray bytes)] <+: whole) :
    ∀ unit ∈ (inner.decodeAll ((inner.decodeChunks (strays units) []).2 ++ bytes)).1,
      IsPlain unit := by
  obtain ⟨rest, rfl⟩ := hfront
  intro unit hunit
  refine h.inner unit ?_
  have hstrays : strays (units ++ [.ok (.stray bytes)] ++ rest) =
      strays units ++ [bytes] ++ strays rest := by
    rw [Frame.strays_append, Frame.strays_append]
    rfl
  rw [hstrays, Codec.decodeChunks_append, Codec.decodeChunks_append, Codec.decodeChunks_singleton]
  exact List.mem_append_left _ (List.mem_append_right _ hunit)

namespace Reading

variable (h : Nested plan layer config key shown)
  (hread : Reading layer config key start now log units d)

include hread

theorem of_read {side : Side} (hf : d.read? .framer (layer side) = some f) :
    Calm now (start side) f ∧
      (side = .inner → f.buffer = ((codec config .inner).decodeChunks (strays units) []).2) := by
  obtain ⟨g, hg, hcalm, hbuffer⟩ := hread.framer side
  obtain rfl := Option.some.inj (hg.symm.trans hf)
  exact ⟨hcalm, hbuffer⟩

/-- The outer layer changes and keeps calm. -/
theorem put_outer (hne : layer .outer ≠ layer .inner) (hcalm : Calm now (start .outer) f) :
    Reading layer config key start now log units (d.put .framer (layer .outer) f) where
  clock := hread.clock
  framer side := by
    cases side with
    | outer => exact ⟨f, Detail.read?_put_self .., hcalm, nofun⟩
    | inner =>
        rw [Detail.read?_put_of_ne hne.symm]
        exact hread.framer .inner
  heard := hread.heard

include h

theorem packet (hcalm : Calm now (start .outer) f) (p : Packet) :
    Reading layer config key start now log (units ++ [.ok (.packet p)])
      ((d.put .framer (layer .outer) f).withApp (d.app ++ [(key .outer, p.body)])) where
  clock := hread.clock
  framer side := by
    have hstrays : strays (units ++ [.ok (.packet p)]) = strays units :=
      (Frame.strays_append ..).trans (List.append_nil _)
    rw [hstrays]
    exact (hread.put_outer h.layer_ne hcalm).framer side
  heard side := by
    have hnew : Log.heardBy [(key .outer, p.body)] (key side) =
        (if side = .outer then [p] else []).map Packet.body := by
      cases side with
      | outer => exact (Network.heardBy_map _ _ [p]).trans (if_pos rfl)
      | inner => exact (Network.heardBy_map _ _ [p]).trans (if_neg h.keys)
    rw [Detail.app_withApp, Log.heardBy_append, hread.heard, Frame.readBy_append_packet, hnew,
      List.map_append, List.append_assoc]

theorem stray (hcalm : Calm now (start .inner) f) {bytes rest : Bytes}
    (hrest : rest = ((codec config .inner).decodeChunks (strays units) []).2)
    (hbuffer : f.buffer = ((codec config .inner).decodeAll (rest ++ bytes)).2) :
    Reading layer config key start now log (units ++ [.ok (.stray bytes)])
      ((d.put .framer (layer .inner) f).withApp
        (d.app ++ (packets ((codec config .inner).decodeAll (rest ++ bytes)).1).map
          fun p => (key .inner, p.body))) where
  clock := hread.clock
  framer side := by
    cases side with
    | outer =>
        rw [Detail.read?_withApp, Detail.read?_put_of_ne h.layer_ne]
        obtain ⟨f', hf', hcalm', -⟩ := hread.framer .outer
        exact ⟨f', hf', hcalm', nofun⟩
    | inner =>
        refine ⟨f, Detail.read?_put_self .., hcalm, fun _ => ?_⟩
        rw [hbuffer, hrest, Frame.rest_append_stray]
  heard side := by
    subst hrest
    rw [Detail.app_withApp, Log.heardBy_append, hread.heard, Frame.readBy_append_stray,
      List.map_append, List.append_assoc, Network.heardBy_map]
    cases side with
    | outer => rw [if_neg h.keys.symm, if_neg nofun]; rfl
    | inner => rw [if_pos rfl, if_pos rfl]

end Reading

section Runs

variable (h : Nested plan layer config key shown) (hrest : ∀ side, AtRest now (start side))
  (hclean : Clean (codec config .inner) whole)

include h hrest hclean

/-- The outer layer takes one unit. -/
theorem leads_take (hread : Reading layer config key start now log units d) {item : Item}
    (hfront : units ++ [.ok item] <+: whole)
    (hf : d.read? .framer (layer .outer) = some f) (hcalm : Calm now (start .outer) f) :
    Leads plan (Framer.take (Network.site (Network.calls (listening answer) (levels + 2)) .framer
        (layer .outer)) item) d fun _ d' =>
      Reading layer config key start now log (units ++ [.ok item]) d' ∧
        ∃ f', d'.read? .framer (layer .outer) = some f' ∧ f'.buffer = f.buffer := by
  have houter := h.seated .outer
  obtain ⟨links, parent, hlinks, hparent, hkey⟩ := houter.parent
  rcases hclean.outer _ (mem_of_front hfront) with ⟨p, hp, htag⟩ | ⟨bytes, hbytes⟩
  · -- a packet of the outer layer's own, which may hold a frame of the inner one
    cases hp
    refine Network.leads_take_packet houter.object hlinks hparent (Network.alive_of_listener hkey)
      (Network.fold_ne_of_lt htag) hf (Network.leads_listener hkey _ fun _ => ⟨?_, ?_⟩)
    · exact hread.packet h (hcalm.count p.body.length) p
    · exact ⟨_, Detail.read?_put_self .., rfl⟩
  · -- noise, and the inner layer has taken all of it when the call returns
    cases hbytes
    obtain ⟨g, hg, hcalm', hbuffer⟩ := hread.framer .inner
    have hplain := hclean.of_front hfront
    rw [← hbuffer rfl] at hplain
    have hclock := hread.clock
    subst hclock
    refine Network.leads_take_stray houter.object h.other
      (leads_plain (h.seated .inner) hg (hrest .inner) hcalm' hplain fun g' hcalm'' hg' => ⟨?_, ?_⟩)
    · exact hread.stray h hcalm'' (hbuffer rfl) hg'
    · rw [Detail.read?_withApp, Detail.read?_put_of_ne h.layer_ne]
      exact ⟨f, hf, rfl⟩

/-- The outer layer takes in a chunk. -/
theorem leads_chunk (hread : Reading layer config key start now log units d)
    (hf : d.read? .framer (layer .outer) = some f) {chunk : Bytes}
    (hfront : units ++ ((codec config .outer).decodeAll (f.buffer ++ chunk)).1 <+: whole) :
    Leads plan (((Network.calls (listening answer) (levels + 3)).layer (layer .outer)).recv
        chunk).run d fun reply d' => reply = .ok chunk.length ∧
      Reading layer config key start now log
        (units ++ ((codec config .outer).decodeAll (f.buffer ++ chunk)).1) d' ∧
      ∃ f', d'.read? .framer (layer .outer) = some f' ∧
        f'.buffer = ((codec config .outer).decodeAll (f.buffer ++ chunk)).2 := by
  have houter := h.seated .outer
  obtain ⟨links, parent, hlinks, -, -⟩ := houter.parent
  obtain ⟨hcalm, -⟩ := hread.of_read hf
  have hclock := hread.clock
  subst hclock
  have hcodec : (shown .outer).codec = codec config .outer := houter.codec_eq
  have hsame : f.expirePartial d.clock.now = f := hcalm.expirePartial
  refine Leads.recv houter.object rfl (Network.leads_recv
    (I := fun more d' => Reading layer config key start d.clock.now log (units ++ more) d')
    houter.object ?_ ?_ hlinks hf ?_ (by rw [hsame, hcodec]) ?_)
  · intro more item rest d' g hmore hread' hg _ hdecode
    have hcalm'' := (hread'.of_read hg).1.rest (buffer_ne_nil hdecode) rest
    rw [← List.append_assoc]
    refine leads_take h hrest hclean (hread'.put_outer h.layer_ne hcalm'') ?_
      (Detail.read?_put_self ..) hcalm''
    rw [List.append_assoc]
    exact ((List.prefix_append_right_inj units).mpr hmore).trans hfront
  · -- the units so far are a front of `whole`, so that none of them is an error
    intro more error rest d' g hmore
    have hfull : units ++ more ++ [.error error] <+: whole := by
      rw [List.append_assoc]
      exact ((List.prefix_append_right_inj units).mpr hmore).trans hfront
    rcases hclean.outer _ (mem_of_front hfull) with ⟨p, hp, -⟩ | ⟨bytes, hbytes⟩
    · cases hp
    · cases hbytes
  · rw [List.append_nil, hsame]
    exact hread.put_outer h.layer_ne (hcalm.receive chunk)
  · intro d' g hread' hg _ hbuffer
    rw [hsame, hcodec] at hbuffer
    refine Network.leads_retry_idle hg ?_ ⟨rfl, hread', g, hg, hbuffer⟩
    rw [hread'.clock]
    exact (hread'.of_read hg).1.expireOutstanding (hrest .outer)

/-- Chunk after chunk. -/
theorem leads_chunks {chunks : List Bytes} (hread : Reading layer config key start now log units d)
    (hf : d.read? .framer (layer .outer) = some f)
    (hfront : units ++ ((codec config .outer).decodeChunks chunks f.buffer).1 <+: whole) :
    Leads plan (chunks.mapM fun chunk =>
        (((Network.calls (listening answer) (levels + 3)).layer (layer .outer)).recv chunk).run) d
      fun replies d' => replies = chunks.map (fun chunk => .ok chunk.length) ∧
        Reading layer config key start now log
          (units ++ ((codec config .outer).decodeChunks chunks f.buffer).1) d' := by
  induction chunks generalizing units d f with
  | nil => exact Leads.pure ⟨rfl, (List.append_nil units).symm ▸ hread⟩
  | cons chunk chunks ih =>
      rw [Codec.decodeChunks, ← List.append_assoc] at hfront ⊢
      rw [List.mapM_cons]
      refine Leads.bind ((leads_chunk h hrest hclean hread hf
        ((List.prefix_append ..).trans hfront)).mono ?_)
      rintro reply d' ⟨rfl, hread', f', hf', hbuffer⟩
      rw [← hbuffer] at hfront ⊢
      refine Leads.bind ((ih hread' hf' hfront).mono ?_)
      rintro replies d'' ⟨rfl, hread''⟩
      exact Leads.pure ⟨rfl, hread''⟩

end Runs

/-! ### Streams of two codecs -/

theorem ceiling (config : Side → Frame.Config) (side : Side) :
    (codec config side).maxSize ≤ (codec config side).mode.ceiling :=
  Codec.new_maxSize_le ..

/-- A stream of frames with plain packets is read without a fault. -/
theorem clean_decodeChunks {frames : List (Side × Packet)}
    (hframes : Frame.Separable (codec config) frames)
    (htags : ∀ frame ∈ frames, frame.2.tag < Tag.frame) {chunks : List Bytes}
    (hchunks : chunks.flatten = Frame.sharedStream (codec config) frames) :
    Clean (codec config .inner) ((codec config .outer).decodeChunks chunks []).1 := by
  have hparted := Frame.decodeChunks_shared (ceiling config) hframes hchunks
  constructor
  · intro unit hunit
    rcases unit with error | p | bytes
    · have herror : error ∈ Frame.errors ((codec config .outer).decodeChunks chunks []).1 :=
        List.mem_filterMap.mpr ⟨_, hunit, rfl⟩
      rw [hparted.errors] at herror
      cases herror
    · have hpacket : p ∈ packets ((codec config .outer).decodeChunks chunks []).1 :=
        List.mem_filterMap.mpr ⟨_, hunit, rfl⟩
      rw [hparted.packets, Frame.mem_ofSide] at hpacket
      exact .inl ⟨p, rfl, htags _ hpacket⟩
    · exact .inr ⟨bytes, rfl⟩
  · rw [Frame.decodeChunks_inner (ceiling config) hframes hparted.strays]
    intro unit hunit
    obtain ⟨p, hp, rfl⟩ := List.mem_map.mp hunit
    exact ⟨p, rfl, htags _ (Frame.mem_ofSide.mp hp)⟩

/-- Two framing layers at rest share a channel. -/
structure Shares (n : Network Log) (layer : Side → Ref) (config : Side → Frame.Config)
    (key : Side → Key) : Prop where
  nested : ∃ framer, Nested n.object? layer config key framer ∧
    ∀ side, AtRest n.clock.now (framer side)
  held : n.Held

theorem Nested.bare {n : Network Log} {framer : Side → Framer Ref}
    (h : Nested n.object? layer config key framer) :
    Nested n.bare layer config key fun side => View.Bared.bare .framer (framer side) where
  seated side := (h.seated side).bare
  other := h.other
  keys := h.keys
  delimiters := h.delimiters

/-- Frames of either layer, in any order and cut in any way, come to the outer
layer. Whatever the packets of the outer layer contain, its listener hears
these packets and the inner layer's hears those of the inner layer, each in
their order and once; no chunk is refused, and neither layer counts an error or
a drop. -/
theorem Shares.separates {n : Network Log} (h : Shares n layer config key)
    {frames : List (Side × Packet)} (hframes : Frame.Separable (codec config) frames)
    (htags : ∀ frame ∈ frames, frame.2.tag < Tag.frame) {chunks : List Bytes}
    (hchunks : chunks.flatten = Frame.sharedStream (codec config) frames)
    (answer : Log → Except LayerError Nat) (levels : Nat) :
    ∃ n', (chunks.mapM fun chunk => (((Network.calls (listening answer) (levels + 3)).layer
          (layer .outer)).recv chunk).run) n =
        some (chunks.map fun chunk => .ok chunk.length, n') ∧
      ∀ side, n'.app.heardBy (key side) =
          n.app.heardBy (key side) ++ (ofSide side frames).map Packet.body ∧
        (n'.read? .framer (layer side)).map faults = (n.read? .framer (layer side)).map faults := by
  obtain ⟨framer, hnested, hrest⟩ := h.nested
  have hread (side : Side) : n.read? .framer (layer side) = some (framer side) := by
    rw [Network.read?, (hnested.seated side).object]
    rfl
  have hstart : Reading layer config key framer n.clock.now n.app [] n.detail := by
    refine ⟨rfl, fun side => ⟨framer side, ?_, .of_atRest (hrest side), fun _ => ?_⟩, fun side => ?_⟩
    · rw [Network.read?_detail, hread]
    · exact (hrest side).buffer
    · cases side <;> exact (List.append_nil _).symm
  have houter : n.detail.read? .framer (layer .outer) = some (framer .outer) := by
    rw [Network.read?_detail, hread]
  have hleads : Leads n.bare (chunks.mapM fun chunk => (((Network.calls (listening answer)
        (levels + 3)).layer (layer .outer)).recv chunk).run) n.detail fun replies d' =>
      replies = chunks.map (fun chunk => .ok chunk.length) ∧ Reading layer config key framer
        n.clock.now n.app
        ([] ++ ((codec config .outer).decodeChunks chunks (framer .outer).buffer).1) d' :=
    leads_chunks hnested.bare hrest (clean_decodeChunks hframes htags hchunks) hstart houter
      (by rw [(hrest .outer).buffer]; exact List.prefix_rfl)
  obtain ⟨replies, n', hrun, -, -, rfl, hafter⟩ := hleads.run h.held rfl rfl
  refine ⟨n', hrun, fun side => ⟨?_, ?_⟩⟩
  · have hheard := hafter.heard side
    rw [List.nil_append, (hrest .outer).buffer,
      Frame.readBy_shared (ceiling config) hframes hchunks] at hheard
    exact hheard
  · obtain ⟨f', hf', hcalm, -⟩ := hafter.framer side
    rw [Network.read?_detail] at hf'
    rw [hf', hread]
    exact congrArg some hcalm.faults

end Shared

/-! ### A small channel -/

namespace Small

def layer : Side → Ref
  | .outer => 0
  | .inner => 1

def config : Side → Frame.Config
  | .outer => .short
  | .inner => { Frame.Config.short with delimiter := 0x7E }

def key : Side → Key
  | .outer => 0
  | .inner => 1

def framer : Side → Framer Ref
  | .outer =>
    { node := { name := "frame", links := some { child := none, parent := some 2 } },
      other := some 1, config := config .outer, lastRx := 0 }
  | .inner =>
    { node := { name := "frame", links := some { child := none, parent := some 3 } },
      config := config .inner, lastRx := 0 }

def network : Network Log where
  slots := ([.framer (framer .outer), .framer (framer .inner), .custom 0,
    .receiver { name := "inner" } 1].map fun object => some { object, holders := 1 }).toArray
  app := []

theorem shares : Shares network layer config key where
  nested := by
    refine ⟨framer, ⟨fun side => ?_, rfl, by decide, by decide⟩, fun side => ?_⟩
    · cases side <;> exact ⟨rfl, rfl, _, _, rfl, rfl, rfl⟩
    · cases side <;> exact ⟨rfl, nofun⟩
  held := .of_slots rfl

/-- An outer packet carries a whole inner frame, between two packets of the
inner layer. -/
def frames : List (Side × Packet) :=
  [(.inner, ⟨0x01, [0x68, 0x69]⟩),
    (.outer, ⟨0x7F, (codec config .inner).frame [0x02]⟩),
    (.inner, ⟨0x03, []⟩)]

/-- The chunks end within frames. -/
def chunks : List Bytes :=
  let stream := Frame.sharedStream (codec config) frames
  [stream.take 4, (stream.drop 4).take 8, stream.drop 12]

theorem separates_frames : Shares network layer config key ∧
    Frame.Separable (codec config) frames ∧ (∀ frame ∈ frames, frame.2.tag < Tag.frame) ∧
    chunks.flatten = Frame.sharedStream (codec config) frames ∧
    ∃ n', (chunks.mapM fun chunk => (((Network.calls (listening fun _ => .ok 0) 3).layer
          (layer .outer)).recv chunk).run) network =
        some (chunks.map fun chunk => .ok chunk.length, n') ∧
      ∀ side, n'.app.heardBy (key side) =
          network.app.heardBy (key side) ++ (ofSide side frames).map Packet.body ∧
        (n'.read? .framer (layer side)).map faults =
          (network.read? .framer (layer side)).map faults := by
  have hframes : Frame.Separable (codec config) frames := ⟨by decide +kernel, by decide +kernel⟩
  have htags : ∀ frame ∈ frames, frame.2.tag < Tag.frame := by decide +kernel
  have hchunks : chunks.flatten = Frame.sharedStream (codec config) frames := by decide +kernel
  exact ⟨shares, hframes, htags, hchunks, shares.separates hframes htags hchunks _ 0⟩

end Small

end LinkStack.Sharing
