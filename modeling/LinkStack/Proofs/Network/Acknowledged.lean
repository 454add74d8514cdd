import LinkStack.Proofs.Network.AtMostOnce

/-!
When a sender is told that a packet arrived which did not.

An acknowledgement carries a number of eight bits and nothing else of the packet,
and a packet that could not be written uses up a number like any other. So a
number comes back after 256 packets: the far end may then take a new packet for a
copy of the last one and acknowledge it without handing it over, and the near end
may take an acknowledgement of an old packet for that of a new one. The sender is
told too early exactly if the near end is polled while it holds a `Misread`
acknowledgement, and the first 256 packets of a run are safe from that. `Numbered`
is the invariant behind it: every copy has the number of its packet among all that
used one up.
-/

namespace LinkStack

open LinkStack.Frame (Framer Packet Codec Control ackBody dataBody opAck)

/-- The near end was told that a packet had arrived that had not been handed over
by then. -/
def ToldEarly (heard : List Heard) (packet : Bytes) : Prop :=
  ∃ before after, heard = before ++ .report .near { status := .acked, packet } :: after ∧
    packet ∉ handed before

/-- The near end awaits a packet that has not been handed over, and holds an
acknowledgement with its number. -/
def Misread (packet : Bytes) (n : Network (List Heard)) : Prop :=
  ∃ f o, n.read? .framer End.near.framer = some f ∧ f.outstanding = some o ∧ o.packet = packet ∧
    f.codec.frame (ackBody o.seq) ∈ n.mailbox End.near.index ∧ packet ∉ handed n.app

theorem misread_withHolders {n : Network (List Heard)} {holders : Ref → Nat} {packet : Bytes} :
    Misread packet (n.withHolders holders) ↔ Misread packet n := by
  simp only [Misread, Network.read?_withHolders]
  rfl

/-! ### What the sender is told -/

theorem toldEarly_append {heard more : List Heard} {packet : Bytes} :
    ToldEarly (heard ++ more) packet ↔ ToldEarly heard packet ∨ ∃ before after,
      more = before ++ .report .near { status := .acked, packet } :: after ∧
      packet ∉ handed (heard ++ before) := by
  constructor
  · -- the report stands among the old ones or among those that are added
    rintro ⟨before, after, heq, hearly⟩
    rcases List.append_eq_append_iff.mp heq with ⟨more', rfl, hmore⟩ | ⟨rest, rfl, hrest⟩
    · exact .inr ⟨more', after, hmore, hearly⟩
    · rcases List.cons_eq_append_iff.mp hrest with ⟨rfl, rfl⟩ | ⟨rest, rfl, rfl⟩
      · exact .inr ⟨[], after, rfl, by rwa [List.append_nil, List.append_nil] at *⟩
      · exact .inl ⟨before, rest, rfl, hearly⟩
  · rintro (⟨before, after, rfl, hearly⟩ | ⟨before, after, rfl, hearly⟩)
    · exact ⟨before, after ++ more, by simp, hearly⟩
    · exact ⟨heard ++ before, after, by simp, hearly⟩

theorem toldEarly_append_reports {heard : List Heard} {reports : List Delivery} {packet : Bytes} :
    ToldEarly (heard ++ reports.map (.report .near)) packet ↔
      ToldEarly heard packet ∨
        { status := .acked, packet } ∈ reports ∧ packet ∉ handed heard := by
  rw [toldEarly_append]
  refine or_congr_right ⟨?_, ?_⟩
  · rintro ⟨before, after, heq, hearly⟩
    rw [handed_append, List.mem_append, not_or] at hearly
    have hmem : Heard.report .near { status := .acked, packet } ∈ reports.map (.report .near) := by
      rw [heq]
      simp
    exact ⟨by simpa using hmem, hearly.1⟩
  · rintro ⟨hmem, hearly⟩
    obtain ⟨before, after, rfl⟩ := List.append_of_mem hmem
    refine ⟨before.map (.report .near), after.map (.report .near), by simp, ?_⟩
    rwa [handed_append, handed_reports, List.append_nil]

/-! ### Numbers and the retry timer -/

namespace Pair

variable {p p' : Pair} {e : End}

/-- What the end awaits need not be sent again yet. -/
def Waits (p : Pair) (e : End) : Prop :=
  ∀ o, (p.framer e).outstanding = some o →
    p.now.since o.sentAt < (p.framer e).config.ackTimeout

theorem retry_of_waits (h : p.Waits e) : p.retry e = p := by
  rw [retry]
  rcases (p.framer e).expireOutstanding_cases p.now with
    ⟨-, hexpiry⟩ | ⟨o, ho, hdue, -⟩ | ⟨o, ho, hdue, -⟩
  · rw [hexpiry]
    exact setFramer_self
  · exact absurd (h o ho) (UInt32.not_lt.mpr hdue)
  · exact absurd (h o ho) (UInt32.not_lt.mpr hdue)

theorem Wrote.waits {sent : List Bytes} (h : Wrote e sent p p') (hp : p.Waits e) : p'.Waits e := by
  obtain ⟨lastRx, stats, hframer⟩ := h.framer
  rw [Waits, hframer, h.keeps.now]
  exact hp

/-- What the retry timer does at an end that has something to await. -/
theorem retry_cases (hconfig : (p.framer e).config.ackTimeout ≠ 0) :
    ((p.retry e).framer e).nextSeq = (p.framer e).nextSeq ∧ (p.retry e).Waits e ∧
    ∃ reports : List Delivery, (p.retry e).heard = p.heard ++ reports.map (.report e) ∧
      ∀ report ∈ reports, report.status = .dropped := by
  have hnow (now : Tick) : now.since now < (p.framer e).config.ackTimeout := by
    rw [Tick.since, UInt32.sub_self]
    exact UInt32.pos_iff_ne_zero.mpr hconfig
  rw [retry]
  rcases (p.framer e).expireOutstanding_cases p.now with
    ⟨hearly, hexpiry⟩ | ⟨o, ho, -, -, hexpiry⟩ | ⟨o, ho, -, -, hexpiry⟩
  · rw [hexpiry]
    simp only
    rw [setFramer_self]
    exact ⟨rfl, hearly, [], (List.append_nil _).symm, by simp⟩
  · -- sent again: the timer starts anew, whatever the channel answers
    rw [hexpiry]
    simp only
    generalize hq : p.setFramer e _ = q
    have hframer : q.framer e = _ := hq ▸ framer_setFramer _
    have hwaits : q.Waits e := by
      rw [Waits, hframer, ← hq]
      rintro o' ⟨⟩
      exact hnow p.now
    have hheard : q.heard = p.heard := hq ▸ rfl
    rcases q.transmit_cases e o.wire with ⟨p', hsent, hwrote⟩ | ⟨error, p', hsent, hwrote⟩
    all_goals
      obtain ⟨lastRx, stats, hframer'⟩ := hwrote.framer
      rw [hsent]
      refine ⟨?_, hwrote.waits hwaits, [], ?_, by simp⟩
      · rw [hframer', hframer]
        rfl
      · rw [hwrote.heard, hheard]
        exact (List.append_nil _).symm
  · rw [hexpiry]
    have hframer := p.framer_setFramer (e := e)
      (({ p.framer e with outstanding := none } : Framer Ref).count .txDropped)
    refine ⟨(congrArg Framer.nextSeq hframer).trans rfl, ?_,
      [{ status := .dropped, packet := o.packet }], rfl,
      by simp⟩
    intro o' ho'
    have hnone := (congrArg Framer.outstanding hframer).symm.trans ho'
    simp [Framer.count] at hnone

/-- What an end does with an acknowledgement while it need not send again. -/
structure Settles (e : End) (seq : UInt8) (p p' : Pair) : Prop where
  nextSeq : (p'.framer e).nextSeq = (p.framer e).nextSeq
  outstanding : (p'.framer e).outstanding =
    (p.framer e).outstanding.filter fun o => o.seq ≠ seq
  heard : p'.heard = p.heard ++
    ((p.framer e).outstanding.filter fun o => o.seq = seq).toList.map fun o =>
      .report e { status := .acked, packet := o.packet }
  waits : p'.Waits e

theorem settles_settle (h : p.Waits e) (seq : UInt8) : Settles e seq p (p.settle e seq) := by
  rw [settle]
  rcases (p.framer e).acknowledge_cases seq with ⟨o, ho, hseq, hsettled⟩ | ⟨hother, hsettled⟩
  · rw [hsettled]
    have hframer := p.framer_setFramer (e := e) { p.framer e with outstanding := none }
    refine ⟨(congrArg Framer.nextSeq hframer).trans rfl, ?_, ?_, ?_⟩
    · rw [ho]
      refine (congrArg Framer.outstanding hframer).trans ?_
      simp [Option.filter, hseq]
    · rw [ho]
      simp [hear, setFramer, Option.filter, hseq]
    · intro o' ho'
      have hnone := (congrArg Framer.outstanding hframer).symm.trans ho'
      simp at hnone
  · rw [hsettled]
    simp only
    rw [setFramer_self]
    refine ⟨rfl, ?_, ?_, h⟩ <;> cases ho : (p.framer e).outstanding with
    | none => simp
    | some o => simp [Option.filter, hother o ho]

theorem settles_arrive (h : p.Waits e) (seq : UInt8) :
    Settles e seq p (p.arrive e (ackPacket seq)) := by
  have hread : Control.read (ackPacket seq).payload = .ack seq := rfl
  rw [arrive, recv, take, if_pos (show Tag.fold (ackPacket seq).tag = Tag.frame from rfl), control,
    hread]
  simp only
  generalize hq : (p.setInbox e (p.inbox e).tail).setFramer e _ = q
  have hframer : q.framer e = { p.framer e with lastRx := p.now } := hq ▸ framer_setFramer _
  have hnow : q.now = p.now := hq ▸ rfl
  have hheard : q.heard = p.heard := hq ▸ rfl
  have hwaits : q.Waits e := by
    rw [Waits, hframer, hnow]
    exact h
  have hsettles := settles_settle hwaits seq
  rw [retry_of_waits hsettles.waits]
  refine ⟨?_, ?_, ?_, hsettles.waits⟩
  · exact hsettles.nextSeq.trans (by rw [hframer])
  · exact hsettles.outstanding.trans (by rw [hframer])
  · exact hsettles.heard.trans (by rw [hheard, hframer])

/-- A poll reports the awaited packet if any acknowledgement that has come has its
number. -/
theorem arriveAll_ackPacket (h : p.Waits e) (acks : List UInt8) :
    ((p.arriveAll e (acks.map ackPacket)).framer e).nextSeq = (p.framer e).nextSeq ∧
    (p.arriveAll e (acks.map ackPacket)).Waits e ∧
    (p.arriveAll e (acks.map ackPacket)).heard = p.heard ++
      ((p.framer e).outstanding.filter fun o => o.seq ∈ acks).toList.map fun o =>
        .report e { status := .acked, packet := o.packet } := by
  induction acks generalizing p with
  | nil => exact ⟨rfl, h, by cases (p.framer e).outstanding <;> simp [arriveAll]⟩
  | cons seq acks ih =>
      -- once the packet is reported, later acknowledgements find nothing awaited
      have hsettles := settles_arrive h seq
      obtain ⟨hnext, hwaits, hheard⟩ := ih hsettles.waits
      refine ⟨hnext.trans hsettles.nextSeq, hwaits, hheard.trans ?_⟩
      rw [hsettles.heard, hsettles.outstanding, List.append_assoc]
      cases (p.framer e).outstanding with
      | none => rfl
      | some o =>
          by_cases hseq : o.seq = seq
          · simp [Option.filter, hseq]
          · by_cases hmem : o.seq ∈ acks <;> simp [Option.filter, hseq, hmem]

end Pair

/-! ### The invariant -/

/-- A copy has the number that its packet used up. -/
def Counted (used : List Bytes) (c : Copy) : Prop :=
  ∃ i, used[i]? = some c.2 ∧ c.1 = UInt8.ofNat i

theorem Counted.append {used : List Bytes} {c : Copy} (h : Counted used c) (more : List Bytes) :
    Counted (used ++ more) c := by
  obtain ⟨i, hi, hseq⟩ := h
  refine ⟨i, ?_, hseq⟩
  rw [List.getElem?_append_left (List.getElem?_eq_some_iff.mp hi).1, hi]

/-- Numbers tell the first 256 packets apart. -/
theorem Counted.packet_eq {used : List Bytes} {c c' : Copy} (h : Counted used c)
    (h' : Counted used c') (hfew : used.length ≤ 256) (hseq : c.1 = c'.1) : c.2 = c'.2 := by
  obtain ⟨i, hi, hc⟩ := h
  obtain ⟨j, hj, hc'⟩ := h'
  have hi' := (List.getElem?_eq_some_iff.mp hi).1
  have hj' := (List.getElem?_eq_some_iff.mp hj).1
  -- both places are below 256, so that a byte is enough to tell them apart
  have hsame : i = j := by
    rw [hc, hc'] at hseq
    have hmod := congrArg UInt8.toNat hseq
    rw [UInt8.toNat_ofNat', UInt8.toNat_ofNat'] at hmod
    omega
  rw [hsame] at hi
  exact Option.some.inj (hi.symm.trans hj)

/-- The packets `used` have each used up a number, in this order. As long as they
are few, no packet that reached the far end has been taken for another one. -/
structure Numbered (used : List Bytes) (taken pending : List Copy) (acks : List UInt8)
    (p : Pair) : Prop where
  next : (p.framer .near).nextSeq = UInt8.ofNat used.length
  counted : ∀ c ∈ taken ++ pending, Counted used c
  acks : ∀ seq ∈ acks, seq ∈ taken.map Prod.fst
  waits : p.Waits .near
  taken : used.length ≤ 256 → ∀ c ∈ taken, c.2 ∈ handed p.heard

namespace Numbered

variable {config : Frame.Config} {sent used : List Bytes} {taken pending : List Copy}
  {acks : List UInt8} {p p' : Pair}

/-- A step of the near end. -/
theorem near (h : Numbered used taken pending acks p) (newly : List Bytes) {more : List Copy}
    {acks' : List UInt8} (hnext : (p'.framer .near).nextSeq = UInt8.ofNat (used ++ newly).length)
    (hmore : ∀ c ∈ more, c ∈ taken ++ pending ∨ Counted (used ++ newly) c) (hacks : acks' ⊆ acks)
    (hwaits : p'.Waits .near) (hhanded : handed p'.heard = handed p.heard) :
    Numbered (used ++ newly) taken (pending ++ more) acks' p' where
  next := hnext
  counted := by
    intro c hc
    rw [← List.append_assoc] at hc
    rcases List.mem_append.mp hc with hc | hc
    · exact (h.counted c hc).append newly
    · exact (hmore c hc).elim (fun hc => (h.counted c hc).append newly) id
  acks := fun seq hseq => h.acks seq (hacks hseq)
  waits := hwaits
  taken := by
    intro hfew c hc
    rw [hhanded]
    exact h.taken (by rw [List.length_append] at hfew; omega) c hc

theorem fails (h : Numbered used taken pending acks p) (hfails : Pair.Fails .near p p')
    (packet : Bytes) {more : List Copy} (hmore : ∀ c ∈ more, c ∈ taken ++ pending) :
    ∃ newly, newly.length ≤ 1 ∧ Numbered (used ++ newly) taken (pending ++ more) acks p' := by
  have hwaits : p'.Waits .near := by
    rw [Pair.Waits, hfails.outstanding, hfails.keeps.now, hfails.keeps.config]
    exact h.waits
  obtain ⟨newly, hone, hnext⟩ : ∃ newly : List Bytes, newly.length ≤ 1 ∧
      (p'.framer .near).nextSeq = UInt8.ofNat (used ++ newly).length := by
    rcases hfails.nextSeq with hsame | hnext
    · exact ⟨[], by simp, by rw [hsame, h.next, List.append_nil]⟩
    · refine ⟨[packet], by simp, ?_⟩
      rw [hnext, h.next, List.length_append, List.length_singleton, UInt8.ofNat_add]
      rfl
  exact ⟨newly, hone, h.near newly hnext (fun c hc => .inl (hmore c hc)) (List.Subset.refl acks)
    hwaits (congrArg handed hfails.heard)⟩

theorem sends (h : Numbered used taken pending acks p) {seq : UInt8} {packet : Bytes}
    (hconfig : (p.framer .near).config.ackTimeout ≠ 0)
    (hsends : Pair.Sends .near seq packet p p') :
    Numbered (used ++ [packet]) taken (pending ++ [(seq, packet)]) acks p' := by
  obtain ⟨hseq, hnext⟩ := hsends.nextSeq
  have hseq : seq = UInt8.ofNat used.length := hseq.symm.trans h.next
  refine h.near _ ?_ ?_ (List.Subset.refl acks) ?_ (congrArg handed hsends.heard)
  · rw [hnext, hseq, List.length_append, List.length_singleton, UInt8.ofNat_add]
    rfl
  · intro c hc
    rw [List.mem_singleton.mp hc]
    exact .inr ⟨used.length, by simp, hseq⟩
  · intro o ho
    obtain ⟨o', ho', -, -, -, hsentAt⟩ := hsends.outstanding
    rw [ho] at ho'
    obtain ⟨⟩ := ho'
    rw [hsentAt, hsends.keeps.now, hsends.keeps.config, Tick.since, UInt32.sub_self]
    exact UInt32.pos_iff_ne_zero.mpr hconfig

theorem accepts {c : Copy} (h : Numbered used taken (c :: pending) acks p)
    (hflow : Flow config sent taken (c :: pending) acks p)
    (haccepts : Pair.Accepts .far c.1 c.2 (p.setInbox .far (p.inbox .far).tail) p')
    (hhanded : handed p'.heard =
      handed p.heard ++ if (p.framer .far).isRepeat p.now c.1 then [] else [c.2])
    {more : List UInt8} (hmore : ∀ seq ∈ more, seq = c.1) :
    Numbered used (taken ++ [c]) pending (acks ++ more) p' := by
  have hnear : p'.framer .near = p.framer .near := haccepts.keeps.otherFramer
  have hall : taken ++ [c] ++ pending = taken ++ c :: pending := by simp
  have hc : Counted used c := h.counted c (by simp)
  refine ⟨by rw [hnear, h.next], by rw [hall]; exact h.counted, ?_, ?_, ?_⟩
  · intro seq hseq
    rw [List.map_append, List.mem_append]
    rcases List.mem_append.mp hseq with hseq | hseq
    · exact .inl (h.acks seq hseq)
    · exact .inr (by simp [hmore seq hseq])
  · rw [Pair.Waits, hnear, haccepts.keeps.now]
    exact h.waits
  · intro hfew c' hc'
    rw [hhanded, List.mem_append]
    rcases List.mem_append.mp hc' with hc' | hc'
    · exact .inl (h.taken hfew c' hc')
    rw [List.mem_singleton.mp hc']
    cases hrepeat : (p.framer .far).isRepeat p.now c.1 with
    | false => exact .inr (by simp)
    | true =>
        -- a repeat has the number of the copy taken last, hence its packet
        obtain ⟨last, hlast, hsame⟩ : ∃ last, taken.getLast? = some last ∧ last.1 = c.1 := by
          obtain ⟨at_, hlastSeq⟩ : ∃ at_, (p.framer .far).lastSeq = some (c.1, at_) := by
            rw [Framer.isRepeat] at hrepeat
            split at hrepeat
            · simp at hrepeat
            · rename_i last at_ heq
              obtain ⟨rfl, -⟩ : last = c.1 ∧ _ := by simpa using hrepeat
              exact ⟨at_, heq⟩
          have := hflow.last
          rw [hlastSeq, Option.map_some] at this
          simpa using this.symm
        have hmem := List.mem_of_getLast? hlast
        rw [hc.packet_eq (h.counted last (List.mem_append_left _ hmem)) hfew hsame.symm]
        exact .inl (h.taken hfew last hmem)

/-! ### Acknowledgements that are misread -/

theorem misread_iff (hflow : Flow config sent taken pending acks p)
    (hack : 3 ≤ (p.framer .near).bodyLimit)
    (packet : Bytes) :
    Misread packet p.network ↔ ∃ o, (p.framer .near).outstanding = some o ∧ o.packet = packet ∧
      o.seq ∈ acks ∧ packet ∉ handed p.heard := by
  have hmailbox : p.network.mailbox End.near.index = acks.map (ackWire config) :=
    (p.mailbox_inbox .near).trans hflow.toNear
  have hwire (seq : UInt8) :
      (p.framer .near).codec.frame (ackBody seq) ∈ acks.map (ackWire config) ↔
      seq ∈ acks := by
    rw [hflow.codec]
    constructor
    · intro hmem
      obtain ⟨seq', hseq', hsame⟩ := List.mem_map.mp hmem
      have hfits (seq : UInt8) :
          (Pair.ackPacket seq).body.length ≤ (Codec.ofConfig config).maxSize := by
        rw [Framer.bodyLimit, hflow.codec] at hack
        exact hack
      have heq := Codec.frame_body_inj (Codec.new_maxSize_le _ _ _) (hfits seq') (hfits seq) hsame
      obtain rfl : seq' = seq := by simpa [Pair.ackPacket] using heq
      exact hseq'
    · exact fun hseq => List.mem_map.mpr ⟨seq, hseq, rfl⟩
  constructor
  · rintro ⟨f, o, hread, ho, hpacket, hmem, hearly⟩
    obtain rfl : p.framer .near = f := Option.some.inj ((p.read?_framer .near).symm.trans hread)
    rw [hmailbox, hwire] at hmem
    exact ⟨o, ho, hpacket, hmem, hearly⟩
  · rintro ⟨o, ho, hpacket, hmem, hearly⟩
    refine ⟨p.framer .near, o, p.read?_framer .near, ho, hpacket, ?_, hearly⟩
    rwa [hmailbox, hwire]

/-- An acknowledgement can only be misread after more than 256 packets. -/
theorem lt_length_of_misread (h : Numbered used taken pending acks p)
    (hflow : Flow config sent taken pending acks p) (hack : 3 ≤ (p.framer .near).bodyLimit)
    {packet : Bytes} (hmisread : Misread packet p.network) : 256 < used.length := by
  obtain ⟨o, ho, rfl, hseq, hearly⟩ := (misread_iff hflow hack packet).mp hmisread
  obtain ⟨c, hc, hsame⟩ := List.mem_map.mp (h.acks o.seq hseq)
  have hawaited := List.mem_of_getLast? (hflow.awaited o ho).1
  rw [← Nat.not_le]
  intro hfew
  have hpacket : c.2 = o.packet :=
    (h.counted c (List.mem_append_left _ hc)).packet_eq (h.counted _ hawaited) hfew hsame
  exact hearly (hpacket ▸ h.taken hfew c hc)

/-! ### Steps -/

theorem poll_far (h : Numbered used taken pending acks p)
    (hflow : Flow config sent taken pending acks p) :
    ∃ more, Flow config sent (taken ++ pending) [] (acks ++ more)
        (p.arriveAll .far (pending.map fun c => Pair.dataPacket c.1 c.2)) ∧
      Numbered used (taken ++ pending) [] (acks ++ more)
        (p.arriveAll .far (pending.map fun c => Pair.dataPacket c.1 c.2)) ∧
      ∀ packet, ToldEarly
          (p.arriveAll .far (pending.map fun c => Pair.dataPacket c.1 c.2)).heard packet ↔
        ToldEarly p.heard packet := by
  induction pending generalizing taken acks p with
  | nil =>
      refine ⟨[], ?_, ?_, fun packet => .rfl⟩ <;> rw [List.append_nil, List.append_nil]
      · exact hflow
      · exact h
  | cons c pending ih =>
      have haccepts := Pair.accepts_arrive hflow.idle c.1 (hflow.nonempty c (by simp))
      obtain ⟨more, hflow', hhanded, hacks⟩ := hflow.accepts haccepts
      obtain ⟨more', hflow'', hnumbered, htold⟩ :=
        ih (h.accepts hflow haccepts hhanded hacks) hflow'
      refine ⟨more ++ more', ?_, ?_, fun packet => (htold packet).trans ?_⟩
      · rw [List.append_assoc, List.append_assoc] at hflow''
        exact hflow''
      · rw [List.append_assoc, List.append_assoc] at hnumbered
        exact hnumbered
      · -- the far end reports nothing to the near one
        rw [haccepts.heard, toldEarly_append]
        refine or_iff_left ?_
        rintro ⟨before, after, heq, -⟩
        have hmem : Heard.report .near { status := .acked, packet } ∈
            before ++ .report .near { status := .acked, packet } :: after := by simp
        rw [← heq] at hmem
        split at hmem <;> simp at hmem

theorem poll_near (h : Numbered used taken pending acks p)
    (hflow : Flow config sent taken pending acks p) (hack : 3 ≤ (p.framer .near).bodyLimit) :
    ∃ more, Flow config sent taken (pending ++ more) []
        (p.arriveAll .near (acks.map Pair.ackPacket)) ∧
      Numbered used taken (pending ++ more) [] (p.arriveAll .near (acks.map Pair.ackPacket)) ∧
      ∀ packet, ToldEarly (p.arriveAll .near (acks.map Pair.ackPacket)).heard packet ↔
        ToldEarly p.heard packet ∨ Misread packet p.network := by
  obtain ⟨more, hflow', hhanded, hcopies⟩ := hflow.poll_near
  obtain ⟨hnext, hwaits, hheard⟩ := Pair.arriveAll_ackPacket h.waits acks
  refine ⟨more, hflow', ?_, fun packet => ?_⟩
  · have hnear := h.near [] (by rw [hnext, h.next, List.append_nil])
      (fun c hc => .inl (hcopies c hc)) (List.nil_subset acks) hwaits hhanded
    rwa [List.append_nil] at hnear
  · have hreports := @toldEarly_append_reports p.heard
      (((p.framer .near).outstanding.filter fun o => o.seq ∈ acks).toList.map fun o =>
        { status := .acked, packet := o.packet }) packet
    rw [List.map_map] at hreports
    rw [misread_iff hflow hack, hheard]
    refine hreports.trans (or_congr_right ?_)
    simp only [List.mem_map, Option.mem_toList, Option.filter_eq_some_iff, decide_eq_true_eq,
      Delivery.mk.injEq, true_and]
    constructor
    · rintro ⟨⟨o, ⟨ho, hseq⟩, hpacket⟩, hearly⟩
      exact ⟨o, ho, hpacket, hseq, hearly⟩
    · rintro ⟨o, ho, hpacket, hseq, hearly⟩
      exact ⟨⟨o, ⟨ho, hseq⟩, hpacket⟩, hearly⟩

theorem advance (h : Numbered used taken pending acks p)
    (hflow : Flow config sent taken pending acks p)
    (hconfig : (p.framer .near).config.ackTimeout ≠ 0) (ticks : Tick) :
    ∃ more, Flow config sent taken (pending ++ more) acks (p.advance ticks) ∧
      Numbered used taken (pending ++ more) acks (p.advance ticks) ∧
      ∀ packet, ToldEarly (p.advance ticks).heard packet ↔ ToldEarly p.heard packet := by
  obtain ⟨more, hflow', hhanded, hcopies⟩ := hflow.advance ticks
  obtain ⟨hnext, hwaits, reports, hheard, hdropped⟩ :=
    Pair.retry_cases (p := { p with now := p.now + ticks }) (e := .near) hconfig
  have hadvance : p.advance ticks = ({ p with now := p.now + ticks } : Pair).retry .near :=
    Pair.retry_of_idle
      ((congrArg Framer.outstanding Pair.keeps_retry.otherFramer).trans hflow.idle)
  rw [← hadvance] at hnext hwaits hheard
  refine ⟨more, hflow', ?_, fun packet => ?_⟩
  · have hnear := h.near [] (by rw [List.append_nil, ← h.next]; exact hnext)
      (fun c hc => .inl (hcopies c hc)) (List.Subset.refl acks) hwaits hhanded
    rwa [List.append_nil] at hnear
  · rw [hheard, toldEarly_append_reports]
    refine or_iff_left ?_
    rintro ⟨hmem, -⟩
    exact absurd (hdropped _ hmem) (by simp)

theorem send (h : Numbered used taken pending acks p)
    (hflow : Flow config sent taken pending acks p)
    (hconfig : (p.framer .near).config.ackTimeout ≠ 0) {packet : Bytes} (hnew : packet ∉ sent) :
    ∃ newly more, newly.length ≤ 1 ∧
      Flow config (packet :: sent) taken (pending ++ more) acks
        (p.sendConfirmed .near packet).2 ∧
      Numbered (used ++ newly) taken (pending ++ more) acks (p.sendConfirmed .near packet).2 ∧
      (p.sendConfirmed .near packet).2.heard = p.heard := by
  rcases p.sendConfirmed_cases .near packet with hfails | ⟨seq, hsends⟩
  · obtain ⟨more, hflow', -, hcopies⟩ := hflow.resends hfails.resends
    obtain ⟨newly, hone, hnumbered⟩ := h.fails hfails packet hcopies
    exact ⟨newly, more, hone,
      { hflow' with known := fun c hc => List.mem_cons_of_mem _ (hflow'.known c hc) }, hnumbered,
      hfails.heard⟩
  · exact ⟨[packet], [(seq, packet)], by simp, hflow.sends hnew hsends, h.sends hconfig hsends,
      hsends.heard⟩

theorem step (h : Numbered used taken pending acks p)
    (hflow : Flow config sent taken pending acks p) (hconfig : config.validate = .ok ())
    {step : Step} (hnew : ∀ packet, step.packet? = some packet → packet ∉ sent) :
    ∃ p' newly taken' pending' acks', Moves step p p' ∧
      newly.length ≤ step.packet?.toList.length ∧
      Flow config (step.packet?.toList ++ sent) taken' pending' acks' p' ∧
      Numbered (used ++ newly) taken' pending' acks' p' ∧
      ∀ packet, ToldEarly p'.heard packet ↔
        ToldEarly p.heard packet ∨ (step = .poll .near ∧ Misread packet p.network) := by
  have htimeout : (p.framer .near).config.ackTimeout ≠ 0 := by
    rw [hflow.settings]
    exact Frame.Config.ackTimeout_of_validate hconfig
  cases step with
  | send packet =>
      obtain ⟨newly, more, hone, hflow', hnumbered, hheard⟩ :=
        h.send hflow htimeout (hnew packet rfl)
      refine ⟨_, newly, _, _, _, .send, hone, hflow', hnumbered, fun packet => ?_⟩
      rw [hheard]
      simp
  | advance ticks =>
      obtain ⟨more, hflow', hnumbered, htold⟩ := h.advance hflow htimeout ticks
      exact ⟨_, [], _, _, _, .advance, by simp, hflow', by rwa [List.append_nil],
        fun packet => by simpa using htold packet⟩
  | poll e =>
      cases e with
      | near =>
          obtain ⟨more, hflow', hnumbered, htold⟩ :=
            h.poll_near hflow (hflow.three_le_bodyLimit hconfig .near)
          exact ⟨_, [], _, _, _, hflow.moves_poll_near hconfig, by simp, hflow',
            by rwa [List.append_nil], fun packet => by simpa using htold packet⟩
      | far =>
          obtain ⟨more, hflow', hnumbered, htold⟩ := h.poll_far hflow
          exact ⟨_, [], _, _, _, hflow.moves_poll_far, by simp, hflow', by rwa [List.append_nil],
            fun packet => by simpa using htold packet⟩

theorem run (h : Numbered used taken pending acks p)
    (hflow : Flow config sent taken pending acks p) (hconfig : config.validate = .ok ())
    {holders : Ref → Nat} (hholders : ∀ ref, 0 < holders ref) (levels : Nat) {steps : List Step}
    (hdistinct : (steps.filterMap Step.packet?).Nodup)
    (hnew : ∀ packet ∈ steps.filterMap Step.packet?, packet ∉ sent) :
    ∃ p' : Pair, LinkStack.run (levels + 2) steps (p.network.withHolders holders) =
        some ((), p'.network.withHolders holders) ∧
      ∀ packet,
        (ToldEarly p'.heard packet ↔ ToldEarly p.heard packet ∨ PolledWhile (levels + 2) .near
          (Misread packet) steps (p.network.withHolders holders)) ∧
        (PolledWhile (levels + 2) .near (Misread packet) steps (p.network.withHolders holders) →
          256 < used.length + (steps.filterMap Step.packet?).length) := by
  induction steps generalizing sent used taken pending acks p with
  | nil =>
      refine ⟨p, rfl, fun packet => ⟨(or_iff_left not_polledWhile_nil).symm, ?_⟩⟩
      exact fun hpolled => absurd hpolled not_polledWhile_nil
  | cons step steps ih =>
      rw [Step.filterMap_packet?_cons] at hdistinct hnew ⊢
      obtain ⟨-, hrest, hapart⟩ := List.nodup_append.mp hdistinct
      have hfirst (packet : Bytes) (hpacket : step.packet? = some packet) : packet ∉ sent :=
        hnew packet (List.mem_append_left _ (by simp [hpacket]))
      obtain ⟨p', newly, taken', pending', acks', hmoves, hone, hflow', hnumbered, htold⟩ :=
        h.step hflow hconfig hfirst
      have hact : step.act (levels + 2) (p.network.withHolders holders) =
          some ((), p'.network.withHolders holders) :=
        hmoves.does hflow.wired (hflow.three_le_bodyLimit hconfig) holders hholders
      -- what the first step used up counts for the rest, hence `used` in the bound
      obtain ⟨p'', hrun, htold'⟩ := ih hnumbered hflow' hrest fun packet hmem => by
        rw [List.mem_append, not_or]
        exact ⟨fun hsame => hapart packet hsame packet hmem rfl,
          hnew packet (List.mem_append_right _ hmem)⟩
      refine ⟨p'', (run_cons hact steps).trans hrun, fun packet => ⟨?_, ?_⟩⟩
      · rw [(htold' packet).1, htold packet, polledWhile_cons hact, misread_withHolders, or_assoc]
      · rw [polledWhile_cons hact, misread_withHolders, List.length_append]
        rintro (⟨-, hmisread⟩ | hlater)
        · have := h.lt_length_of_misread hflow (hflow.three_le_bodyLimit hconfig .near) hmisread
          omega
        · have := (htold' packet).2 hlater
          rw [List.length_append] at this
          omega

end Numbered

theorem numbered_start (config : Frame.Config) (maxPacket : Nat) (start : Tick) :
    Numbered [] [] [] [] (Pair.start config maxPacket start) where
  next := rfl
  counted := by simp
  acks := by simp
  waits := by
    intro o ho
    obtain ⟨⟩ : none = some o := ho
  taken := by simp

/-- A sender is told too early that a packet has arrived exactly if the near end is
polled while it holds an acknowledgement that it misreads, and that takes more than
256 packets. -/
theorem toldEarly_iff_misread {config : Frame.Config} (hconfig : config.validate = .ok ())
    (maxPacket : Nat) (start : Tick) (levels : Nat) {steps : List Step}
    (hdistinct : (steps.filterMap Step.packet?).Nodup) :
    ∃ n n', framedLink config maxPacket start = some n ∧
      run (levels + 2) steps n = some ((), n') ∧ ∀ packet,
        (ToldEarly n'.app packet ↔ PolledWhile (levels + 2) .near (Misread packet) steps n) ∧
        (ToldEarly n'.app packet → 256 < (steps.filterMap Step.packet?).length) := by
  obtain ⟨p', hrun, htold⟩ := (numbered_start config maxPacket start).run
    (flow_start config maxPacket start) hconfig Pair.holders_pos levels hdistinct (by simp)
  refine ⟨_, _, framedLink_eq hconfig maxPacket start, hrun, fun packet => ?_⟩
  obtain ⟨hiff, hmany⟩ := htold packet
  have hsilent : ¬ ToldEarly (Pair.start config maxPacket start).heard packet := by
    rintro ⟨before, after, heq, -⟩
    simp [Pair.start, Pair.linkFramer, Pair.linkChannel, Pair.setFramer, Pair.setChannel,
      Pair.unlinked] at heq
  have hiff := hiff.trans (or_iff_right hsilent)
  refine ⟨hiff, fun htold => ?_⟩
  have := hmany (hiff.mp htold)
  rwa [List.length_nil, Nat.zero_add] at this

/-- Two packets with the same number: those in between are too long for the link, but
each uses up a number. -/
def misreadSteps : List Step :=
  [.send [0x42, 1], .poll .far, .poll .near] ++
    (List.range 255).map (fun i => .send [0x43, UInt8.ofNat i, 0]) ++
    [.send [0x42, 2], .poll .far, .poll .near]

theorem nodup_misreadSteps : (misreadSteps.filterMap Step.packet?).Nodup := by
  have hsends (packet : Nat → Bytes) (l : List Nat) :
      (l.map fun i => Step.send (packet i)).filterMap Step.packet? = l.map packet := by
    rw [List.filterMap_map]
    exact congrFun List.filterMap_eq_map l
  have hmiddle : ((List.range 255).map fun i => ([0x43, UInt8.ofNat i, 0] : Bytes)).Nodup := by
    refine List.pairwise_map.mpr (List.pairwise_lt_range.imp_of_mem ?_)
    intro i j hi hj hlt hsame
    have hnumber : UInt8.ofNat i = UInt8.ofNat j := by simpa using hsame
    have hmod := congrArg UInt8.toNat hnumber
    rw [UInt8.toNat_ofNat', UInt8.toNat_ofNat'] at hmod
    rw [List.mem_range] at hi hj
    omega
  rw [misreadSteps, List.filterMap_append, List.filterMap_append, hsends]
  show ([[0x42, 1]] ++ _ ++ [[0x42, 2]] : List Bytes).Nodup
  rw [List.nodup_append, List.nodup_append]
  refine ⟨⟨by simp, hmiddle, ?_⟩, by simp, ?_⟩
  · rintro packet hfirst packet' hmem rfl
    rw [List.mem_singleton.mp hfirst] at hmem
    simp at hmem
  · rintro packet hmem packet' hlast rfl
    rw [List.mem_singleton.mp hlast] at hmem
    simp at hmem

theorem heard_misreadSteps : ((framedLink {} 10 0).bind (run 2 misreadSteps)).map
    (fun answer => answer.2.app) =
      some [.packet .far [0x42, 1], .report .near { status := .acked, packet := [0x42, 1] },
        .report .near { status := .acked, packet := [0x42, 2] }] := by
  decide +kernel

theorem exists_run_misreadSteps : ∃ n n', framedLink {} 10 0 = some n ∧
    run 2 misreadSteps n = some ((), n') ∧ ToldEarly n'.app [0x42, 2] := by
  obtain ⟨⟨⟨⟩, n'⟩, hrun, hheard⟩ := Option.map_eq_some_iff.mp heard_misreadSteps
  obtain ⟨n, hlink, hrun⟩ := Option.bind_eq_some_iff.mp hrun
  refine ⟨n, n', hlink, hrun, [_, _], [], hheard, ?_⟩
  decide

theorem polledWhile_misread_misreadSteps : ∃ n, framedLink {} 10 0 = some n ∧
    PolledWhile 2 .near (Misread [0x42, 2]) misreadSteps n := by
  obtain ⟨n, n', hlink, hrun, htold⟩ := exists_run_misreadSteps
  obtain ⟨m, m', hlink', hrun', hiff⟩ :=
    @toldEarly_iff_misread {} rfl 10 0 0 misreadSteps nodup_misreadSteps
  obtain rfl : n = m := Option.some.inj (hlink.symm.trans hlink')
  obtain ⟨⟩ : some ((), n') = some ((), m') := hrun.symm.trans hrun'
  exact ⟨n, hlink, (hiff _).1.mp htold⟩

theorem not_forall_told_handed : ¬ ∀ (config : Frame.Config) (maxPacket levels : Nat)
    (start : Tick) (steps : List Step) (n n' : Network (List Heard)),
    config.validate = .ok () → (steps.filterMap Step.packet?).Nodup →
    framedLink config maxPacket start = some n → run (levels + 2) steps n = some ((), n') →
    ∀ packet before after,
      n'.app = before ++ .report .near { status := .acked, packet } :: after →
      packet ∈ handed before := by
  intro hhonest
  obtain ⟨n, n', hlink, hrun, before, after, hheard, hearly⟩ := exists_run_misreadSteps
  exact hearly (hhonest {} 10 0 0 misreadSteps n n' rfl nodup_misreadSteps hlink hrun _ _ _ hheard)

end LinkStack
