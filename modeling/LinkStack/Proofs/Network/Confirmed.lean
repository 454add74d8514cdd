import LinkStack.Proofs.Network.Runs

/-!
Confirmed packets on their way from one end of a pair to the other.

What the two ends do to each other is described from the outside, by what they
hand to their channels, what they report and what they remember: `Resends` is
all that a sender does between two sends, `Sends` is a send that was accepted,
and `Accepts` is what a receiver does with one copy of a packet. `Flow` is the
invariant of all runs in which the near end sends: the copies that were ever
written are in order, each copy of a packet but the first one stands right
behind another one, and the awaited packet is the last one written.
-/

namespace LinkStack

open LinkStack.Frame (Framer Packet Codec Control ackBody dataBody opData opAck)
open Channel (Loopback)

namespace Pair

variable {p p' p'' : Pair} {e : End}

/-! ### What is written -/

/-- An end has handed the given writes to its channel, and has otherwise only
counted and looked at the clock. -/
structure Wrote (e : End) (sent : List Bytes) (p p' : Pair) : Prop where
  keeps : Keeps e p p'
  framer : ∃ lastRx stats, p'.framer e = { p.framer e with lastRx, stats }
  heard : p'.heard = p.heard
  inbox : p'.inbox e.other = p.inbox e.other ++ sent

theorem transmit_cases (p : Pair) (e : End) (bytes : Bytes) :
    (∃ p', p.transmit e bytes = (.ok bytes.length, p') ∧ Wrote e [bytes] p p') ∨
    (∃ error p', p.transmit e bytes = (.error error, p') ∧ Wrote e [] p p') := by
  rw [transmit]
  split
  · exact .inr ⟨_, _, rfl, .countChannel _, ⟨_, _, rfl⟩, rfl, (List.append_nil _).symm⟩
  · refine .inl ⟨_, rfl, (Keeps.push _).trans (.countChannel _), ⟨_, _, rfl⟩, rfl, ?_⟩
    exact inbox_setInbox (e := e.other) _

theorem Wrote.countFramer {sent : List Bytes} (h : Wrote e sent p p') (event : Traffic) :
    Wrote e sent p (p'.countFramer e event) where
  keeps := h.keeps.trans (.countFramer event)
  framer := by
    obtain ⟨lastRx, stats, hframer⟩ := h.framer
    rw [Pair.countFramer, framer_setFramer, hframer]
    exact ⟨_, _, rfl⟩
  heard := h.heard
  inbox := h.inbox

theorem write_cases (p : Pair) (e : End) (body : Bytes) :
    (∃ p', p.write e body = (.ok ((p.framer e).codec.frame body), p') ∧
      Wrote e [(p.framer e).codec.frame body] p p') ∨
    (∃ error p', p.write e body = (.error error, p') ∧ Wrote e [] p p') := by
  rw [write]
  rcases p.transmit_cases e ((p.framer e).codec.frame body) with
    ⟨p', hsent, hwrote⟩ | ⟨error, p', hsent, hwrote⟩
  · rw [hsent]
    exact .inl ⟨_, rfl, hwrote.countFramer _⟩
  · rw [hsent]
    exact .inr ⟨_, _, rfl, hwrote.countFramer _⟩

/-! ### The sender -/

/-- A sender has at most sent again what is outstanding, given it up or heard
that it arrived. -/
structure Resends (e : End) (p p' : Pair) : Prop where
  keeps : Keeps e p p'
  lastSeq : (p'.framer e).lastSeq = (p.framer e).lastSeq
  heard : ∃ reports : List Delivery, p'.heard = p.heard ++ reports.map (.report e)
  outstanding : ∀ o', (p'.framer e).outstanding = some o' → ∃ o,
    (p.framer e).outstanding = some o ∧ o'.seq = o.seq ∧ o'.wire = o.wire ∧ o'.packet = o.packet
  inbox : ∃ sent, p'.inbox e.other = p.inbox e.other ++ sent ∧
    ∀ bytes ∈ sent, ∃ o, (p.framer e).outstanding = some o ∧ bytes = o.wire

theorem Resends.trans (h : Resends e p p') (h' : Resends e p' p'') : Resends e p p'' where
  keeps := h.keeps.trans h'.keeps
  lastSeq := h'.lastSeq.trans h.lastSeq
  heard := by
    obtain ⟨reports, hheard⟩ := h.heard
    obtain ⟨reports', hheard'⟩ := h'.heard
    exact ⟨reports ++ reports', by rw [hheard', hheard, List.map_append, List.append_assoc]⟩
  outstanding := by
    intro o'' ho''
    obtain ⟨o', ho', hseq', hwire', hpacket'⟩ := h'.outstanding o'' ho''
    obtain ⟨o, ho, hseq, hwire, hpacket⟩ := h.outstanding o' ho'
    exact ⟨o, ho, hseq'.trans hseq, hwire'.trans hwire, hpacket'.trans hpacket⟩
  inbox := by
    obtain ⟨sent, hsent, hcopies⟩ := h.inbox
    obtain ⟨sent', hsent', hcopies'⟩ := h'.inbox
    refine ⟨sent ++ sent', by rw [hsent', hsent, List.append_assoc], ?_⟩
    intro bytes hmem
    rcases List.mem_append.mp hmem with hmem | hmem
    · exact hcopies bytes hmem
    · obtain ⟨o', ho', rfl⟩ := hcopies' bytes hmem
      obtain ⟨o, ho, -, hwire, -⟩ := h.outstanding o' ho'
      exact ⟨o, ho, hwire⟩

/-- What is awaited may be forgotten, and the time and the tries of it may
change. -/
theorem resends_setOutstanding {awaited : Option Frame.Outstanding} (stats : Stats)
    (h : ∀ o', awaited = some o' → ∃ o, (p.framer e).outstanding = some o ∧
      o'.seq = o.seq ∧ o'.wire = o.wire ∧ o'.packet = o.packet) :
    Resends e p (p.setFramer e { p.framer e with outstanding := awaited, stats }) where
  keeps := .setFramer rfl rfl rfl
  lastSeq := by rw [framer_setFramer]
  heard := ⟨[], (List.append_nil _).symm⟩
  outstanding := by
    rw [framer_setFramer]
    exact h
  inbox := ⟨[], (List.append_nil _).symm, by simp⟩

/-- The end has done nothing that the other one or the application notices. -/
theorem Keeps.resends (h : Keeps e p p')
    (houtstanding : (p'.framer e).outstanding = (p.framer e).outstanding)
    (hlastSeq : (p'.framer e).lastSeq = (p.framer e).lastSeq) (hheard : p'.heard = p.heard)
    (hinbox : p'.inbox e.other = p.inbox e.other) : Resends e p p' where
  keeps := h
  lastSeq := hlastSeq
  heard := ⟨[], by rw [hheard, List.map_nil, List.append_nil]⟩
  outstanding := by
    rw [houtstanding]
    exact fun o ho => ⟨o, ho, rfl, rfl, rfl⟩
  inbox := ⟨[], by rw [hinbox, List.append_nil], by simp⟩

theorem Resends.refl (e : End) (p : Pair) : Resends e p p :=
  (Keeps.refl e p).resends rfl rfl rfl rfl

theorem resends_setFramer {f : Framer Ref} (h : Keeps e p (p.setFramer e f))
    (houtstanding : f.outstanding = (p.framer e).outstanding)
    (hlastSeq : f.lastSeq = (p.framer e).lastSeq) : Resends e p (p.setFramer e f) := by
  refine h.resends ?_ ?_ rfl rfl
  · rw [framer_setFramer, houtstanding]
  · rw [framer_setFramer, hlastSeq]

theorem resends_countChannel (event : Traffic) : Resends e p (p.countChannel e event) :=
  (Keeps.countChannel event).resends rfl rfl rfl rfl

theorem Resends.report (delivery : Delivery) : Resends e p (p.hear (.report e delivery)) where
  keeps := .hear _
  lastSeq := rfl
  heard := ⟨[delivery], rfl⟩
  outstanding o ho := ⟨o, ho, rfl, rfl, rfl⟩
  inbox := ⟨[], (List.append_nil _).symm, by simp⟩

theorem Wrote.resends {sent : List Bytes} (h : Wrote e sent p p')
    (hsent : ∀ bytes ∈ sent, ∃ o, (p.framer e).outstanding = some o ∧ bytes = o.wire) :
    Resends e p p' := by
  obtain ⟨lastRx, stats, hframer⟩ := h.framer
  refine ⟨h.keeps, by rw [hframer], ⟨[], by rw [h.heard, List.map_nil, List.append_nil]⟩, ?_,
    sent, h.inbox, hsent⟩
  rw [hframer]
  exact fun o ho => ⟨o, ho, rfl, rfl, rfl⟩

theorem resends_transmit {o : Frame.Outstanding} (ho : (p.framer e).outstanding = some o) :
    Resends e p (p.transmit e o.wire).2 := by
  rcases p.transmit_cases e o.wire with ⟨p', hsent, hwrote⟩ | ⟨error, p', hsent, hwrote⟩
  · rw [hsent]
    exact hwrote.resends fun bytes hmem => ⟨o, ho, List.mem_singleton.mp hmem⟩
  · rw [hsent]
    exact hwrote.resends (by simp)

theorem resends_settle (seq : UInt8) : Resends e p (p.settle e seq) := by
  rw [settle]
  rcases (p.framer e).acknowledge_cases seq with ⟨o, -, -, hsettled⟩ | ⟨-, hsettled⟩
  · have hforgets : Resends e p (p.setFramer e { p.framer e with outstanding := none }) :=
      resends_setOutstanding (p.framer e).stats (by simp)
    rw [hsettled]
    exact hforgets.trans (.report _)
  · rw [hsettled]
    simp only
    rw [setFramer_self]
    exact .refl e p

theorem resends_retry : Resends e p (p.retry e) := by
  rw [retry]
  rcases (p.framer e).expireOutstanding_cases p.now with
    ⟨-, hexpiry⟩ | ⟨o, ho, -, -, hexpiry⟩ | ⟨o, ho, -, -, hexpiry⟩
  · rw [hexpiry]
    simp only
    rw [setFramer_self]
    exact .refl e p
  · let again : Frame.Outstanding := { o with retries := o.retries + 1, sentAt := p.now }
    have hagain : Resends e p (p.setFramer e { p.framer e with
        outstanding := some again, stats := (p.framer e).stats.count .txRetry }) := by
      refine resends_setOutstanding _ ?_
      rintro o' ⟨⟩
      exact ⟨o, ho, rfl, rfl, rfl⟩
    rw [hexpiry]
    exact hagain.trans (resends_transmit (o := again) (by rw [framer_setFramer]))
  · have hforgets : Resends e p (p.setFramer e { p.framer e with
        outstanding := none, stats := (p.framer e).stats.count .txDropped }) :=
      resends_setOutstanding _ (by simp)
    rw [hexpiry]
    exact hforgets.trans (.report _)

def ackPacket (seq : UInt8) : Packet := { tag := Tag.frame, payload := [opAck, seq] }

theorem resends_arrive (seq : UInt8) :
    Resends e (p.setInbox e (p.inbox e).tail) (p.arrive e (ackPacket seq)) := by
  have hread : Control.read (ackPacket seq).payload = .ack seq := rfl
  rw [arrive, recv, take, if_pos (show Tag.fold (ackPacket seq).tag = Tag.frame from rfl), control,
    hread]
  exact (resends_setFramer (keeps_lastRx p.now) rfl rfl).trans
    ((resends_settle seq).trans (resends_retry.trans (resends_countChannel _)))

/-! ### The receiver -/

theorem retry_of_idle (h : (p.framer e).outstanding = none) : p.retry e = p := by
  rw [retry, Framer.expireOutstanding, h]
  exact setFramer_self

def dataPacket (seq : UInt8) (packet : Bytes) : Packet :=
  { tag := Tag.frame, payload := opData :: seq :: packet }

structure Accepts (e : End) (seq : UInt8) (packet : Bytes) (p p' : Pair) : Prop where
  keeps : Keeps e p p'
  lastSeq : (p'.framer e).lastSeq = some (seq, p.now)
  outstanding : (p'.framer e).outstanding = none
  heard : p'.heard = p.heard ++
    if (p.framer e).isRepeat p.now seq then [] else [.packet e packet]
  inbox : ∃ sent, p'.inbox e.other = p.inbox e.other ++ sent ∧
    ∀ bytes ∈ sent, bytes = (p.framer e).codec.frame (ackBody seq)

theorem accepts_accept (hidle : (p.framer e).outstanding = none) (seq : UInt8) (packet : Bytes) :
    Accepts e seq packet p (p.accept e seq packet) := by
  rw [accept]
  split
  · rename_i hcopy
    refine ⟨(keeps_lastSeq _).trans (.countFramer _), ?_, ?_, ?_, [],
      (List.append_nil _).symm, by simp⟩
    · rw [countFramer, framer_setFramer, framer_setFramer]
      rfl
    · rw [countFramer, framer_setFramer, framer_setFramer]
      exact hidle
    · rw [if_pos hcopy]
      exact (List.append_nil _).symm
  · rename_i hnew
    refine ⟨(keeps_lastSeq _).trans (keeps_deliver _), ?_, ?_, ?_, [],
      (List.append_nil _).symm, by simp⟩
    · rw [deliver, hear, countFramer, framer_setFramer, framer_setFramer]
      rfl
    · rw [deliver, hear, countFramer, framer_setFramer, framer_setFramer]
      exact hidle
    · rw [if_neg hnew]
      rfl

theorem Wrote.accepts {seq : UInt8} {packet : Bytes} {sent : List Bytes}
    (hwrote : Wrote e sent p p')
    (hsent : ∀ bytes ∈ sent, bytes = (p.framer e).codec.frame (ackBody seq))
    (h : Accepts e seq packet p' p'') : Accepts e seq packet p p'' := by
  obtain ⟨lastRx, stats, hframer⟩ := hwrote.framer
  refine ⟨hwrote.keeps.trans h.keeps, ?_, h.outstanding, ?_, ?_⟩
  · rw [h.lastSeq, hwrote.keeps.now]
  · rw [h.heard, hwrote.heard, hwrote.keeps.now, hframer]
    rfl
  · obtain ⟨sent', hinbox, hsent'⟩ := h.inbox
    refine ⟨sent ++ sent', by rw [hinbox, hwrote.inbox, List.append_assoc], ?_⟩
    intro bytes hmem
    rcases List.mem_append.mp hmem with hmem | hmem
    · exact hsent bytes hmem
    · rw [hsent' bytes hmem, hwrote.keeps.codec]

theorem wrote_lastRx (lastRx : Tick) : Wrote e [] p (p.setFramer e { p.framer e with lastRx }) :=
  ⟨keeps_lastRx lastRx, ⟨_, _, framer_setFramer _⟩, rfl, (List.append_nil _).symm⟩

theorem accepts_write (hidle : (p.framer e).outstanding = none) (seq : UInt8) (packet : Bytes) :
    Accepts e seq packet p ((p.write e (ackBody seq)).2.accept e seq packet) := by
  rcases p.write_cases e (ackBody seq) with ⟨p', hwrite, hwrote⟩ | ⟨error, p', hwrite, hwrote⟩
  · obtain ⟨lastRx, stats, hframer⟩ := hwrote.framer
    have hidle' : (p'.framer e).outstanding = none := by rw [hframer, hidle]
    rw [hwrite]
    exact hwrote.accepts (fun bytes hmem => List.mem_singleton.mp hmem)
      (accepts_accept hidle' seq packet)
  · obtain ⟨lastRx, stats, hframer⟩ := hwrote.framer
    have hidle' : (p'.framer e).outstanding = none := by rw [hframer, hidle]
    rw [hwrite]
    exact hwrote.accepts (by simp) (accepts_accept hidle' seq packet)

theorem accepts_arrive (hidle : (p.framer e).outstanding = none) (seq : UInt8) {packet : Bytes}
    (hpacket : packet ≠ []) :
    Accepts e seq packet (p.setInbox e (p.inbox e).tail) (p.arrive e (dataPacket seq packet)) := by
  have hread : Control.read (dataPacket seq packet).payload = .data seq packet := by
    simp [dataPacket, Control.read, hpacket]
  have hdata : Tag.fold (dataPacket seq packet).tag = Tag.frame := rfl
  rw [arrive, recv, take, if_pos hdata, control, hread]
  generalize hq : (p.setInbox e (p.inbox e).tail).setFramer e _ = q
  have hidle' : (q.framer e).outstanding = none := by
    rw [← hq, framer_setFramer]
    exact hidle
  have hreceived : Wrote e [] (p.setInbox e (p.inbox e).tail) q := hq ▸ wrote_lastRx _
  have h := hreceived.accepts (by simp) (accepts_write hidle' seq packet)
  simp only
  rw [retry_of_idle h.outstanding]
  exact ⟨h.keeps.trans (.countChannel _), h.lastSeq, h.outstanding, h.heard, h.inbox⟩

/-! ### Sending -/

/-- A sender has sent a new packet, which it awaits from now on. -/
structure Sends (e : End) (seq : UInt8) (packet : Bytes) (p p' : Pair) : Prop where
  keeps : Keeps e p p'
  nonempty : packet ≠ []
  fits : (dataBody seq packet).length ≤ (p.framer e).bodyLimit
  lastSeq : (p'.framer e).lastSeq = (p.framer e).lastSeq
  nextSeq : (p.framer e).nextSeq = seq ∧ (p'.framer e).nextSeq = seq + 1
  heard : p'.heard = p.heard
  outstanding : ∃ o, (p'.framer e).outstanding = some o ∧ o.seq = seq ∧ o.packet = packet ∧
    o.wire = (p.framer e).codec.frame (dataBody seq packet) ∧ o.sentAt = p.now
  inbox : p'.inbox e.other = p.inbox e.other ++ [(p.framer e).codec.frame (dataBody seq packet)]

/-- A packet was not sent. Its number may be used up all the same. -/
structure Fails (e : End) (p p' : Pair) : Prop where
  keeps : Keeps e p p'
  lastSeq : (p'.framer e).lastSeq = (p.framer e).lastSeq
  nextSeq : (p'.framer e).nextSeq = (p.framer e).nextSeq ∨
    (p'.framer e).nextSeq = (p.framer e).nextSeq + 1
  outstanding : (p'.framer e).outstanding = (p.framer e).outstanding
  heard : p'.heard = p.heard
  inbox : p'.inbox e.other = p.inbox e.other

theorem Fails.resends (h : Fails e p p') : Resends e p p' :=
  h.keeps.resends h.outstanding h.lastSeq h.heard h.inbox

theorem sendConfirmed_cases (p : Pair) (e : End) (packet : Bytes) :
    Fails e p (p.sendConfirmed e packet).2 ∨
    ∃ seq, Sends e seq packet p (p.sendConfirmed e packet).2 := by
  have hrefused : Fails e p p := ⟨.refl e p, rfl, .inl rfl, rfl, rfl, rfl⟩
  rw [sendConfirmed]
  cases hcheck : (p.framer e).checkSize packet.length Frame.controlHeader with
  | error error => exact .inl hrefused
  | ok _ =>
      obtain ⟨hpacket, hsize⟩ := Framer.checkSize_eq_ok hcheck
      by_cases hbusy : (p.framer e).outstanding.isSome
      · simp only [if_pos hbusy]
        exact .inl hrefused
      · simp only [if_neg hbusy]
        generalize hq : p.setFramer e _ = q
        have hnext : Keeps e p q := hq ▸ .setFramer rfl rfl rfl
        have hframer : q.framer e = { p.framer e with nextSeq := (p.framer e).nextSeq + 1 } :=
          hq ▸ framer_setFramer _
        rcases q.write_cases e (dataBody (p.framer e).nextSeq packet) with
          ⟨p', hwrite, hwrote⟩ | ⟨error, p', hwrite, hwrote⟩
        · rw [hwrite]
          refine .inr ⟨(p.framer e).nextSeq, ?_⟩
          obtain ⟨lastRx, stats, hframer'⟩ := hwrote.framer
          refine ⟨hnext.trans (hwrote.keeps.trans (.setFramer rfl rfl rfl)), ?_, hsize, ?_,
            ⟨rfl, ?_⟩, ?_, ?_, ?_⟩
          · exact fun hnil => hpacket (congrArg List.length hnil)
          · rw [framer_setFramer, hframer', hframer]
          · rw [framer_setFramer, hframer', hframer]
          · show p'.heard = _
            rw [hwrote.heard, ← hq]
            rfl
          · rw [framer_setFramer, ← hnext.codec]
            exact ⟨_, rfl, rfl, rfl, rfl, hwrote.keeps.now.trans hnext.now⟩
          · show p'.inbox e.other = _
            rw [hwrote.inbox, hnext.codec, ← hq]
            rfl
        · -- a write that fails uses up the number all the same
          rw [hwrite]
          obtain ⟨lastRx, stats, hframer'⟩ := hwrote.framer
          refine .inl ⟨hnext.trans hwrote.keeps, ?_, .inr ?_, ?_, ?_, ?_⟩
          · rw [hframer', hframer]
          · rw [hframer', hframer]
          · rw [hframer', hframer]
          · rw [hwrote.heard, ← hq]
            rfl
          · rw [hwrote.inbox, ← hq]
            exact List.append_nil _

/-! ### Copies -/

end Pair

/-- A copy of a confirmed packet: its number and the packet. -/
abbrev Copy := UInt8 × Bytes

/-- A copy of a packet that was copied before stands right behind such a copy. -/
def Contiguous (copies : List Copy) : Prop :=
  ∀ before c after, copies = before ++ c :: after → c.2 ∈ before.map Prod.snd →
    before.getLast? = some c

theorem Contiguous.concat {copies : List Copy} (h : Contiguous copies) {c : Copy}
    (hc : c.2 ∈ copies.map Prod.snd → copies.getLast? = some c) : Contiguous (copies ++ [c]) := by
  intro before c' after heq hmem
  rcases List.eq_nil_or_concat after with rfl | ⟨after, last, rfl⟩
  · obtain ⟨rfl, hlast⟩ := List.append_inj' heq rfl
    obtain rfl : c = c' := by simpa using hlast
    exact hc hmem
  · rw [List.concat_eq_append, ← List.cons_append, ← List.append_assoc] at heq
    obtain ⟨rfl, -⟩ := List.append_inj' heq rfl
    exact h before c' after rfl hmem

theorem Contiguous.append_replicate {copies : List Copy} (h : Contiguous copies) {c : Copy}
    (hlast : copies.getLast? = some c) (count : Nat) :
    Contiguous (copies ++ List.replicate count c) ∧
      (copies ++ List.replicate count c).getLast? = some c := by
  induction count with
  | zero => simpa using ⟨h, hlast⟩
  | succ count ih =>
      rw [List.replicate_succ', ← List.append_assoc]
      exact ⟨ih.1.concat fun _ => ih.2, by simp⟩

/-- What the application above the far end has been handed. -/
def handed (heard : List Heard) : List Bytes :=
  heard.filterMap fun event => match event with
    | .packet .far bytes => some bytes
    | _ => none

theorem handed_append (heard heard' : List Heard) :
    handed (heard ++ heard') = handed heard ++ handed heard' :=
  List.filterMap_append

theorem handed_reports (e : End) (reports : List Delivery) :
    handed (reports.map (.report e)) = [] := by
  induction reports with
  | nil => rfl
  | cons report reports ih => exact ih

/-- The wire bytes of a copy, and of the acknowledgement of a number. -/
def dataWire (config : Frame.Config) (c : Copy) : Bytes :=
  (Codec.ofConfig config).frame (dataBody c.1 c.2)

def ackWire (config : Frame.Config) (seq : UInt8) : Bytes :=
  (Codec.ofConfig config).frame (ackBody seq)

/-- What holds of a pair in all runs in which the near end sends confirmed
packets out of `sent`: the copies `taken` have reached the far end, the copies
`pending` and the acknowledgements `acks` are on their way. -/
structure Flow (config : Frame.Config) (sent : List Bytes) (taken pending : List Copy)
    (acks : List UInt8) (p : Pair) : Prop where
  wired : p.Wired
  settings : ∀ e, (p.framer e).config = config
  idle : (p.framer .far).outstanding = none
  toFar : p.inbox .far = pending.map (dataWire config)
  toNear : p.inbox .near = acks.map (ackWire config)
  nonempty : ∀ c ∈ taken ++ pending, c.2 ≠ []
  fits : ∀ c ∈ taken ++ pending, (dataBody c.1 c.2).length ≤ (Codec.ofConfig config).maxSize
  contiguous : Contiguous (taken ++ pending)
  awaited : ∀ o, (p.framer .near).outstanding = some o →
    (taken ++ pending).getLast? = some (o.seq, o.packet) ∧ o.wire = dataWire config (o.seq, o.packet)
  last : (p.framer .far).lastSeq.map Prod.fst = taken.getLast?.map Prod.fst
  received : ∀ packet ∈ handed p.heard, packet ∈ taken.map Prod.snd
  known : ∀ c ∈ taken ++ pending, c.2 ∈ sent

namespace Flow

variable {config : Frame.Config} {sent : List Bytes} {taken pending : List Copy}
  {acks : List UInt8} {p p' : Pair}

theorem codec (h : Flow config sent taken pending acks p) (e : End) :
    (p.framer e).codec = Codec.ofConfig config := by
  rw [Framer.codec, h.settings]

theorem settings_of_keeps (h : Flow config sent taken pending acks p) {e : End}
    (hkeeps : Pair.Keeps e p p') (e' : End) : (p'.framer e').config = config := by
  rcases e'.eq_or_eq_other e with rfl | rfl
  · rw [hkeeps.config, h.settings]
  · rw [hkeeps.otherFramer, h.settings]

/-- What the near end sends again are copies of the last packet. -/
theorem exists_copies (h : Flow config sent taken pending acks p) {written : List Bytes}
    (hcopies : ∀ bytes ∈ written, ∃ o, (p.framer .near).outstanding = some o ∧ bytes = o.wire) :
    ∃ more, written = more.map (dataWire config) ∧ Contiguous (taken ++ pending ++ more) ∧
      (∀ c ∈ more, c ∈ taken ++ pending) ∧
      ∀ c, (taken ++ pending).getLast? = some c → (taken ++ pending ++ more).getLast? = some c := by
  cases ho : (p.framer .near).outstanding with
  | none =>
      have hnil : written = [] := by
        refine List.eq_nil_iff_forall_not_mem.mpr fun bytes hmem => ?_
        obtain ⟨o, ho', -⟩ := hcopies bytes hmem
        simp [ho] at ho'
      exact ⟨[], hnil, by simpa using h.contiguous, by simp, by simp⟩
  | some o =>
      obtain ⟨hlast, hwire⟩ := h.awaited o ho
      -- only what is outstanding is ever sent again
      have hsame : written = List.replicate written.length o.wire := by
        refine List.eq_replicate_of_mem fun bytes hmem => ?_
        obtain ⟨o', ho', rfl⟩ := hcopies bytes hmem
        rw [ho] at ho'
        obtain ⟨⟩ := ho'
        rfl
      have hrepeated := h.contiguous.append_replicate hlast written.length
      refine ⟨List.replicate written.length (o.seq, o.packet), ?_, hrepeated.1, ?_, ?_⟩
      · rw [List.map_replicate, ← hwire]
        exact hsame
      · intro c hmem
        rw [List.eq_of_mem_replicate hmem]
        exact List.mem_of_getLast? hlast
      · intro c hc
        rw [hrepeated.2, ← hlast, hc]

theorem resends (h : Flow config sent taken pending acks p) (hresends : Pair.Resends .near p p') :
    ∃ more, Flow config sent taken (pending ++ more) acks p' ∧
      handed p'.heard = handed p.heard ∧ ∀ c ∈ more, c ∈ taken ++ pending := by
  have hkeeps := hresends.keeps
  obtain ⟨reports, hheard⟩ := hresends.heard
  obtain ⟨written, hwritten, hcopies⟩ := hresends.inbox
  obtain ⟨more, hmore, hcontiguous, hmem, hlast⟩ := h.exists_copies hcopies
  have hhanded : handed p'.heard = handed p.heard := by
    rw [hheard, handed_append, handed_reports, List.append_nil]
  have hfar : p'.framer .far = p.framer .far := hkeeps.otherFramer
  have hall (c : Copy) (hc : c ∈ taken ++ (pending ++ more)) : c ∈ taken ++ pending := by
    rw [← List.append_assoc] at hc
    exact (List.mem_append.mp hc).elim id (hmem c)
  refine ⟨more, ?_, hhanded, hmem⟩
  exact {
    wired := h.wired.of_keeps hkeeps
    settings := h.settings_of_keeps hkeeps
    idle := by rw [hfar, h.idle]
    toFar := by rw [List.map_append, ← hmore, ← h.toFar]; exact hwritten
    toNear := by rw [hkeeps.inbox, h.toNear]
    nonempty := fun c hc => h.nonempty c (hall c hc)
    fits := fun c hc => h.fits c (hall c hc)
    contiguous := by rwa [← List.append_assoc]
    awaited := by
      intro o' ho'
      obtain ⟨o, ho, hseq, hwire, hpacket⟩ := hresends.outstanding o' ho'
      rw [← List.append_assoc, hseq, hwire, hpacket]
      exact ⟨hlast _ (h.awaited o ho).1, (h.awaited o ho).2⟩
    last := by rw [hfar, h.last]
    received := by
      rw [hhanded]
      exact h.received
    known := fun c hc => h.known c (hall c hc) }

/-- The near end sends a packet that it has not sent before. -/
theorem sends (h : Flow config sent taken pending acks p) {seq : UInt8} {packet : Bytes}
    (hnew : packet ∉ sent) (hsends : Pair.Sends .near seq packet p p') :
    Flow config (packet :: sent) taken (pending ++ [(seq, packet)]) acks p' := by
  have hkeeps := hsends.keeps
  have hfar : p'.framer .far = p.framer .far := hkeeps.otherFramer
  have hall (c : Copy) (hc : c ∈ taken ++ (pending ++ [(seq, packet)])) :
      c ∈ taken ++ pending ∨ c = (seq, packet) := by
    rw [← List.append_assoc] at hc
    exact (List.mem_append.mp hc).imp_right List.mem_singleton.mp
  -- so that its first copy need not stand behind another one
  have hfresh : packet ∉ (taken ++ pending).map Prod.snd := by
    intro hmem
    obtain ⟨c, hc, rfl⟩ := List.mem_map.mp hmem
    exact hnew (h.known c hc)
  have hcodec := h.codec .near
  exact {
    wired := h.wired.of_keeps hkeeps
    settings := h.settings_of_keeps hkeeps
    idle := by rw [hfar, h.idle]
    toFar := by
      rw [List.map_append, ← h.toFar]
      exact hsends.inbox.trans (by rw [hcodec]; rfl)
    toNear := by rw [hkeeps.inbox, h.toNear]
    nonempty := by
      intro c hc
      rcases hall c hc with hc | rfl
      · exact h.nonempty c hc
      · exact hsends.nonempty
    fits := by
      intro c hc
      rcases hall c hc with hc | rfl
      · exact h.fits c hc
      · rw [← hcodec]
        exact hsends.fits
    contiguous := by
      rw [← List.append_assoc]
      exact h.contiguous.concat fun hmem => absurd hmem hfresh
    awaited := by
      intro o ho
      obtain ⟨o', ho', hseq, hpacket, hwire, -⟩ := hsends.outstanding
      rw [ho] at ho'
      obtain ⟨⟩ := ho'
      rw [hwire, hseq, hpacket, hcodec, ← List.append_assoc]
      exact ⟨by simp, rfl⟩
    last := by rw [hfar, h.last]
    received := by
      rw [hsends.heard]
      exact h.received
    known := by
      intro c hc
      rcases hall c hc with hc | rfl
      · exact List.mem_cons_of_mem _ (h.known c hc)
      · exact List.mem_cons_self }

theorem accepts {c : Copy} (h : Flow config sent taken (c :: pending) acks p)
    (haccepts : Pair.Accepts .far c.1 c.2 (p.setInbox .far (p.inbox .far).tail) p') :
    ∃ more, Flow config sent (taken ++ [c]) pending (acks ++ more) p' ∧
      handed p'.heard =
        handed p.heard ++ (if (p.framer .far).isRepeat p.now c.1 then [] else [c.2]) ∧
      ∀ seq ∈ more, seq = c.1 := by
  have hkeeps := haccepts.keeps
  have hnear : p'.framer .near = p.framer .near := hkeeps.otherFramer
  have hpopped := h.wired.setInbox (e := .far) (p.inbox .far).tail
  obtain ⟨written, hwritten, hacks⟩ := haccepts.inbox
  have hhanded : handed p'.heard =
      handed p.heard ++ if (p.framer .far).isRepeat p.now c.1 then [] else [c.2] := by
    rw [haccepts.heard, handed_append]
    congr 1
    show handed (if (p.framer .far).isRepeat p.now c.1 then _ else _) = _
    split <;> rfl
  have hmore : written = (written.map fun _ => c.1).map (ackWire config) := by
    have hack (bytes : Bytes) (hmem : bytes ∈ written) : id bytes = ackWire config c.1 := by
      rw [id, ackWire, hacks bytes hmem, ← h.codec .far]
      rfl
    calc written = written.map id := (List.map_id written).symm
      _ = written.map fun _ => ackWire config c.1 := List.map_congr_left hack
      _ = (written.map fun _ => c.1).map (ackWire config) := by
        rw [List.map_map]
        rfl
  have hall : taken ++ [c] ++ pending = taken ++ c :: pending := by simp
  refine ⟨written.map fun _ => c.1, ?_, hhanded, by simp⟩
  exact {
    wired := hpopped.of_keeps hkeeps
    settings := by
      intro e
      rcases e.eq_or_eq_other .far with rfl | rfl
      · rw [hkeeps.config]
        exact h.settings .far
      · rw [hkeeps.otherFramer]
        exact h.settings .near
    idle := haccepts.outstanding
    toFar := by
      rw [hkeeps.inbox, Pair.inbox_setInbox, h.toFar]
      rfl
    toNear := by
      rw [List.map_append, ← hmore, ← h.toNear]
      exact hwritten
    nonempty := by rw [hall]; exact h.nonempty
    fits := by rw [hall]; exact h.fits
    contiguous := by rw [hall]; exact h.contiguous
    awaited := by rw [hall, hnear]; exact h.awaited
    last := by simp [haccepts.lastSeq]
    received := by
      intro packet hmem
      rw [hhanded] at hmem
      rw [List.map_append]
      rcases List.mem_append.mp hmem with hmem | hmem
      · exact List.mem_append_left _ (h.received packet hmem)
      · split at hmem
        · simp at hmem
        · exact List.mem_append_right _ hmem
    known := by rw [hall]; exact h.known }

theorem pop {seq : UInt8} (h : Flow config sent taken pending (seq :: acks) p) :
    Flow config sent taken pending acks (p.setInbox .near (p.inbox .near).tail) where
  wired := h.wired.setInbox _
  settings := h.settings
  idle := h.idle
  toFar := (Pair.inbox_setInbox_other (e := .far) _).trans h.toFar
  toNear := by
    rw [Pair.inbox_setInbox, h.toNear]
    rfl
  nonempty := h.nonempty
  fits := h.fits
  contiguous := h.contiguous
  awaited := h.awaited
  last := h.last
  received := h.received
  known := h.known

theorem poll_near (h : Flow config sent taken pending acks p) :
    ∃ more, Flow config sent taken (pending ++ more) []
        (p.arriveAll .near (acks.map Pair.ackPacket)) ∧
      handed (p.arriveAll .near (acks.map Pair.ackPacket)).heard = handed p.heard ∧
      ∀ c ∈ more, c ∈ taken ++ pending := by
  induction acks generalizing pending p with
  | nil => exact ⟨[], by rwa [List.append_nil], rfl, by simp⟩
  | cons seq acks ih =>
      obtain ⟨more, hflow, hhanded, hcopies⟩ := h.pop.resends (Pair.resends_arrive seq)
      obtain ⟨more', hflow', hhanded', hcopies'⟩ := ih hflow
      refine ⟨more ++ more', by rwa [← List.append_assoc], hhanded'.trans hhanded, ?_⟩
      intro c hc
      rcases List.mem_append.mp hc with hc | hc
      · exact hcopies c hc
      · have hc := hcopies' c hc
        rw [← List.append_assoc] at hc
        exact (List.mem_append.mp hc).elim id (hcopies c)

theorem advance (h : Flow config sent taken pending acks p) (ticks : Tick) :
    ∃ more, Flow config sent taken (pending ++ more) acks (p.advance ticks) ∧
      handed (p.advance ticks).heard = handed p.heard ∧
      ∀ c ∈ more, c ∈ taken ++ pending := by
  have hmoved : Flow config sent taken pending acks { p with now := p.now + ticks } :=
    { h with wired := ⟨h.wired.framer, h.wired.channel, h.wired.buffer⟩ }
  obtain ⟨more, hflow, hhanded, hcopies⟩ := hmoved.resends Pair.resends_retry
  refine ⟨more, ?_⟩
  rw [Pair.advance, Pair.retry_of_idle hflow.idle]
  exact ⟨hflow, hhanded, hcopies⟩

theorem send (h : Flow config sent taken pending acks p) {packet : Bytes} (hnew : packet ∉ sent) :
    ∃ more, Flow config (packet :: sent) taken (pending ++ more) acks
        (p.sendConfirmed .near packet).2 ∧
      handed (p.sendConfirmed .near packet).2.heard = handed p.heard := by
  rcases p.sendConfirmed_cases .near packet with hfails | ⟨seq, hsends⟩
  · obtain ⟨more, hflow, hhanded, -⟩ := h.resends hfails.resends
    exact ⟨more, { hflow with known := fun c hc => List.mem_cons_of_mem _ (hflow.known c hc) },
      hhanded⟩
  · exact ⟨[(seq, packet)], h.sends hnew hsends, by rw [hsends.heard]⟩

end Flow
end LinkStack
