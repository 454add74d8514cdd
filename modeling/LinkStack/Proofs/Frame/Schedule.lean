import Mathlib.Data.List.Chain
import Mathlib.Data.List.Induction
import LinkStack.Proofs.Frame.Ledger

/-!
When a confirmed packet is sent again, and when it is given up.

The clock has 32 bits and wraps. Here ticks are counted without a bound, and the clock
shows what is left of their number; the difference of two readings is never more than
the ticks that passed between them, so a packet for which the retry timer acts has
waited for its time (`add_le_of_due`), wherever the clock stood when it was sent.

A run is told in `Turn`s, one for each operation. `Paced` is what a single entry of the
book preserves of the times at which a packet was sent, and `Course` is what becomes of
it within one turn.
-/

namespace LinkStack.Frame

/-! ### Ticks -/

theorem toNat_since_ofNat {earlier time : Nat} (h : earlier ≤ time) :
    (Tick.since (UInt32.ofNat time) (UInt32.ofNat earlier)).toNat = (time - earlier) % 2 ^ 32 := by
  rw [Tick.since, UInt32.toNat_sub, UInt32.toNat_ofNat', UInt32.toNat_ofNat']
  omega

/-- What is due has waited at least as long. -/
theorem add_le_of_due {timeout : Tick} {earlier time : Nat} (h : earlier ≤ time)
    (hdue : timeout ≤ Tick.since (UInt32.ofNat time) (UInt32.ofNat earlier)) :
    earlier + timeout.toNat ≤ time := by
  have hticks := UInt32.le_iff_toNat_le.mp hdue
  rw [toNat_since_ofNat h] at hticks
  have := Nat.mod_le (time - earlier) (2 ^ 32)
  omega

theorem since_add (now ticks : Tick) : (now + ticks).since now = ticks := by
  rw [Tick.since, UInt32.add_comm, UInt32.add_sub_cancel]

theorem ofNat_add_ticks (time : Nat) (ticks : Tick) :
    UInt32.ofNat (time + ticks.toNat) = UInt32.ofNat time + ticks := by
  rw [UInt32.ofNat_add, UInt32.ofNat_toNat]

/-! ### Runs in time -/

/-- One operation of a run: the ticks that had passed when it was done, and what was
noted of it. -/
structure Turn where
  time : Nat
  op : Op
  events : List Event

/-- Whether the clock moves. -/
def Op.isAdvance : Op → Bool
  | .advance _ => true
  | _ => false

/-- The turns of a run that begins when a number of ticks have passed. -/
def chronicle {E : Type} (c : Company E) : List Op → Nat → Stage E → List Turn
  | [], _, _ => []
  | op :: ops, time, s =>
    { time := time + op.ticks.toNat, op
      events := (op.act c s).2.trace.drop s.trace.length } ::
      chronicle c ops (time + op.ticks.toNat) (op.act c s).2

/-- The events of some turns, each with the ticks that had passed. -/
def stamped (turns : List Turn) : List (Nat × Event) :=
  turns.flatMap fun turn => turn.events.map (turn.time, ·)

/-- When something was sent again. -/
def resentAt (config : Config) (log : List (Nat × Event)) : List Nat :=
  log.filterMap fun entry => (entry.2.resent? config).map fun _ => entry.1

/-- When a packet was sent last that was first sent at a given time. -/
def lastSent (config : Config) (sent : Nat) (log : List (Nat × Event)) : Nat :=
  (resentAt config log).getLastD sent

/-- The write of a frame with a confirmed packet. -/
def Event.written (wire : Bytes) : Event := .contact .confirm .child (.send wire (.ok wire.length))

/-- The retransmissions and the losses among some events. -/
def transitions (config : Config) (events : List Event) : Nat :=
  (resent config events).length + (reports events).countP (·.status = .dropped)

section Logs

variable {config : Config} {log between : List (Nat × Event)} {time sent : Nat} {event : Event}

theorem resentAt_concat_none (h : event.resent? config = none) :
    resentAt config (log ++ [(time, event)]) = resentAt config log := by
  simp [resentAt, h]

theorem resentAt_concat_some {wire : Bytes} (h : event.resent? config = some wire) :
    resentAt config (log ++ [(time, event)]) = resentAt config log ++ [time] := by
  simp [resentAt, h]

end Logs

/-- A packet was accepted at a time, written in a frame, and nothing has been reported
since. -/
def Opened (log : List (Nat × Event)) (sent : Nat) (packet wire : Bytes)
    (between : List (Nat × Event)) : Prop :=
  ∃ earlier event, log = earlier ++ [(sent, .written wire), (sent, event)] ++ between ∧
    event.accepted? = some packet ∧ reports (between.map Prod.snd) = []

theorem Opened.concat {log between : List (Nat × Event)} {entry : Nat × Event} {sent : Nat}
    {packet wire : Bytes} (h : Opened (log ++ [entry]) sent packet wire between) :
    (between = [] ∧ entry.1 = sent ∧ entry.2.accepted? = some packet ∧
      log.getLast? = some (sent, .written wire)) ∨
    ∃ between', between = between' ++ [entry] ∧ Opened log sent packet wire between' ∧
      entry.2.report? = none := by
  obtain ⟨earlier, event, hlog, haccepted, hsilent⟩ := h
  rcases List.eq_nil_or_concat between with rfl | ⟨between', last, rfl⟩
  · -- the packet was accepted with the last entry
    have hsplit : log ++ [entry] = (earlier ++ [(sent, .written wire)]) ++ [(sent, event)] := by
      simpa using hlog
    obtain ⟨rfl, hentry⟩ := List.append_inj' hsplit rfl
    obtain rfl : entry = (sent, event) := by simpa using hentry
    exact .inl ⟨rfl, rfl, haccepted, List.getLast?_concat⟩
  · rw [List.concat_eq_append, ← List.append_assoc] at hlog
    obtain ⟨rfl, hentry⟩ := List.append_inj' hlog rfl
    obtain rfl : entry = last := by simpa using hentry
    rw [List.concat_eq_append, List.map_append, reports_append] at hsilent
    obtain ⟨hbetween, hlast⟩ := List.append_eq_nil_iff.mp hsilent
    refine .inr ⟨between', List.concat_eq_append .., ⟨earlier, event, rfl, haccepted, hbetween⟩, ?_⟩
    simpa using hlast

/-! ### The pace of a packet -/

/-- A packet that is awaited was last sent when the log says, and as often. -/
structure Linked (config : Config) (time sent : Nat) (packet wire : Bytes)
    (between : List (Nat × Event)) (o : Outstanding) : Prop where
  data : acknowledges config o.wire = false
  packet : o.packet = packet
  wire : o.wire = wire
  retries : o.retries.toNat = (resentAt config between).length
  sentAt : o.sentAt = UInt32.ofNat (lastSent config sent between)
  past : lastSent config sent between ≤ time

/-- What an event says about the time of those before it. A packet is written when it is
accepted, sent again only when the last copy has waited for its time, and lost only when
all have. -/
structure Timely (config : Config) (before : List (Nat × Event)) (entry : Nat × Event) :
    Prop where
  written : ∀ packet, entry.2.accepted? = some packet →
    ∃ wire, before.getLast? = some (entry.1, .written wire)
  again : ∀ {sent packet wire between}, Opened before sent packet wire between →
    ∀ bytes, entry.2.resent? config = some bytes → bytes = wire ∧
      (resentAt config between).length < config.maxRetries.toNat ∧
      lastSent config sent between + config.ackTimeout.toNat ≤ entry.1
  lost : ∀ {sent packet wire between}, Opened before sent packet wire between →
    ∀ lost, entry.2.report? = some { status := .dropped, packet := lost } → lost = packet ∧
      config.maxRetries.toNat ≤ (resentAt config between).length ∧
      lastSent config sent between + config.ackTimeout.toNat ≤ entry.1

/-- What holds of the times of a run. -/
structure Paced (config : Config) (time : Nat) (log : List (Nat × Event))
    (awaited : Option Outstanding) : Prop where
  opened : ∀ {sent packet wire between}, Opened log sent packet wire between →
    ∃ o, awaited = some o ∧ Linked config time sent packet wire between o
  timely : ∀ before entry after, log = before ++ entry :: after → Timely config before entry

namespace Linked

variable {config : Config} {time sent : Nat} {packet wire : Bytes}
  {between : List (Nat × Event)} {o : Outstanding} {event : Event}

theorem later (h : Linked config time sent packet wire between o) {time' : Nat}
    (htime : time ≤ time') : Linked config time' sent packet wire between o :=
  { h with past := h.past.trans htime }

theorem due (h : Linked config time sent packet wire between o)
    (hdue : config.ackTimeout ≤ Tick.since (UInt32.ofNat time) o.sentAt) :
    lastSent config sent between + config.ackTimeout.toNat ≤ time :=
  add_le_of_due h.past (h.sentAt ▸ hdue)

theorem concat (h : Linked config time sent packet wire between o)
    (hresent : event.resent? config = none) :
    Linked config time sent packet wire (between ++ [(time, event)]) o := by
  have hlast : lastSent config sent (between ++ [(time, event)]) =
      lastSent config sent between := by
    rw [lastSent, resentAt_concat_none hresent, lastSent]
  refine ⟨h.data, h.packet, h.wire, ?_, ?_, ?_⟩
  · rw [resentAt_concat_none hresent, h.retries]
  · rw [hlast, h.sentAt]
  · rw [hlast]
    exact h.past

theorem again (h : Linked config time sent packet wire between o)
    (hretries : o.retries < config.maxRetries) {bytes : Bytes}
    (hresent : event.resent? config = some bytes) :
    Linked config time sent packet wire (between ++ [(time, event)])
      { o with retries := o.retries + 1, sentAt := UInt32.ofNat time } := by
  have hlast : lastSent config sent (between ++ [(time, event)]) = time := by
    rw [lastSent, resentAt_concat_some hresent, List.getLastD_concat]
  refine ⟨h.data, h.packet, h.wire, ?_, by rw [hlast], hlast.le⟩
  rw [resentAt_concat_some hresent, List.length_append, ← h.retries]
  exact toNat_succ_of_lt hretries

end Linked

namespace Paced

variable {config : Config} {time : Nat} {log : List (Nat × Event)}
  {awaited : Option Outstanding} {event : Event}

theorem nil (config : Config) (time : Nat) : Paced config time [] none where
  opened := by
    rintro sent packet wire between ⟨earlier, event, hlog, -⟩
    simp at hlog
  timely := by simp

theorem later (h : Paced config time log awaited) {time' : Nat} (htime : time ≤ time') :
    Paced config time' log awaited where
  opened hopened := by
    obtain ⟨o, ho, hlinked⟩ := h.opened hopened
    exact ⟨o, ho, hlinked.later htime⟩
  timely := h.timely

/-- An event that is neither an acceptance nor a report, and sends nothing again. -/
theorem concat (h : Paced config time log awaited) (haccepted : event.accepted? = none)
    (hreport : event.report? = none) (hresent : event.resent? config = none) :
    Paced config time (log ++ [(time, event)]) awaited where
  opened hopened := by
    rcases hopened.concat with ⟨-, -, haccepted', -⟩ | ⟨between, rfl, hopened, -⟩
    · simp [haccepted] at haccepted'
    · obtain ⟨o, ho, hlinked⟩ := h.opened hopened
      exact ⟨o, ho, hlinked.concat hresent⟩
  timely := forall_split_concat.mpr
    ⟨h.timely, by simp [haccepted], by simp [hresent], by simp [hreport]⟩

/-- A report about the awaited packet. -/
theorem settled {o : Outstanding} (h : Paced config time log (some o)) {during : Operation}
    {status : DeliveryStatus}
    (hlost : status = .dropped → config.maxRetries ≤ o.retries ∧
      config.ackTimeout ≤ Tick.since (UInt32.ofNat time) o.sentAt) :
    Paced config time
      (log ++ [(time, .contact during .parent (.delivered { status, packet := o.packet }))])
      none where
  opened hopened := by
    rcases hopened.concat with ⟨-, -, haccepted, -⟩ | ⟨between, rfl, -, hreport⟩
    · simp at haccepted
    · simp at hreport
  timely := by
    refine forall_split_concat.mpr ⟨h.timely, by simp, by simp [Event.resent?], ?_⟩
    intro sent packet wire between hopened lost hreport
    obtain ⟨o', ho, hlinked⟩ := h.opened hopened
    obtain rfl : o = o' := Option.some.inj ho
    obtain ⟨rfl, rfl⟩ : status = .dropped ∧ o.packet = lost := by simpa using hreport
    obtain ⟨hretries, hdue⟩ := hlost rfl
    exact ⟨hlinked.packet, hlinked.retries ▸ UInt8.le_iff_toNat_le.mp hretries, hlinked.due hdue⟩

/-- The awaited packet is sent again. -/
theorem again {o : Outstanding} (h : Paced config time log (some o)) {during : Operation}
    {answer : Except LayerError Nat}
    (hdue : config.ackTimeout ≤ Tick.since (UInt32.ofNat time) o.sentAt)
    (hretries : o.retries < config.maxRetries) (hduring : during = .recv ∨ during = .service) :
    Paced config time (log ++ [(time, .contact during .child (.send o.wire answer))])
      (some { o with retries := o.retries + 1, sentAt := UInt32.ofNat time }) where
  opened hopened := by
    rcases hopened.concat with ⟨-, -, haccepted, -⟩ | ⟨between, rfl, hopened, -⟩
    · simp at haccepted
    · obtain ⟨o', ho, hlinked⟩ := h.opened hopened
      obtain rfl : o = o' := Option.some.inj ho
      exact ⟨_, rfl, hlinked.again hretries (if_pos ⟨hduring, hlinked.data⟩)⟩
  timely := by
    refine forall_split_concat.mpr ⟨h.timely, by simp, ?_, by simp⟩
    intro sent packet wire between hopened bytes hresent
    obtain ⟨o', ho, hlinked⟩ := h.opened hopened
    obtain rfl : o = o' := Option.some.inj ho
    obtain ⟨-, rfl⟩ : _ ∧ o.wire = bytes := by simpa [Event.resent?] using hresent
    refine ⟨hlinked.wire, ?_, hlinked.due hdue⟩
    rw [← hlinked.retries]
    exact UInt8.lt_iff_toNat_lt.mp hretries

theorem accept {o : Outstanding} (h : Paced config time log none) (hretries : o.retries = 0)
    (hsent : o.sentAt = UInt32.ofNat time) (hdata : acknowledges config o.wire = false) :
    Paced config time (log ++ [(time, .written o.wire)] ++
      [(time, .confirmed none o.packet (.ok o.packet.length) (some o))]) (some o) where
  opened := by
    have hfirst : Paced config time (log ++ [(time, .written o.wire)]) none :=
      h.concat rfl rfl rfl
    intro sent packet wire between hopened
    rcases hopened.concat with ⟨rfl, rfl, haccepted, hlast⟩ | ⟨between, rfl, hopened, -⟩
    · rw [List.getLast?_concat] at hlast
      obtain ⟨rfl, -⟩ : o.wire = wire ∧ _ := by simpa [Event.written] using hlast
      obtain rfl : o.packet = packet := by simpa using haccepted
      exact ⟨o, rfl, hdata, rfl, rfl, by rw [hretries]; rfl, hsent, Nat.le_refl _⟩
    · obtain ⟨o', ho, -⟩ := hfirst.opened hopened
      simp at ho
  timely := by
    have hfirst : Paced config time (log ++ [(time, .written o.wire)]) none :=
      h.concat rfl rfl rfl
    exact forall_split_concat.mpr ⟨hfirst.timely,
      fun _ _ => ⟨o.wire, List.getLast?_concat⟩, by simp [Event.resent?], by simp⟩

theorem entry {b b' : Book} (h : Paced config time log b.awaited)
    (hentry : b.Entry config (UInt32.ofNat time) b') : ∃ events, b'.trace = b.trace ++ events ∧
      Paced config time (log ++ events.map (time, ·)) b'.awaited := by
  cases hentry with
  | contact hreport hresent => exact ⟨[_], rfl, h.concat rfl hreport hresent⟩
  | refuse => exact ⟨[_], rfl, h.concat rfl rfl rfl⟩
  | resend hawaited hdue hretries hduring =>
      rw [hawaited] at h
      exact ⟨[_], rfl, h.again hdue hretries hduring⟩
  | giveUp hawaited hdue hretries =>
      rw [hawaited] at h
      exact ⟨[_], rfl, h.settled fun _ => ⟨hretries, hdue⟩⟩
  | settle hawaited =>
      rw [hawaited] at h
      exact ⟨[_], rfl, h.settled (by simp)⟩
  | accept hidle hretries hsent hwire hdata =>
      rw [hidle] at h
      have haccept := h.accept hretries hsent hdata
      rw [List.append_assoc] at haccept
      exact ⟨[_, _], by simp [Event.written], haccept⟩

theorem entries {b b' : Book} (h : Paced config time log b.awaited)
    (hentries : Relation.ReflTransGen (Book.Entry config (UInt32.ofNat time)) b b') :
    ∃ events, b'.trace = b.trace ++ events ∧
      Paced config time (log ++ events.map (time, ·)) b'.awaited := by
  induction hentries with
  | refl => exact ⟨[], (List.append_nil _).symm, by rwa [List.map_nil, List.append_nil]⟩
  | tail _ hentry ih =>
      obtain ⟨events, htrace, hpaced⟩ := ih
      obtain ⟨more, htrace', hpaced'⟩ := hpaced.entry hentry
      refine ⟨events ++ more, by rw [htrace', htrace, List.append_assoc], ?_⟩
      rwa [List.map_append, ← List.append_assoc]

end Paced

/-! ### What the pace of a run says -/

/-- The copies of a packet that was first sent at a given time. -/
structure Spaced (config : Config) (sent : Nat) (wire : Bytes) (between : List (Nat × Event)) :
    Prop where
  copies : resent config (between.map Prod.snd) =
    List.replicate (resentAt config between).length wire
  apart : (sent :: resentAt config between).IsChain (· + config.ackTimeout.toNat ≤ ·)
  few : (resentAt config between).length ≤ config.maxRetries.toNat

theorem getLast?_cons_resentAt (config : Config) (sent : Nat) (log : List (Nat × Event)) :
    (sent :: resentAt config log).getLast? = some (lastSent config sent log) := by
  rw [List.getLast?_cons, lastSent, List.getLastD_eq_getLast?]

theorem Spaced.concat {config : Config} {sent : Nat} {wire : Bytes}
    {between : List (Nat × Event)} {entry : Nat × Event} (h : Spaced config sent wire between)
    (hagain : ∀ bytes, entry.2.resent? config = some bytes → bytes = wire ∧
      (resentAt config between).length < config.maxRetries.toNat ∧
      lastSent config sent between + config.ackTimeout.toNat ≤ entry.1) :
    Spaced config sent wire (between ++ [entry]) := by
  obtain ⟨time, event⟩ := entry
  cases hresent : event.resent? config with
  | none =>
      refine ⟨?_, ?_, ?_⟩ <;> rw [resentAt_concat_none hresent]
      · rw [List.map_append, resent_append, h.copies]
        simp [hresent]
      · exact h.apart
      · exact h.few
  | some bytes =>
      obtain ⟨rfl, hfew, hapart⟩ := hagain bytes hresent
      refine ⟨?_, ?_, ?_⟩ <;> rw [resentAt_concat_some hresent]
      · rw [List.map_append, resent_append, h.copies, List.length_append, List.replicate_add]
        simp [hresent]
      · rw [← List.cons_append]
        refine h.apart.append (.singleton _) fun last hlast time' htime => ?_
        rw [getLast?_cons_resentAt] at hlast
        obtain rfl := Option.some.inj hlast
        obtain rfl := Option.some.inj htime
        exact hapart
      · rw [List.length_append]
        exact hfew

theorem spaced_of_timely {config : Config} {log earlier between : List (Nat × Event)}
    {sent : Nat} {event : Event} {packet wire : Bytes}
    (htimely : ∀ before entry after, log = before ++ entry :: after → Timely config before entry)
    (haccepted : event.accepted? = some packet) (hsilent : reports (between.map Prod.snd) = [])
    (later : List (Nat × Event))
    (hlog : log = earlier ++ [(sent, .written wire), (sent, event)] ++ between ++ later) :
    Spaced config sent wire between := by
  -- each copy is judged by those before it, so the last one is taken off first
  induction between using List.reverseRecOn generalizing later with
  | nil => exact ⟨rfl, .singleton _, Nat.zero_le _⟩
  | append_singleton between entry ih =>
      rw [List.map_append, reports_append] at hsilent
      obtain ⟨hbetween, -⟩ := List.append_eq_nil_iff.mp hsilent
      have hsplit : log = earlier ++ [(sent, .written wire), (sent, event)] ++ between ++
          entry :: later := by
        rw [hlog]
        simp only [List.append_assoc, List.singleton_append]
      refine (ih hbetween _ hsplit).concat fun bytes hresent => ?_
      exact (htimely _ _ _ hsplit).again ⟨earlier, event, rfl, haccepted, hbetween⟩ bytes hresent

theorem add_mul_le_getLastD {timeout sent : Nat} {times : List Nat}
    (h : (sent :: times).IsChain (· + timeout ≤ ·)) :
    sent + times.length * timeout ≤ times.getLastD sent := by
  induction times generalizing sent with
  | nil => simp
  | cons time times ih =>
      obtain ⟨hfirst, hrest⟩ := List.isChain_cons_cons.mp h
      have := ih hrest
      rw [List.length_cons, List.getLastD_cons, Nat.succ_mul]
      omega

/-- A packet is written when it is accepted, then its copies are apart and few, and it is
lost only when it has waited for the last of them. -/
theorem Paced.window {config : Config} {time : Nat} {log : List (Nat × Event)}
    {awaited : Option Outstanding} (h : Paced config time log awaited)
    {earlier between later : List (Nat × Event)} {sent : Nat} {event : Event} {packet : Bytes}
    (hlog : log = earlier ++ (sent, event) :: (between ++ later))
    (haccepted : event.accepted? = some packet) (hsilent : reports (between.map Prod.snd) = []) :
    ∃ wire, earlier.getLast? = some (sent, .written wire) ∧ Spaced config sent wire between ∧
      ∀ time event' lost, later.head? = some (time, event') →
        event'.report? = some { status := .dropped, packet := lost } → lost = packet ∧
        sent + (config.maxRetries.toNat + 1) * config.ackTimeout.toNat ≤ time := by
  obtain ⟨wire, hlast⟩ := (h.timely _ _ _ hlog).written packet haccepted
  obtain ⟨earlier, rfl⟩ := List.getLast?_eq_some_iff.mp hlast
  have hsplit : log = earlier ++ [(sent, .written wire), (sent, event)] ++ between ++ later := by
    rw [hlog]
    simp only [List.append_assoc, List.cons_append, List.nil_append]
  have hspaced := spaced_of_timely h.timely haccepted hsilent later hsplit
  refine ⟨wire, hlast, hspaced, fun time event' lost hhead hreport => ?_⟩
  obtain ⟨later, rfl⟩ := List.head?_eq_some_iff.mp hhead
  obtain ⟨rfl, hretries, hdue⟩ := (h.timely _ _ _ hsplit).lost
    ⟨earlier, event, rfl, haccepted, hsilent⟩ lost hreport
  refine ⟨rfl, ?_⟩
  have hsum : sent + (resentAt config between).length * config.ackTimeout.toNat ≤
      lastSent config sent between := add_mul_le_getLastD hspaced.apart
  have hmul := Nat.mul_le_mul_right config.ackTimeout.toNat hretries
  rw [Nat.succ_mul]
  omega

/-! ### One turn -/

/-- What becomes in one turn of what was awaited before it: how it was sent again, what was
reported, and what is awaited then. -/
inductive Course (config : Config) (now : Tick) (awaited : Option Outstanding) :
    List Bytes → List Delivery → Option Outstanding → Prop
  | waiting : Course config now awaited [] [] awaited
  | accepted {o : Outstanding} (hidle : awaited = none) (hsent : o.sentAt = now) :
      Course config now awaited [] [] (some o)
  | again {o : Outstanding} (hawaited : awaited = some o)
      (hdue : config.ackTimeout ≤ now.since o.sentAt) (hretries : o.retries < config.maxRetries) :
      Course config now awaited [o.wire] []
        (some { o with retries := o.retries + 1, sentAt := now })
  | dropped {o : Outstanding} {awaits : Option Outstanding} (hawaited : awaited = some o)
      (hdue : config.ackTimeout ≤ now.since o.sentAt) (hretries : config.maxRetries ≤ o.retries)
      (hfresh : Book.Fresh config now awaits) :
      Course config now awaited [] [{ status := .dropped, packet := o.packet }] awaits
  /-- After an acknowledgement nothing is due in the same turn. -/
  | acked {again : List Bytes} {told : List Delivery} {awaits : Option Outstanding}
      (hacked : ∃ report ∈ told, report.status = .acked)
      (hone : again.length + told.countP (·.status = .dropped) ≤ 1)
      (hfresh : Book.Fresh config now awaits) : Course config now awaited again told awaits

namespace Course

variable {config : Config} {now : Tick} {awaited awaits : Option Outstanding}
  {again : List Bytes} {told : List Delivery} {b b' : Book}

/-- There is at most one retransmission or loss. -/
theorem one (h : Course config now awaited again told awaits) :
    again.length + told.countP (·.status = .dropped) ≤ 1 := by
  cases h with
  | waiting => simp
  | accepted => simp
  | again => simp
  | dropped => simp
  | acked _ hone => exact hone

/-- Unless nothing has happened, nothing is due any more. -/
theorem fresh (hpos : config.ackTimeout ≠ 0) (h : Course config now awaited again told awaits) :
    (again = [] ∧ told = [] ∧ awaits = awaited) ∨ Book.Fresh config now awaits := by
  cases h with
  | waiting => exact .inl ⟨rfl, rfl, rfl⟩
  | accepted hidle hsent => exact .inr (Book.fresh_some hpos hsent)
  | again => exact .inr (Book.fresh_some hpos rfl)
  | dropped _ _ _ hfresh => exact .inr hfresh
  | acked _ _ hfresh => exact .inr hfresh

theorem entry (hpos : config.ackTimeout ≠ 0)
    (hdata : ∀ o, awaited = some o → acknowledges config o.wire = false)
    (h : Course config now awaited again told b.awaited) (hentry : b.Entry config now b') :
    ∃ events, b'.trace = b.trace ++ events ∧
      Course config now awaited (again ++ resent config events) (told ++ reports events)
        b'.awaited := by
  obtain ⟨current, trace⟩ := b
  cases hentry with
  | contact hreport hresent => exact ⟨[_], rfl, by simpa [hreport, hresent] using h⟩
  | refuse => exact ⟨[_], rfl, by simpa [Event.resent?] using h⟩
  | @resend o during answer hawaited hdue hretries hduring =>
      rcases h.fresh hpos with ⟨rfl, rfl, heq⟩ | hfresh
      · have ho : awaited = some o := heq.symm.trans hawaited
        have hresent : (Event.contact during .child (.send o.wire answer)).resent? config =
            some o.wire := if_pos ⟨hduring, hdata o ho⟩
        exact ⟨[_], rfl, by simpa [hresent] using Course.again ho hdue hretries⟩
      · exact absurd (hfresh _ hawaited) (UInt32.not_lt.mpr hdue)
  | giveUp hawaited hdue hretries =>
      rcases h.fresh hpos with ⟨rfl, rfl, heq⟩ | hfresh
      · refine ⟨[_], rfl, ?_⟩
        simpa [Event.resent?] using
          Course.dropped (heq.symm.trans hawaited) hdue hretries (Book.fresh_none config now)
      · exact absurd (hfresh _ hawaited) (UInt32.not_lt.mpr hdue)
  | settle hawaited =>
      refine ⟨[_], rfl, .acked ⟨_, List.mem_append_right _ (List.mem_singleton_self _), rfl⟩ ?_
        (Book.fresh_none _ _)⟩
      simpa [Event.resent?] using h.one
  | @accept o hidle hretries hsent hwire hdata =>
      let events : List Event :=
        [.written o.wire, .confirmed none o.packet (.ok o.packet.length) (some o)]
      have hresent : resent config events = [] := by
        simp [events, resent, Event.resent?, Event.written]
      have hreports : reports events = [] := rfl
      refine ⟨events, by simp [events, Event.written], ?_⟩
      rw [hresent, hreports, List.append_nil, List.append_nil]
      have hfresh : Book.Fresh config now (some o) := Book.fresh_some hpos hsent
      obtain rfl : current = none := hidle
      cases h with
      | waiting => exact .accepted rfl hsent
      | dropped hawaited hdue hretries _ => exact .dropped hawaited hdue hretries hfresh
      | acked hacked hone _ => exact .acked hacked hone hfresh

theorem of_entries (hpos : config.ackTimeout ≠ 0)
    (hdata : ∀ o, b.awaited = some o → acknowledges config o.wire = false)
    (hentries : Relation.ReflTransGen (Book.Entry config now) b b') :
    ∃ events, b'.trace = b.trace ++ events ∧
      Course config now b.awaited (resent config events) (reports events) b'.awaited := by
  induction hentries with
  | refl => exact ⟨[], (List.append_nil _).symm, .waiting⟩
  | tail _ hentry ih =>
      obtain ⟨events, htrace, hcourse⟩ := ih
      obtain ⟨more, htrace', hcourse'⟩ := hcourse.entry hpos hdata hentry
      refine ⟨events ++ more, by rw [htrace', htrace, List.append_assoc], ?_⟩
      rwa [resent_append, reports_append]

/-- A packet for which nothing is due is waited for, unless it is acknowledged. -/
theorem eq_waiting {o : Outstanding} (h : Course config now (some o) again told awaits)
    (hunacked : ∀ report ∈ told, report.status ≠ .acked)
    (hearly : now.since o.sentAt < config.ackTimeout) :
    again = [] ∧ told = [] ∧ awaits = some o := by
  have hnever : ¬ config.ackTimeout ≤ now.since o.sentAt := UInt32.not_le.mpr hearly
  cases h with
  | waiting => exact ⟨rfl, rfl, rfl⟩
  | accepted hidle => cases hidle
  | again hawaited hdue =>
      obtain rfl := Option.some.inj hawaited
      exact absurd hdue hnever
  | dropped hawaited hdue =>
      obtain rfl := Option.some.inj hawaited
      exact absurd hdue hnever
  | acked hacked =>
      obtain ⟨report, hmem, hstatus⟩ := hacked
      exact absurd hstatus (hunacked report hmem)

/-- A packet for which something has been done that was due is sent again or lost, unless
it is acknowledged. -/
theorem again_or_dropped {o : Outstanding} (h : Course config now (some o) again told awaits)
    (hunacked : ∀ report ∈ told, report.status ≠ .acked)
    (hdue : config.ackTimeout ≤ now.since o.sentAt) (hfresh : Book.Fresh config now awaits) :
    (o.retries < config.maxRetries ∧ again = [o.wire] ∧ told = [] ∧
      awaits = some { o with retries := o.retries + 1, sentAt := now }) ∨
    (config.maxRetries ≤ o.retries ∧ again = [] ∧
      told = [{ status := .dropped, packet := o.packet }]) := by
  cases h with
  | waiting => exact absurd (hfresh o rfl) (UInt32.not_lt.mpr hdue)
  | accepted hidle => cases hidle
  | again hawaited _ hretries =>
      obtain rfl := Option.some.inj hawaited
      exact .inl ⟨hretries, rfl, rfl, rfl⟩
  | dropped hawaited _ hretries =>
      obtain rfl := Option.some.inj hawaited
      exact .inr ⟨hretries, rfl, rfl⟩
  | acked hacked =>
      obtain ⟨report, hmem, hstatus⟩ := hacked
      exact absurd hstatus (hunacked report hmem)

end Course

/-! ### Runs -/

theorem Book.drop_trace {E : Type} {s s' : Stage E} {events : List Event}
    (h : (of s').trace = (of s).trace ++ events) : s'.trace.drop s.trace.length = events := by
  rw [show s'.trace = s.trace ++ events from h, List.drop_left]

section Runs

variable {E : Type} {c : Company E} {config : Config} {now : Tick} {s : Stage E}
  (hconfig : config.validate = .ok ()) (hqueues : Queues (c.layer .child))
  (halive : ∀ around, (c.alive .parent around).1 = true)

include hconfig hqueues halive

theorem course_turn (hs : Ready config now s)
    (hledger : Ledger config s.trace s.layer.outstanding) (op : Op) :
    let s' := (op.act c s).2
    let events := s'.trace.drop s.trace.length
    Course config (now + op.ticks) s.layer.outstanding (resent config events) (reports events)
      s'.layer.outstanding := by
  obtain ⟨-, hentries⟩ := act_run hconfig hqueues halive hs op
  obtain ⟨events, htrace, hcourse⟩ := Course.of_entries (b := Book.of s)
    (Config.ackTimeout_of_validate hconfig) hledger.data hentries
  simp only [Book.drop_trace htrace]
  exact hcourse

theorem one_transition (hs : Ready config now s)
    (hledger : Ledger config s.trace s.layer.outstanding) (ops : List Op) (time : Nat) :
    ∀ turn ∈ chronicle c ops time s, transitions config turn.events ≤ 1 := by
  induction ops generalizing now s time with
  | nil => simp [chronicle]
  | cons op ops ih =>
      obtain ⟨hs', hentries⟩ := act_run hconfig hqueues halive hs op
      rw [chronicle, List.forall_mem_cons]
      exact ⟨(course_turn hconfig hqueues halive hs hledger op).one,
        ih hs' (Ledger.entries (b := Book.of s) hledger hentries) _⟩

theorem paced_chronicle {time : Nat} {log : List (Nat × Event)}
    (hs : Ready config (UInt32.ofNat time) s) (h : Paced config time log s.layer.outstanding)
    (ops : List Op) :
    ∃ time' awaited, Paced config time' (log ++ stamped (chronicle c ops time s)) awaited := by
  induction ops generalizing time s log with
  | nil => exact ⟨time, _, by simpa [chronicle, stamped] using h⟩
  | cons op ops ih =>
      obtain ⟨hs', hentries⟩ := act_run hconfig hqueues halive hs op
      rw [← ofNat_add_ticks] at hs' hentries
      obtain ⟨events, htrace, hpaced⟩ := Paced.entries (b := Book.of s)
        (h.later (Nat.le_add_right time op.ticks.toNat)) hentries
      rw [chronicle, Book.drop_trace htrace, stamped, List.flatMap_cons, ← List.append_assoc]
      exact ih hs' hpaced

/-- After the clock has moved nothing is due. -/
theorem fresh_advance (hs : Ready config now s) (ticks : Tick) :
    Book.Fresh config (now + ticks) ((Op.advance ticks).act c s).2.layer.outstanding := by
  have hs' : Ready config (now + ticks) { s with now := s.now + ticks } :=
    ⟨hs.node, hs.config, by rw [← hs.now]⟩
  have hexpired : Ready config (now + ticks) ((c.site .service).modify
      (·.expirePartial (s.now + ticks)) { s with now := s.now + ticks }).2 :=
    (enters_expirePartial _ _ hs').1
  exact (retry_run hconfig hqueues halive (.inr rfl) hexpired).2

omit hconfig hqueues halive in
theorem filter_chronicle_eq_nil {ops : List Op} (h : ops.countP (·.isAdvance) = 0) (time : Nat) :
    (chronicle c ops time s).filter (·.op.isAdvance) = [] := by
  induction ops generalizing time s with
  | nil => rfl
  | cons op ops ih =>
      rw [List.countP_cons] at h
      rw [chronicle, List.filter_cons_of_neg (by simp; grind)]
      exact ih (by omega) _

/-- A packet that has just been sent, and is not acknowledged, is sent again whenever the
clock moves far enough, and lost when no retries are left. -/
theorem schedule_of_awaited {o : Outstanding} {left : Nat} {ops : List Op} {time : Nat}
    (hs : Ready config now s) (hledger : Ledger config s.trace s.layer.outstanding)
    (hawaited : s.layer.outstanding = some o) (hsent : o.sentAt = now)
    (hleft : o.retries.toNat + left = config.maxRetries.toNat)
    (hlong : ∀ ticks, .advance ticks ∈ ops → config.ackTimeout ≤ ticks)
    (hcount : ops.countP (·.isAdvance) = left + 1)
    (hunacked : ∀ turn ∈ chronicle c ops time s, ∀ report ∈ reports turn.events,
      report.status ≠ .acked) :
    ((chronicle c ops time s).filter (·.op.isAdvance)).map
        (fun turn => (resent config turn.events, reports turn.events)) =
      List.replicate left ([o.wire], []) ++
        [([], [{ status := .dropped, packet := o.packet }])] := by
  -- between two turns the clock stands where it stood when the last copy was sent
  induction ops generalizing now s o left time with
  | nil => simp at hcount
  | cons op ops ih =>
      have hcourse := course_turn hconfig hqueues halive hs hledger op
      obtain ⟨hs', hentries⟩ := act_run hconfig hqueues halive hs op
      have hledger' : Ledger config _ _ := Ledger.entries (b := Book.of s) hledger hentries
      rw [chronicle, List.forall_mem_cons] at hunacked
      obtain ⟨hturn, hlater⟩ := hunacked
      have hlong' : ∀ ticks, .advance ticks ∈ ops → config.ackTimeout ≤ ticks :=
        fun ticks hmem => hlong ticks (List.mem_cons_of_mem _ hmem)
      rw [hawaited] at hcourse
      rw [chronicle]
      by_cases hadvance : op.isAdvance = true
      · obtain ⟨ticks, rfl⟩ : ∃ ticks, op = .advance ticks := by
          cases op <;> simp [Op.isAdvance] at hadvance ⊢
        have hdue : config.ackTimeout ≤ (now + ticks).since o.sentAt := by
          rw [hsent, since_add]
          exact hlong ticks List.mem_cons_self
        rw [List.countP_cons_of_pos hadvance] at hcount
        rw [List.filter_cons_of_pos (by exact hadvance), List.map_cons]
        rcases hcourse.again_or_dropped hturn hdue
            (fresh_advance hconfig hqueues halive hs ticks) with
          ⟨hretries, hagain, htold, hawaits⟩ | ⟨hretries, hagain, htold⟩
        · have hnext := toNat_succ_of_lt hretries
          have hlt := UInt8.lt_iff_toNat_lt.mp hretries
          obtain ⟨left, rfl⟩ : ∃ left', left = left' + 1 := ⟨left - 1, by omega⟩
          have hleft' : (o.retries + 1).toNat + left = config.maxRetries.toNat := by omega
          have hrest := ih hs' hledger' hawaits rfl hleft' hlong' (Nat.succ.inj hcount) hlater
          rw [hagain, htold, List.replicate_succ, List.cons_append]
          exact congrArg _ hrest
        · have hle := UInt8.le_iff_toNat_le.mp hretries
          obtain rfl : left = 0 := by omega
          rw [hagain, htold, filter_chronicle_eq_nil (Nat.succ.inj hcount)]
          rfl
      · have hticks : now + op.ticks = now := by
          cases op <;> simp [Op.isAdvance, Op.ticks] at hadvance ⊢
        rw [hticks] at hcourse hs'
        have hearly : now.since o.sentAt < config.ackTimeout :=
          Book.fresh_some (Config.ackTimeout_of_validate hconfig) hsent o rfl
        obtain ⟨-, -, hawaits⟩ := hcourse.eq_waiting hturn hearly
        rw [List.countP_cons_of_neg hadvance] at hcount
        rw [List.filter_cons_of_neg (by exact hadvance)]
        exact ih hs' hledger' hawaits hsent hleft hlong' hcount hlater

omit halive in
theorem outstanding_of_confirm (hs : Ready config now s) {packet : Bytes} {size : Nat}
    (h : (c.confirm packet s).1 = .ok size) :
    ∃ o, (c.confirm packet s).2.layer.outstanding = some o ∧ o.packet = packet ∧
      o.retries = 0 ∧ o.sentAt = now ∧
      o.wire = (Codec.ofConfig config).frame (dataBody o.seq packet) := by
  obtain ⟨answer, s', hrun, -, hconfirms⟩ := confirm_run hconfig hqueues hs packet
  rw [hrun] at h ⊢
  obtain rfl : answer = .ok size := h
  have hbook : (Book.of s').awaited = s'.layer.outstanding := rfl
  generalize Book.of s' = b' at hbook hconfirms
  cases hconfirms with
  | @sent o hidle hpacket hretries hsent hwire hdata =>
      exact ⟨o, hbook.symm, hpacket, hretries, hsent, hpacket ▸ hwire⟩

end Runs

/-- The retry schedule of a framing layer, in ticks that are counted without a bound,
wherever its clock stands at the beginning.

No operation sends again or loses more than once. A packet is written when it is
accepted; until it is reported its copies are `ackTimeout` ticks apart, the first from
the write, and at most `maxRetries`; and it is lost no earlier than one more timeout
after as many. If then, without an acknowledgement, the clock moves `maxRetries + 1`
times and far enough, whatever is done in between, each move sends a copy but the last,
which loses the packet. -/
theorem retry_schedule {E : Type} {c : Company E} {config : Config} {made : Tick}
    {f f' : Framer Neighbour} {other : Option Neighbour} (hnew : Framer.new config made = .ok f)
    (hinit : f.init (some .child) other (some .parent) = .ok f')
    (hqueues : Queues (c.layer .child)) (halive : ∀ around, (c.alive .parent around).1 = true)
    (around : E) (start : Nat) (ops : List Op) :
    let begin : Stage E := { layer := f', around, now := UInt32.ofNat start, history := [] }
    let turns := chronicle c ops start begin
    (∀ turn ∈ turns, transitions config turn.events ≤ 1) ∧
    (∀ earlier sent event packet between later,
      stamped turns = earlier ++ (sent, event) :: (between ++ later) →
      event.accepted? = some packet → reports (between.map Prod.snd) = [] →
      ∃ wire, earlier.getLast? = some (sent, .written wire) ∧ Spaced config sent wire between ∧
        ∀ time event' lost, later.head? = some (time, event') →
          event'.report? = some { status := .dropped, packet := lost } → lost = packet ∧
          sent + (config.maxRetries.toNat + 1) * config.ackTimeout.toNat ≤ time) ∧
    ∀ packet size time after, let confirmed := c.confirm packet (Op.run c ops begin).2
      let later := chronicle c after time confirmed.2
      confirmed.1 = .ok size → (∀ ticks, .advance ticks ∈ after → config.ackTimeout ≤ ticks) →
      after.countP (·.isAdvance) = config.maxRetries.toNat + 1 →
      (∀ turn ∈ later, ∀ report ∈ reports turn.events, report.status ≠ .acked) →
      ∃ seq, (later.filter (·.op.isAdvance)).map
          (fun turn => (resent config turn.events, reports turn.events)) =
        List.replicate config.maxRetries.toNat
          ([(Codec.ofConfig config).frame (dataBody seq packet)], []) ++
          [([], [{ status := .dropped, packet }])] := by
  intro begin turns
  obtain ⟨hconfig, hsettings, hidle, hnode⟩ := initialized hnew hinit
  have hs : Ready config (UInt32.ofNat start) begin := ⟨hnode, hsettings, rfl⟩
  have hawaited : begin.layer.outstanding = none := hidle
  have hledger : Ledger config begin.trace begin.layer.outstanding := by
    rw [hawaited]
    exact ledger_nil config
  refine ⟨one_transition hconfig hqueues halive hs hledger ops start, ?_, ?_⟩
  · intro earlier sent event packet between later hlog haccepted hsilent
    obtain ⟨time, awaited, hpaced⟩ := paced_chronicle hconfig hqueues halive hs
      (by rw [hawaited]; exact .nil config start) ops
    exact hpaced.window hlog haccepted hsilent
  · intro packet size time after confirmed later hanswer hlong hcount hunacked
    obtain ⟨⟨now, hs'⟩, hledger'⟩ := ledger_ops hconfig hqueues halive hs hledger ops
    obtain ⟨hready, hentries⟩ := enters_confirm hconfig hqueues packet _ hs'
    obtain ⟨o, hawaits, hpacket, hretries, hsent, hwire⟩ :=
      outstanding_of_confirm hconfig hqueues hs' hanswer
    refine ⟨o.seq, ?_⟩
    rw [← hwire, ← hpacket]
    exact schedule_of_awaited hconfig hqueues halive hready
      (Ledger.entries (b := Book.of _) hledger' hentries) hawaits hsent
      (by rw [hretries]; exact Nat.zero_add _) hlong hcount hunacked

/-- The clock wraps while a packet is awaited. -/
theorem retry_schedule_wrapping : ∃ f f' : Framer Neighbour,
    Framer.new {} 0 = .ok f ∧ f.init (some .child) none (some .parent) = .ok f' ∧
    let begin : Stage (List Bytes) :=
      { layer := f', around := [], now := UInt32.ofNat (2 ^ 32 - 30), history := [] }
    let confirmed := queueing.confirm [0x41] (Op.run queueing [.advance 10] begin).2
    let later := chronicle queueing [.advance 60, .recv [0x00], .advance 60, .advance 60,
      .advance (UInt32.ofNat (2 ^ 32 - 1))] (2 ^ 32 - 20) confirmed.2
    ∃ seq, (later.filter (·.op.isAdvance)).map
        (fun turn => (resent {} turn.events, reports turn.events)) =
      List.replicate 3 ([(Codec.ofConfig {}).frame (dataBody seq [0x41])], []) ++
        [([], [{ status := .dropped, packet := [0x41] }])] := by
  refine ⟨_, _, rfl, rfl, ?_⟩
  refine (retry_schedule (c := queueing) rfl rfl (fun _ _ => .inl rfl) (fun _ => rfl) []
    (2 ^ 32 - 30) [.advance 10]).2.2 [0x41] 1 (2 ^ 32 - 20) _ rfl ?_ rfl ?_
  · simp
  · decide +kernel

end LinkStack.Frame
