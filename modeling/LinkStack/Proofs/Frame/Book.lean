import LinkStack.Proofs.Frame.Framer
import LinkStack.Proofs.Frame.Stream
import LinkStack.Proofs.Layer.Scene

/-!
The confirmed packets of a framing layer: what was accepted, what was reported
and what is still awaited.

The layer stands over a child that queues writes and under an application that is
always there; the application may send confirmed packets from inside a report. All
calls it makes are noted, each with the operation during which it was made, and so
is every confirmed send. Of all that, the `Book` of the layer keeps what it awaits
and the notes. `Book.Entry` lists what can happen to it, and `Ledger` is what each
entry preserves.
-/

namespace LinkStack.Frame

/-! ### The layer and its surroundings -/

/-- The operations of a framing layer that make calls. -/
inductive Operation where
  | send
  | confirm
  | recv
  | service
  deriving DecidableEq, Repr

inductive Event where
  | contact (during : Operation) (who : Neighbour) (what : Contact)
  /-- A confirmed send, with what was awaited before and after it. -/
  | confirmed (awaited : Option Outstanding) (packet : Bytes) (answer : Except LayerError Nat)
      (awaits : Option Outstanding)

/-- What an application does about a report: it may send confirmed packets, one
after the other, depending on the answers. -/
inductive Reaction where
  | done
  | confirm (packet : Bytes) (next : Except LayerError Nat → Reaction)

def Reaction.run {m : Type → Type} [Monad m] (confirm : Bytes → m (Except LayerError Nat)) :
    Reaction → m Unit
  | done => pure ()
  | .confirm packet next => do (next (← confirm packet)).run confirm

/-- A framing layer with its surroundings. -/
abbrev Stage (E : Type) := Scene (Framer Neighbour) E Event

/-- What stands around a framing layer, and how its parent reacts to a report. -/
structure Company (E : Type) extends Neighbours E where
  react : Delivery → StateM E Reaction
  limit : Nat

/-- A child that queues writes takes all of a write or refuses it, and is not
another framing layer that is busy. -/
def Queues {E : Type} (child : Layer (StateM E)) : Prop :=
  ∀ bytes around, ((child.send bytes).run around).1 = .ok bytes.length ∨
    ∃ error, ((child.send bytes).run around).1 = .error error ∧ error ≠ .busy "frame"

namespace Company

variable {E : Type} (c : Company E)

/-- A neighbour whose calls during an operation are noted. -/
def noted (during : Operation) (who : Neighbour) : Layer (StateM (Stage E)) :=
  (c.layer who).noted (.contact during who)

/-- Where the layer runs during an operation, under a given parent. -/
def place (during : Operation) (parent : Layer (StateM (Stage E))) :
    Site (StateM (Stage E)) Neighbour (Framer Neighbour) :=
  { Scene.site c.toNeighbours (.contact during) c.limit with
    layer := fun
      | .parent => parent
      | who => c.noted during who }

/-- A confirmed send, noted with its answer. -/
def confirm (packet : Bytes) : StateM (Stage E) (Except LayerError Nat) := do
  let before ← get
  let answer ←
    (Framer.sendConfirmed (c.place .confirm (c.noted .confirm .parent)) packet).run
  modify fun s =>
    s.meet s.around (.confirmed before.layer.outstanding packet answer s.layer.outstanding)
  return answer

/-- The application: it takes note of a report and reacts to it. -/
def parent (during : Operation) : Layer (StateM (Stage E)) :=
  { c.noted during .parent with
    delivered := fun report => do
      (c.noted during .parent).delivered report
      (← Scene.outside (c.react report)).run c.confirm }

/-- Where the layer runs during an operation. -/
abbrev site (during : Operation) : Site (StateM (Stage E)) Neighbour (Framer Neighbour) :=
  c.place during (c.parent during)

end Company

section Places

variable {E : Type} {c : Company E} {during : Operation} {parent : Layer (StateM (Stage E))}
  {s : Stage E}

theorem get_run : (c.place during parent).get s = (s.layer, s) := rfl

theorem modify_run (f : Framer Neighbour → Framer Neighbour) :
    (c.place during parent).modify f s = ((), s.change f) := rfl

theorem now_run : (c.place during parent).now s = (s.now, s) := rfl

end Places

/-- What is done with a framing layer. -/
inductive Op where
  | send (packet : Bytes)
  | confirm (packet : Bytes)
  | recv (bytes : Bytes)
  | service
  | advance (ticks : Tick)
  deriving DecidableEq, Repr

namespace Op

variable {E : Type}

/-- The ticks that pass with an operation. -/
def ticks : Op → Tick
  | advance ticks => ticks
  | _ => 0

def act (c : Company E) : Op → StateM (Stage E) Unit
  | send packet => do let _ ← (Framer.send (c.site .send) packet).run
  | confirm packet => do let _ ← c.confirm packet
  | recv bytes => do let _ ← (Framer.recv (c.site .recv) bytes).run
  | service => Framer.service (c.site .service)
  | advance ticks => do
    modify fun s => { s with now := s.now + ticks }
    Framer.service (c.site .service)

def run (c : Company E) (ops : List Op) : StateM (Stage E) Unit := ops.forM (act c)

end Op

/-! ### The book -/

/-- The report in an event, if it is one. -/
def Event.report? : Event → Option Delivery
  | .contact _ .parent (.delivered report) => some report
  | _ => none

/-- The packet that was accepted with an event. -/
def Event.accepted? : Event → Option Bytes
  | .confirmed _ packet (.ok _) _ => some packet
  | _ => none

/-- Whether a write is the frame of an acknowledgement. -/
def acknowledges (config : Config) (bytes : Bytes) : Bool :=
  match (Codec.ofConfig config).decode bytes with
  | .item (.packet packet) _ => Tag.fold packet.tag = Tag.frame &&
      match Control.read packet.payload with
      | .ack _ => true
      | _ => false
  | _ => false

/-- What was written without being asked for or being an acknowledgement. -/
def Event.resent? (config : Config) : Event → Option Bytes
  | .contact during .child (.send bytes _) =>
    if (during = .recv ∨ during = .service) ∧ acknowledges config bytes = false then some bytes
    else none
  | _ => none

def reports (trace : List Event) : List Delivery := trace.filterMap Event.report?

def accepted (trace : List Event) : List Bytes := trace.filterMap Event.accepted?

def resent (config : Config) (trace : List Event) : List Bytes :=
  trace.filterMap (Event.resent? config)

/-- The packets that were accepted are those that were reported, in the same order,
and the one that is awaited. -/
def Balanced (trace : List Event) (awaited : Option Outstanding) : Prop :=
  accepted trace = (reports trace).map Delivery.packet ++ awaited.toList.map Outstanding.packet

theorem Balanced.eq {trace : List Event} {awaited : Option Outstanding}
    (h : Balanced trace awaited) : accepted trace =
      (reports trace).map Delivery.packet ++ awaited.toList.map Outstanding.packet :=
  h

/-- The last packet that was accepted, not reported since, has been written in one
frame and then as often as given in the same bytes. -/
def Awaited (config : Config) (packet : Bytes) (again : Nat) (wire : Bytes) (trace : List Event) :
    Prop :=
  ∃ earlier o between, trace = earlier ++ [.contact .confirm .child (.send wire (.ok wire.length)),
      .confirmed none packet (.ok packet.length) (some o)] ++ between ∧
    o.packet = packet ∧ o.wire = wire ∧
    wire = (Codec.ofConfig config).frame (dataBody o.seq packet) ∧
    accepted between = [] ∧ reports between = [] ∧ resent config between = List.replicate again wire

/-- A confirmed packet of this size can be framed. -/
def Legal (config : Config) (packet : Bytes) : Prop :=
  packet ≠ [] ∧ packet.length + controlHeader ≤ config.maxSize

/-- What an event says about those before it. A packet is lost only after all
retries; a confirmed send keeps the balance, is refused for being busy exactly if a
packet is awaited, and leaves that packet alone. -/
def Explained (config : Config) (before : List Event) : Event → Prop
  | .contact _ .parent (.delivered report) => report.status = .dropped →
    ∃ wire, Awaited config report.packet config.maxRetries.toNat wire before
  | .confirmed awaited packet answer awaits =>
    Balanced (before ++ [.confirmed awaited packet answer awaits]) awaits ∧
    (Legal config packet → (answer = .error (.busy "frame") ↔ awaited.isSome)) ∧
    (awaited.isSome → awaits = awaited)
  | _ => True

/-- What holds of the confirmed packets of a framing layer. -/
structure Ledger (config : Config) (trace : List Event) (outstanding : Option Outstanding) :
    Prop where
  balanced : Balanced trace outstanding
  retries : ∀ o, outstanding = some o → o.retries ≤ config.maxRetries
  awaited : ∀ o, outstanding = some o → Awaited config o.packet o.retries.toNat o.wire trace
  data : ∀ o, outstanding = some o → acknowledges config o.wire = false
  explained : ∀ before event after, trace = before ++ event :: after →
    Explained config before event

/-- What a framing layer awaits, and what was noted of its calls. -/
structure Book where
  awaited : Option Outstanding
  trace : List Event

namespace Book

def note (b : Book) (event : Event) : Book := { b with trace := b.trace ++ [event] }

def await (b : Book) (awaited : Option Outstanding) : Book := { b with awaited }

section Fields

variable (b : Book) (event : Event) (awaited : Option Outstanding)

@[simp] theorem awaited_note : (b.note event).awaited = b.awaited := rfl
@[simp] theorem trace_note : (b.note event).trace = b.trace ++ [event] := rfl
@[simp] theorem awaited_await : (b.await awaited).awaited = awaited := rfl
@[simp] theorem trace_await : (b.await awaited).trace = b.trace := rfl

end Fields

/-- What can happen to the book of a framing layer at a reading of the clock. -/
inductive Entry (config : Config) (now : Tick) : Book → Book → Prop where
  /-- A call that is neither a report nor sends anything again. -/
  | contact {b : Book} {during : Operation} {who : Neighbour} {what : Contact}
      (hreport : (Event.contact during who what).report? = none)
      (hresent : (Event.contact during who what).resent? config = none) :
      Entry config now b (b.note (.contact during who what))
  | resend {b : Book} {o : Outstanding} {during : Operation} {answer : Except LayerError Nat}
      (hawaited : b.awaited = some o) (hdue : config.ackTimeout ≤ now.since o.sentAt)
      (hretries : o.retries < config.maxRetries) (hduring : during = .recv ∨ during = .service) :
      Entry config now b ((b.await (some { o with retries := o.retries + 1, sentAt := now })).note
        (.contact during .child (.send o.wire answer)))
  | giveUp {b : Book} {o : Outstanding} {during : Operation} (hawaited : b.awaited = some o)
      (hdue : config.ackTimeout ≤ now.since o.sentAt) (hretries : config.maxRetries ≤ o.retries) :
      Entry config now b ((b.await none).note
        (.contact during .parent (.delivered { status := .dropped, packet := o.packet })))
  | settle {b : Book} {o : Outstanding} {during : Operation} (hawaited : b.awaited = some o) :
      Entry config now b ((b.await none).note
        (.contact during .parent (.delivered { status := .acked, packet := o.packet })))
  | refuse {b : Book} {packet : Bytes} {error : LayerError}
      (hbusy : Legal config packet → (error = .busy "frame" ↔ b.awaited.isSome)) :
      Entry config now b (b.note (.confirmed b.awaited packet (.error error) b.awaited))
  | accept {b : Book} {o : Outstanding} (hidle : b.awaited = none) (hretries : o.retries = 0)
      (hsent : o.sentAt = now)
      (hwire : o.wire = (Codec.ofConfig config).frame (dataBody o.seq o.packet))
      (hdata : acknowledges config o.wire = false) :
      Entry config now b
        (((b.note (.contact .confirm .child (.send o.wire (.ok o.wire.length)))).await
          (some o)).note (.confirmed none o.packet (.ok o.packet.length) (some o)))

/-- Nothing is due for the retry timer. -/
def Fresh (config : Config) (now : Tick) (awaited : Option Outstanding) : Prop :=
  ∀ o, awaited = some o → now.since o.sentAt < config.ackTimeout

theorem fresh_none (config : Config) (now : Tick) : Fresh config now none := nofun

theorem fresh_some {config : Config} {now : Tick} (hpos : config.ackTimeout ≠ 0) {o : Outstanding}
    (hsent : o.sentAt = now) : Fresh config now (some o) := by
  rintro o' ⟨⟩
  rw [hsent, Tick.since, UInt32.sub_self]
  exact UInt32.pos_iff_ne_zero.mpr hpos

/-- What has been due once is not due again at the same time. -/
theorem Entry.fresh {config : Config} {now : Tick} (hpos : config.ackTimeout ≠ 0) {b b' : Book}
    (hentry : b.Entry config now b') (h : Fresh config now b.awaited) :
    Fresh config now b'.awaited := by
  cases hentry with
  | contact => exact h
  | resend => exact fresh_some hpos rfl
  | giveUp => exact fresh_none _ _
  | settle => exact fresh_none _ _
  | refuse => exact h
  | accept hidle hretries hsent => exact fresh_some hpos hsent

theorem fresh_of_entries {config : Config} {now : Tick} (hpos : config.ackTimeout ≠ 0) {b b' : Book}
    (hentries : Relation.ReflTransGen (Entry config now) b b') (h : Fresh config now b.awaited) :
    Fresh config now b'.awaited := by
  induction hentries with
  | refl => exact h
  | tail _ hentry ih => exact hentry.fresh hpos ih

end Book

/-! ### Events at the end of a trace -/

section Traces

variable (config : Config) (trace trace' : List Event) (event : Event)

@[simp] theorem reports_append : reports (trace ++ trace') = reports trace ++ reports trace' :=
  List.filterMap_append

@[simp] theorem accepted_append : accepted (trace ++ trace') = accepted trace ++ accepted trace' :=
  List.filterMap_append

@[simp] theorem resent_append :
    resent config (trace ++ trace') = resent config trace ++ resent config trace' :=
  List.filterMap_append

@[simp] theorem reports_singleton : reports [event] = event.report?.toList := by
  cases h : event.report? <;> simp [reports, h]

@[simp] theorem accepted_singleton : accepted [event] = event.accepted?.toList := by
  cases h : event.accepted? <;> simp [accepted, h]

@[simp] theorem resent_singleton : resent config [event] = (event.resent? config).toList := by
  cases h : event.resent? config <;> simp [resent, h]

end Traces

section Events

variable {during : Operation} {who : Neighbour} {what : Contact} {report : Delivery}
  {awaited awaits : Option Outstanding} {bytes packet : Bytes} {size : Nat} {error : LayerError}
  {answer : Except LayerError Nat}

@[simp] theorem report?_delivered :
    (Event.contact during .parent (.delivered report)).report? = some report := rfl

@[simp] theorem report?_send : (Event.contact during .child (.send bytes answer)).report? = none :=
  rfl

@[simp] theorem report?_confirmed :
    (Event.confirmed awaited packet answer awaits).report? = none := rfl

@[simp] theorem accepted?_contact : (Event.contact during who what).accepted? = none := rfl

@[simp] theorem accepted?_ok :
    (Event.confirmed awaited packet (.ok size) awaits).accepted? = some packet := rfl

@[simp] theorem accepted?_error :
    (Event.confirmed awaited packet (.error error) awaits).accepted? = none := rfl

end Events

theorem forall_split_concat {α : Type} {P : List α → α → Prop} {trace : List α} {event : α} :
    (∀ before e after, trace ++ [event] = before ++ e :: after → P before e) ↔
      (∀ before e after, trace = before ++ e :: after → P before e) ∧ P trace event := by
  constructor
  · intro h
    refine ⟨fun before e after heq => h before e (after ++ [event]) ?_, h trace event [] rfl⟩
    rw [heq, List.append_assoc, List.cons_append]
  · -- the event is the last one, or another one comes after it
    rintro ⟨h, hlast⟩ before e after heq
    rcases List.eq_nil_or_concat after with rfl | ⟨after, last, rfl⟩
    · obtain ⟨rfl, hevent⟩ := List.append_inj' heq rfl
      obtain rfl : event = e := by simpa using hevent
      exact hlast
    · rw [List.concat_eq_append, ← List.cons_append, ← List.append_assoc] at heq
      obtain ⟨rfl, -⟩ := List.append_inj' heq rfl
      exact h before e after rfl

namespace Awaited

variable {config : Config} {packet wire : Bytes} {again : Nat} {trace : List Event} {event : Event}

theorem concat (h : Awaited config packet again wire trace) (haccepted : event.accepted? = none)
    (hreport : event.report? = none) (more : Nat)
    (hresent : (event.resent? config).toList = List.replicate more wire) :
    Awaited config packet (again + more) wire (trace ++ [event]) := by
  obtain ⟨earlier, o, between, rfl, hpacket, hwire, hframe, hnone, hsilent, hcopies⟩ := h
  refine ⟨earlier, o, between ++ [event], List.append_assoc .., hpacket, hwire, hframe, ?_, ?_, ?_⟩
  · rw [accepted_append, accepted_singleton, haccepted, hnone]
    rfl
  · rw [reports_append, reports_singleton, hreport, hsilent]
    rfl
  · rw [resent_append, resent_singleton, hresent, hcopies, List.replicate_append_replicate]

end Awaited

namespace Ledger

variable {config : Config} {trace : List Event} {awaited : Option Outstanding} {b b' : Book}
  {event : Event}

/-- An event that settles nothing and sends nothing again. -/
theorem concat (h : Ledger config trace awaited) (haccepted : event.accepted? = none)
    (hreport : event.report? = none) (hresent : event.resent? config = none)
    (hexplained : Explained config trace event) : Ledger config (trace ++ [event]) awaited where
  balanced := by simp [Balanced, haccepted, hreport, h.balanced.eq]
  retries := h.retries
  awaited o ho := (h.awaited o ho).concat haccepted hreport 0 (by rw [hresent]; rfl)
  data := h.data
  explained := forall_split_concat.mpr ⟨h.explained, hexplained⟩

/-- A report about the awaited packet. -/
theorem settled {o : Outstanding} (h : Ledger config trace (some o)) {during : Operation}
    {status : DeliveryStatus}
    (hlost : status = .dropped → config.maxRetries ≤ o.retries) :
    Ledger config (trace ++ [.contact during .parent (.delivered { status, packet := o.packet })])
      none where
  balanced := by simp [Balanced, h.balanced.eq]
  retries := by simp
  awaited := by simp
  data := by simp
  explained := by
    refine forall_split_concat.mpr ⟨h.explained, fun hdropped => ⟨o.wire, ?_⟩⟩
    rw [← UInt8.le_antisymm (h.retries o rfl) (hlost hdropped)]
    exact h.awaited o rfl

theorem entry {now : Tick} (h : Ledger config b.trace b.awaited)
    (hentry : b.Entry config now b') : Ledger config b'.trace b'.awaited := by
  cases hentry with
  | contact hreport hresent =>
      refine h.concat rfl hreport hresent ?_
      rename_i who what
      cases who <;> cases what <;> trivial
  | @resend o during answer hawaited hdue hretries hduring =>
      rw [hawaited] at h
      have hresent : (Event.contact during .child (.send o.wire answer)).resent? config =
          some o.wire := if_pos ⟨hduring, h.data o rfl⟩
      have hnext := toNat_succ_of_lt hretries
      refine ⟨?_, ?_, ?_, ?_, forall_split_concat.mpr ⟨h.explained, trivial⟩⟩
      · simp [Balanced, Book.note, Book.await, h.balanced.eq]
      · rintro o' ⟨⟩
        rw [UInt8.le_iff_toNat_le, hnext]
        exact UInt8.lt_iff_toNat_lt.mp hretries
      · rintro o' ⟨⟩
        rw [hnext]
        exact (h.awaited o rfl).concat rfl rfl 1 (by rw [hresent]; rfl)
      · rintro o' ⟨⟩
        exact h.data o rfl
  | giveUp hawaited hdue hretries =>
      rw [hawaited] at h
      exact h.settled fun _ => hretries
  | settle hawaited =>
      rw [hawaited] at h
      exact h.settled (by simp)
  | refuse hbusy =>
      refine h.concat rfl rfl rfl ⟨?_, ?_, fun _ => rfl⟩
      · simp [Balanced, h.balanced.eq]
      · simpa using hbusy
  | @accept o hidle hretries hsent hwire hdata =>
      rw [hidle] at h
      have hbalanced : accepted b.trace = (reports b.trace).map Delivery.packet := by
        simpa [Balanced] using h.balanced
      -- between the write and the note of the send the book is not balanced
      have hnow : Balanced
          (b.trace ++ [.contact .confirm .child (.send o.wire (.ok o.wire.length))] ++
          [.confirmed none o.packet (.ok o.packet.length) (some o)]) (some o) := by
        rw [Balanced, accepted_append, reports_append]
        simp [hbalanced]
      refine ⟨hnow, ?_, ?_, ?_, ?_⟩
      · rintro o' ⟨⟩
        rw [hretries]
        exact UInt8.zero_le
      · rintro o' ⟨⟩
        refine ⟨b.trace, o, [], ?_, rfl, rfl, hwire, rfl, rfl, ?_⟩
        · simp [Book.note, Book.await]
        · rw [hretries]
          rfl
      · rintro o' ⟨⟩
        exact hdata
      · refine forall_split_concat.mpr ⟨?_, hnow, by simp, by simp⟩
        exact forall_split_concat.mpr ⟨h.explained, trivial⟩

theorem entries {now : Tick} (h : Ledger config b.trace b.awaited)
    (hentries : Relation.ReflTransGen (Book.Entry config now) b b') :
    Ledger config b'.trace b'.awaited := by
  induction hentries with
  | refl => exact h
  | tail _ hentry ih => exact ih.entry hentry

end Ledger

theorem decode_frame_body {config : Config} (packet : Packet)
    (hsize : packet.body.length ≤ (Codec.ofConfig config).maxSize) :
    (Codec.ofConfig config).decode ((Codec.ofConfig config).frame packet.body) =
      .item (.packet packet) [] := by
  have hdecode := Codec.decode_frame_append (Codec.new_maxSize_le _ _ _) hsize []
  rwa [List.append_nil] at hdecode

/-- The retransmission of confirmed data is not taken for an acknowledgement. -/
theorem acknowledges_dataBody {config : Config} {seq : UInt8} {packet : Bytes}
    (hpacket : packet ≠ [])
    (hsize : (dataBody seq packet).length ≤ (Codec.ofConfig config).maxSize) :
    acknowledges config ((Codec.ofConfig config).frame (dataBody seq packet)) = false := by
  have hdecode := decode_frame_body { tag := Tag.frame, payload := opData :: seq :: packet } hsize
  have hread : Control.read (opData :: seq :: packet) = .data seq packet := by
    simp [Control.read, hpacket]
  rw [Packet.body] at hdecode
  simp only [acknowledges, dataBody, hdecode, hread, Bool.and_false]

theorem acknowledges_ackBody {config : Config} {seq : UInt8}
    (hsize : (ackBody seq).length ≤ (Codec.ofConfig config).maxSize) :
    acknowledges config ((Codec.ofConfig config).frame (ackBody seq)) = true := by
  have hdecode := decode_frame_body { tag := Tag.frame, payload := [opAck, seq] } hsize
  rw [Packet.body] at hdecode
  rw [acknowledges, ackBody, hdecode]
  rfl

end LinkStack.Frame
