import LinkStack.Proofs.Frame.Stream
import LinkStack.Proofs.Network.Outline

/-!
Plain packets on their way through the layers.

On the way down every layer either takes a packet as a whole, and then the frame
of it ends up in the inbox of the other side, or refuses it and changes nothing
(`Sends`). On the way up the answer of a layer does not matter, only what it
leaves behind (`Takes`). There is one lemma for each layer and direction; each
asks of the neighbour what the lemma about the neighbour's kind gives, so they
compose to any stack that the outline shows.
-/

namespace LinkStack.Network

open LinkStack.Addressing (Dispatch Transport UserLayer)
open LinkStack.Frame (Framer Packet Codec)
open Channel (Loopback)

variable {σ : Type} {plan : Ref → Option Object} {calls : Calls σ} {c c' : Contents σ} {ref : Ref}
  {links : Links Ref} {P : Prop}

/-- A call that takes the whole of a packet and changes the contents to `c'`,
which it can only do under the condition `P`, or refuses the packet and changes
nothing. -/
def Sends (plan : Ref → Option Object) (call : ExceptT LayerError (Act σ) Nat) (c : Contents σ)
    (length : Nat) (P : Prop) (c' : Contents σ) : Prop :=
  P ∧ Yields plan call.run c (.ok length) c' ∨ ∃ error, Yields plan call.run c (.error error) c

/-- A call that changes the contents to `c'`, whatever it answers. -/
def Takes (plan : Ref → Option Object) (call : ExceptT LayerError (Act σ) Nat) (c c' : Contents σ) :
    Prop :=
  ∃ answer, Yields plan call.run c answer c'

/-! ### On the way down -/

section Sends

variable {length : Nat}

theorem Sends.imp {call : ExceptT LayerError (Act σ) Nat} {P' : Prop} (h : P → P')
    (hsend : Sends plan call c length P c') : Sends plan call c length P' c' :=
  hsend.imp_left fun ⟨hP, hsent⟩ => ⟨h hP, hsent⟩

/-- A call that begins with an action which changes nothing. -/
theorem Sends.of_bind {α : Type} {act : ExceptT LayerError (Act σ) α} {x : α}
    {next : α → ExceptT LayerError (Act σ) Nat} (h : Yields plan act.run c (.ok x) c)
    (hsend : Sends plan (next x) c length P c') : Sends plan (act >>= next) c length P c' := by
  rcases hsend with ⟨hP, hsent⟩ | ⟨error, hrefused⟩
  · exact .inl ⟨hP, Yields.bind_ok h hsent⟩
  · exact .inr ⟨error, Yields.bind_ok h hrefused⟩

/-- A call that begins with a look at a state and needs only its outline. -/
theorem Sends.of_get {S : Type} {view : View S} [View.Outlined view] {object : Object} {state : S}
    {next : S → ExceptT LayerError (Act σ) Nat} (h : plan ref = some object)
    (hget : view.get? object = some state)
    (hnext : ∀ s, View.Outlined.outline view s = state → next s = next state)
    (hsend : Sends plan (next state) c length P c') :
    Sends plan (liftM (site calls view ref).get >>= next) c length P c' := by
  have hrun {answer : Except LayerError Nat} {d : Contents σ}
      (hcall : Yields plan (next state).run c answer d) :
      Yields plan (liftM (site calls view ref).get >>= next).run c answer d := by
    refine Yields.lift_bind (Yields.get_bind h hget fun s hs _ => ?_)
    rwa [hnext s hs]
  rcases hsend with ⟨hP, hsent⟩ | ⟨error, hrefused⟩
  · exact .inl ⟨hP, hrun hsent⟩
  · exact .inr ⟨error, hrun hrefused⟩

end Sends

section Calls

variable {app : App σ} {levels : Nat} {object : Object} {layer : Layer (Act σ)} {bytes : Bytes}
  (h : plan ref = some object) (hlayer : layerOf app (Network.calls app levels) ref object =
    some layer)

include h hlayer

theorem Sends.call {length : Nat} (hsend : Sends plan (layer.send bytes) c length P c') :
    Sends plan (((Network.calls app (levels + 1)).layer ref).send bytes) c length P c' := by
  rcases hsend with ⟨hP, hsent⟩ | ⟨error, hrefused⟩
  · exact .inl ⟨hP, Yields.send h hlayer hsent⟩
  · exact .inr ⟨error, Yields.send h hlayer hrefused⟩

theorem Takes.call (htake : Takes plan (layer.recv bytes) c c') :
    Takes plan (((Network.calls app (levels + 1)).layer ref).recv bytes) c c' := by
  obtain ⟨answer, hrun⟩ := htake
  exact ⟨answer, Yields.recv h hlayer hrun⟩

end Calls

section Channel

variable {l : Loopback Ref} {inbox outbox : Mailbox}
  (h : plan ref = some (.loopback l inbox outbox))

include h

theorem sends_channel (bytes : Bytes) :
    Sends plan (Loopback.write (site calls .loopback ref) (wire inbox outbox) bytes) c
      bytes.length (bytes.length ≤ l.maxPacket) (c.updateMailbox outbox (· ++ [bytes])) := by
  have hcount {event : Traffic} {d : Contents σ} :
      Yields plan ((site calls .loopback ref).modify (·.count event)) d PUnit.unit d :=
    Yields.modify_same h rfl fun _ hs hcondition => ⟨hs, hcondition⟩
  refine Sends.of_get h rfl (fun s hs => by rw [← hs]; rfl) ?_
  by_cases hsize : l.maxPacket < bytes.length
  · simp only [if_pos hsize]
    exact .inr ⟨_, Yields.bind_ok (Yields.lift hcount) (Yields.bind_error Yields.throw)⟩
  · simp only [if_neg hsize]
    refine .inl ⟨Nat.le_of_not_lt hsize, ?_⟩
    refine Yields.bind_ok (Yields.lift (Yields.push bytes)) ?_
    exact Yields.bind_ok (Yields.lift hcount) Yields.ok

end Channel

section Framer

variable {f : Framer Ref} (h : plan ref = some (.framer f)) (hlinks : f.node.links = some links)

include h hlinks

theorem yields_write {child : Ref} (hchild : links.child = some child) {body : Bytes}
    (hbody : body ≠ []) (hsize : body.length ≤ f.bodyLimit) (answer : Except LayerError Unit)
    (hsend : Yields plan ((calls.layer child).send (f.codec.frame body)).run c
      (answer.map fun _ => (f.codec.frame body).length) c') :
    Yields plan (Framer.write (site calls .framer ref) body).run c
      (answer.map fun _ => f.codec.frame body) c' := by
  have hcount {event : Traffic} (hevent : event = .txPacket body.length ∨ event = .txDropped) :
      Yields plan ((site calls .framer ref).modify (·.count event)) c' PUnit.unit c' := by
    refine Yields.modify_same h rfl fun s hs hcondition => ?_
    rcases hevent with rfl | rfl <;> exact ⟨hs, hcondition⟩
  refine Yields.lift_bind (Yields.get_bind h rfl fun s hs _ => ?_)
  have hcodec : s.codec = f.codec := by rw [← hs]; rfl
  simp only [hcodec, Codec.encode_of_fits hbody hsize, List.nil_append]
  refine Yields.bind_ok Yields.pure ?_
  refine Yields.bind_ok (Yields.child h rfl (fun _ => rfl) hlinks hchild) ?_
  refine Yields.bind_ok (Yields.attempt hsend) ?_
  cases answer with
  | ok =>
      simp only [Except.map, if_true]
      exact Yields.bind_ok (Yields.lift (hcount (.inl rfl))) Yields.ok
  | error error => exact Yields.bind_ok (Yields.lift (hcount (.inr rfl))) Yields.throw

theorem sends_framer {child : Ref} (hchild : links.child = some child) {body : Bytes}
    (hbody : body ≠ [])
    (hsend : Sends plan ((calls.layer child).send (f.codec.frame body)) c
      (f.codec.frame body).length P c') :
    Sends plan (Framer.send (site calls .framer ref) body) c body.length
      (body.length ≤ f.bodyLimit ∧ P) c' := by
  have hlength : body.length ≠ 0 := fun hzero => hbody (List.length_eq_zero_iff.mp hzero)
  refine Sends.of_bind (Yields.ensureInitialized h rfl (fun _ => rfl) hlinks) ?_
  refine Sends.of_get h rfl (fun s hs => by rw [← hs]; rfl) ?_
  rw [Framer.checkSize, if_neg hlength, Nat.sub_zero]
  by_cases hsize : f.bodyLimit < body.length
  · rw [if_pos hsize]
    exact .inr ⟨_, Yields.bind_error Yields.pure⟩
  rw [if_neg hsize]
  have hfits : body.length ≤ f.bodyLimit := Nat.le_of_not_lt hsize
  refine Sends.of_bind Yields.pure ?_
  rcases hsend with ⟨hP, hsent⟩ | ⟨error, hrefused⟩
  · have hwrite := yields_write h hlinks hchild hbody hfits (.ok ()) hsent
    exact .inl ⟨⟨hfits, hP⟩, Yields.bind_ok hwrite Yields.ok⟩
  · have hwrite := yields_write h hlinks hchild hbody hfits (.error error) hrefused
    exact .inr ⟨error, Yields.bind_error hwrite⟩

end Framer

section Dispatch

variable {d : Dispatch Ref} (h : plan ref = some (.dispatch d))
  (hlinks : d.node.links = some links)

include h hlinks

/-- A packet with a bound tag has a way down. -/
theorem yields_outbound {child : Ref} (hchild : links.child = some child) {tag : UInt8}
    (rest : Bytes) (hbound : d.table.contains (Tag.fold tag)) :
    Yields plan (Dispatch.outbound (site calls .dispatch ref) (tag :: rest)).run c
      (.ok (calls.layer child)) c := by
  refine Yields.bind_ok (Yields.ensureInitialized h rfl (fun _ => rfl) hlinks) ?_
  refine Yields.lift_bind (Yields.get_bind h rfl fun s hs _ => ?_)
  have htable : s.table = d.table := by rw [← hs]; rfl
  simp only [htable, hbound, if_true]
  exact Yields.child h rfl (fun _ => rfl) hlinks hchild

theorem sends_dispatch {child : Ref} (hchild : links.child = some child) {tag : UInt8}
    {rest : Bytes} (hbound : d.table.contains (Tag.fold tag))
    (hsend : Sends plan ((calls.layer child).send (tag :: rest)) c (tag :: rest).length P c') :
    Sends plan (Dispatch.send (site calls .dispatch ref) (tag :: rest)) c (tag :: rest).length
      P c' := by
  refine Sends.of_bind (yields_outbound h hlinks hchild rest hbound) ?_
  have hcount {event : Traffic} {e : Contents σ} :
      Yields plan ((site calls .dispatch ref).modify (·.count event)) e PUnit.unit e :=
    Yields.modify_same h rfl fun _ hs hcondition => ⟨hs, hcondition⟩
  rcases hsend with ⟨hP, hsent⟩ | ⟨error, hrefused⟩
  · refine .inl ⟨hP, Yields.bind_ok (Yields.attempt hsent) ?_⟩
    simp only [List.length_cons, Nat.zero_lt_succ, if_true]
    exact Yields.bind_ok (Yields.lift hcount) Yields.ok
  · refine .inr ⟨error, Yields.bind_ok (Yields.attempt hrefused) ?_⟩
    exact Yields.bind_ok (Yields.lift hcount) Yields.throw

end Dispatch

theorem sends_behind {count : Traffic → Act σ Unit}
    {send : Bytes → ExceptT LayerError (Act σ) Nat} {header payload : Bytes}
    (hcount : ∀ (event : Traffic) (e : Contents σ),
      event = .txPacket payload.length ∨ event = .txDropped → Yields plan (count event) e () e)
    (hsend : Sends plan (send (header ++ payload)) c (header ++ payload).length P c') :
    Sends plan (Addressing.sendBehind count send header payload) c payload.length P c' := by
  rcases hsend with ⟨hP, hsent⟩ | ⟨error, hrefused⟩
  · refine .inl ⟨hP, Yields.bind_ok (Yields.attempt hsent) ?_⟩
    simp only [Nat.le_refl, if_true]
    exact Yields.bind_ok (Yields.lift (hcount _ _ (.inl rfl))) Yields.ok
  · refine .inr ⟨error, Yields.bind_ok (Yields.attempt hrefused) ?_⟩
    exact Yields.bind_ok (Yields.lift (hcount _ _ (.inr rfl))) Yields.throw

theorem sends_port {t : Transport Ref} (h : plan ref = some (.transport t))
    (hlinks : t.node.links = some links) {child : Ref} (hchild : links.child = some child)
    {port : UInt8} {payload : Bytes}
    (hsend : Sends plan ((calls.layer child).send (Tag.port :: port :: payload)) c
      (Tag.port :: port :: payload).length P c') :
    Sends plan ((Transport.portLayer (site calls .transport ref) port).send payload) c
      payload.length P c' := by
  refine Sends.of_bind (Yields.child h rfl (fun _ => rfl) hlinks hchild) ?_
  refine sends_behind ?_ hsend
  intro event e hevent
  refine Yields.modify_same h rfl fun s hs hcondition => ?_
  rcases hevent with rfl | rfl <;> exact ⟨hs, hcondition⟩

theorem sends_user {u : UserLayer Ref} (h : plan ref = some (.user u))
    (hlinks : u.node.links = some links) {child : Ref} (hchild : links.child = some child)
    {payload : Bytes}
    (hsend : Sends plan ((calls.layer child).send (u.user :: payload)) c
      (u.user :: payload).length P c') :
    Sends plan (UserLayer.send (site calls .user ref) payload) c payload.length P c' := by
  refine Sends.of_bind (Yields.child h rfl (fun _ => rfl) hlinks hchild) ?_
  refine Sends.of_get h rfl (fun s hs => by rw [← hs]; rfl) (sends_behind ?_ hsend)
  intro event e hevent
  refine Yields.modify_same h rfl fun s hs hcondition => ?_
  rcases hevent with rfl | rfl <;> exact ⟨hs, hcondition⟩

/-! ### On the way up -/

/-- A call that begins with an action which changes nothing. -/
theorem Takes.of_bind {α : Type} {act : ExceptT LayerError (Act σ) α} {x : α}
    {next : α → ExceptT LayerError (Act σ) Nat} (h : Yields plan act.run c (.ok x) c)
    (htake : Takes plan (next x) c c') : Takes plan (act >>= next) c c' := by
  obtain ⟨answer, hrun⟩ := htake
  exact ⟨answer, Yields.bind_ok h hrun⟩

/-- A call that begins with a look at a state and needs only its outline. -/
theorem Takes.of_get {S : Type} {view : View S} [View.Outlined view] {object : Object} {state : S}
    {next : S → ExceptT LayerError (Act σ) Nat} (h : plan ref = some object)
    (hget : view.get? object = some state)
    (hnext : ∀ s, View.Outlined.outline view s = state → next s = next state)
    (htake : Takes plan (next state) c c') :
    Takes plan (liftM (site calls view ref).get >>= next) c c' := by
  obtain ⟨answer, hrun⟩ := htake
  refine ⟨answer, Yields.lift_bind (Yields.get_bind h hget fun s hs _ => ?_)⟩
  rwa [hnext s hs]

/-- The contents after an error that an object has counted. -/
def Contents.fault (c : Contents σ) (ref : Ref) : Contents σ :=
  c.setCondition ref
    { c.condition ref with rxErrors := Stats.bump (c.condition ref).rxErrors 1 }

section Transport

variable {t : Transport Ref} (h : plan ref = some (.transport t))
  (hlinks : t.node.links = some links)

include h hlinks

/-- A packet for a port goes to the handler of the port, without its header. -/
theorem takes_transport {port : UInt8} {payload : Bytes} {handler : Addressing.Handler Ref}
    (hlookup : t.ports.lookup port = some handler) (halive : (plan handler.target).isSome)
    (htake : Takes plan ((calls.layer handler.target).recv payload) c c') :
    Takes plan (Transport.recv (site calls .transport ref) (Tag.port :: port :: payload)) c c' := by
  refine Takes.of_bind (Yields.ensureInitialized h rfl (fun _ => rfl) hlinks) ?_
  refine Takes.of_get h rfl (fun s hs => by rw [← hs]; rfl) ?_
  simp only [hlookup]
  refine Takes.of_bind (Yields.lift (Yields.resolve handler halive)) ?_
  refine Takes.of_bind (Yields.lift (Yields.modify_same h rfl ?_)) htake
  exact fun s hs hcondition => ⟨hs, hcondition⟩

/-- A packet for a port without a handler is counted as an error. -/
theorem takes_transport_unbound {port : UInt8} (payload : Bytes)
    (hlookup : t.ports.lookup port = none) :
    Takes plan (Transport.recv (site calls .transport ref) (Tag.port :: port :: payload)) c
      (c.fault ref) := by
  refine Takes.of_bind (Yields.ensureInitialized h rfl (fun _ => rfl) hlinks) ?_
  refine Takes.of_get h rfl (fun s hs => by rw [← hs]; rfl) ?_
  simp only [hlookup]
  refine ⟨_, Yields.bind_ok (Yields.lift (Yields.modify h rfl ?_)) Yields.ok⟩
  intro s hs hcondition
  rw [← hcondition]
  exact ⟨hs, rfl⟩

end Transport

/-- A packet of a user layer goes to the parent, without its tag. -/
theorem takes_user {u : UserLayer Ref} (h : plan ref = some (.user u))
    (hlinks : u.node.links = some links) {parent : Ref} (hparent : links.parent = some parent)
    (halive : (plan parent).isSome) {payload : Bytes}
    (htake : Takes plan ((calls.layer parent).recv payload) c c') :
    Takes plan (UserLayer.recv (site calls .user ref) (u.user :: payload)) c c' := by
  refine Takes.of_bind (Yields.ensureInitialized h rfl (fun _ => rfl) hlinks) ?_
  refine Takes.of_get h rfl (fun s hs => by rw [← hs]; rfl) ?_
  simp only [if_true]
  refine Takes.of_bind (Yields.parent? h rfl (fun _ => rfl) hlinks hparent halive) ?_
  refine Takes.of_bind (Yields.lift (Yields.modify_same h rfl ?_)) htake
  exact fun s hs hcondition => ⟨hs, hcondition⟩

section Dispatch

variable {d : Dispatch Ref} (h : plan ref = some (.dispatch d))
  (hlinks : d.node.links = some links)

include h hlinks

/-- A packet goes to the layer that its tag is bound to. -/
theorem takes_dispatch {tag : UInt8} {rest : Bytes} {handler : Addressing.Handler Ref}
    (hlookup : d.table.lookup (Tag.fold tag) = some handler)
    (halive : (plan handler.target).isSome)
    (htake : Takes plan ((calls.layer handler.target).recv (tag :: rest)) c c') :
    Takes plan (Dispatch.recv (site calls .dispatch ref) (tag :: rest)) c c' := by
  refine Takes.of_bind (Yields.ensureInitialized h rfl (fun _ => rfl) hlinks) ?_
  refine Takes.of_get h rfl (fun s hs => by rw [← hs]; rfl) ?_
  simp only [hlookup]
  refine Takes.of_bind (Yields.lift (Yields.resolve handler halive)) ?_
  refine Takes.of_bind (Yields.lift (Yields.modify_same h rfl ?_)) htake
  exact fun s hs hcondition => ⟨hs, hcondition⟩

/-- A packet with a tag that is not bound goes nowhere. -/
theorem takes_dispatch_unbound {tag : UInt8} (rest : Bytes)
    (hlookup : d.table.lookup (Tag.fold tag) = none) :
    Takes plan (Dispatch.recv (site calls .dispatch ref) (tag :: rest)) c c := by
  refine Takes.of_bind (Yields.ensureInitialized h rfl (fun _ => rfl) hlinks) ?_
  refine Takes.of_get h rfl (fun s hs => by rw [← hs]; rfl) ?_
  simp only [hlookup]
  refine ⟨_, Yields.bind_ok (Yields.lift (Yields.modify_same h rfl ?_)) Yields.ok⟩
  exact fun s hs hcondition => ⟨hs, hcondition⟩

end Dispatch

/-- The contents after a framing layer has changed its buffer. -/
def Contents.setBuffer (c : Contents σ) (ref : Ref) (buffer : Bytes) : Contents σ :=
  c.setCondition ref { c.condition ref with buffer }

theorem Contents.setBuffer_setBuffer_of_eq {buffer : Bytes}
    (h : (c.condition ref).buffer = buffer) (buffer' : Bytes) :
    (c.setBuffer ref buffer').setBuffer ref buffer = c := by
  simp only [setBuffer, setCondition_setCondition, condition_setCondition, ← h]
  exact c.setCondition_self ref

section Framer

variable {f : Framer Ref} (h : plan ref = some (.framer f))
  (hidle : f.outstanding = none)

include h hidle

/-- Without an outstanding packet the retry timer does nothing. -/
theorem yields_retry : Yields plan (Framer.retry (site calls .framer ref)) c () c := by
  refine Yields.get_bind h rfl fun s hs hcondition => Yields.now_bind fun now => ?_
  have hexpiry : s.expireOutstanding now = (.nothing, s) := by
    have houtstanding : s.outstanding = none := by
      rw [← hidle, ← hs]
      rfl
    rw [Framer.expireOutstanding, houtstanding]
  rw [hexpiry]
  exact (Yields.modify_same h rfl fun _ _ _ => ⟨hs, hcondition⟩).bind Yields.pure

/-- Nor do the timers of a framing layer that has received nothing in part. -/
theorem yields_service (hbuffer : (c.condition ref).buffer = []) :
    Yields plan (Framer.service (site calls .framer ref)) c () c := by
  refine Yields.now_bind fun now => Yields.bind (Yields.modify_same h rfl ?_) (yields_retry h hidle)
  intro s hs hcondition
  have hempty : s.buffer = [] := by
    rw [← hbuffer, ← hcondition]
    rfl
  rw [Framer.expirePartial, if_neg (by simp [hempty])]
  exact ⟨hs, hcondition⟩

variable (hlinks : f.node.links = some links) {parent : Ref} (hparent : links.parent = some parent)
  (halive : (plan parent).isSome)

omit hidle

include hlinks hparent halive

theorem yields_deliver {body : Bytes} (htake : Takes plan ((calls.layer parent).recv body) c c') :
    Yields plan (Framer.deliver (site calls .framer ref) body) c () c' := by
  obtain ⟨answer, hrun⟩ := htake
  refine Yields.bind (Yields.parent? h rfl (fun _ => rfl) hlinks hparent halive) ?_
  refine Yields.bind (Yields.modify_same h rfl ?_) (hrun.bind Yields.pure)
  exact fun s hs hcondition => ⟨hs, hcondition⟩

/-- The one frame in the buffer is taken out of it and its packet is delivered. -/
theorem yields_drain {packet : Packet} (hplain : Tag.fold packet.tag ≠ Tag.frame)
    (hsize : packet.body.length ≤ f.bodyLimit) (hempty : (c.condition ref).buffer = [])
    (hempty' : (c'.condition ref).buffer = [])
    (htake : Takes plan ((calls.layer parent).recv packet.body) c c') (turns : Nat) :
    Yields plan (Framer.drain (site calls .framer ref) (turns + 2))
      (c.setBuffer ref (f.codec.frame packet.body)) () c' := by
  have hdecode := Codec.decode_frame_append (Codec.new_maxSize_le _ _ _) hsize []
  rw [List.append_nil] at hdecode
  refine Yields.get_bind h rfl fun s hs hcondition => ?_
  rw [Contents.setBuffer, Contents.condition_setCondition] at hcondition
  have hread : s.codec.decode s.buffer = .item (.packet packet) [] := by
    have hcodec : s.codec = f.codec := by rw [← hs]; rfl
    have hframe : s.buffer = f.codec.frame packet.body :=
      congrArg Object.Condition.buffer hcondition
    rw [hcodec, hframe]
    exact hdecode
  have hemptied : Yields plan ((site calls .framer ref).modify fun f => { f with buffer := [] })
      (c.setBuffer ref (f.codec.frame packet.body)) () c := by
    have hrun : Yields plan ((site calls .framer ref).modify fun f => { f with buffer := [] })
        (c.setBuffer ref (f.codec.frame packet.body)) ()
        ((c.setBuffer ref (f.codec.frame packet.body)).setBuffer ref []) :=
      Yields.modify h rfl fun _ hs hcondition => ⟨hs, by rw [← hcondition]; rfl⟩
    rwa [Contents.setBuffer_setBuffer_of_eq hempty] at hrun
  have htaken : Yields plan (Framer.take (site calls .framer ref) (.packet packet)) c () c' := by
    rw [Framer.take, if_neg hplain]
    exact yields_deliver h hlinks hparent halive htake
  rw [hread]
  refine hemptied.bind (htaken.bind (Yields.get_bind h rfl fun s _ hcondition => ?_))
  have hnone : s.buffer = [] := by
    rw [← hempty', ← hcondition]
    rfl
  rw [hnone]
  exact Yields.pure

include hidle

/-- A whole frame is received and its packet is delivered. -/
theorem takes_framer {packet : Packet} (hplain : Tag.fold packet.tag ≠ Tag.frame)
    (hsize : packet.body.length ≤ f.bodyLimit) (hempty : (c.condition ref).buffer = [])
    (hempty' : (c'.condition ref).buffer = [])
    (htake : Takes plan ((calls.layer parent).recv packet.body) c c') :
    Takes plan (Framer.recv (site calls .framer ref) (f.codec.frame packet.body)) c c' := by
  have hreceived (now : Tick) : Yields plan ((site calls .framer ref).modify fun f' =>
      (f'.expirePartial now).receive now (f.codec.frame packet.body)) c ()
      (c.setBuffer ref (f.codec.frame packet.body)) := by
    refine Yields.modify h rfl fun s hs hcondition => ?_
    have hnone : s.buffer = [] := by
      rw [← hempty, ← hcondition]
      rfl
    rw [Framer.expirePartial, if_neg (by simp [hnone]), Framer.receive, hnone, List.nil_append,
      ← hcondition]
    exact ⟨hs, rfl⟩
  have hdrained (size : Nat) (hpos : size ≠ 0) :
      Yields plan (Framer.drain (site calls .framer ref) (size + 1))
        (c.setBuffer ref (f.codec.frame packet.body)) () c' := by
    obtain ⟨turns, rfl⟩ := Nat.exists_eq_succ_of_ne_zero hpos
    exact yields_drain h hlinks hparent halive hplain hsize hempty hempty' htake turns
  refine Takes.of_bind (Yields.ensureInitialized h rfl (fun _ => rfl) hlinks) ?_
  refine ⟨.ok (f.codec.frame packet.body).length, ?_⟩
  refine Yields.lift_bind (Yields.now_bind fun now => ?_)
  refine Yields.bind_ok (Yields.lift (hreceived now)) ?_
  refine Yields.lift_bind (Yields.get_bind h rfl fun s _ hcondition => ?_)
  have hpos : s.buffer.length ≠ 0 := by
    have hframe : s.buffer = f.codec.frame packet.body := by
      rw [Contents.setBuffer, Contents.condition_setCondition] at hcondition
      exact congrArg Object.Condition.buffer hcondition
    rw [hframe]
    exact Nat.succ_ne_zero _
  refine Yields.bind_ok (Yields.lift (hdrained _ hpos)) ?_
  exact Yields.bind_ok (Yields.lift (yields_retry h hidle)) Yields.ok

end Framer

section Channel

variable {l : Loopback Ref} {inbox outbox : Mailbox}
  (h : plan ref = some (.loopback l inbox outbox)) (hlinks : l.node.links = some links)
  {parent : Ref} (hparent : links.parent = some parent) (halive : (plan parent).isSome)

include h hlinks hparent halive

theorem yields_arrive {bytes : Bytes} (htake : Takes plan ((calls.layer parent).recv bytes) c c') :
    Yields plan (Channel.deliver (site calls .loopback ref) Loopback.node
      (fun event => (site calls .loopback ref).modify (·.count event)) bytes) c () c' := by
  have hcount {event : Traffic} :
      Yields plan ((site calls .loopback ref).modify (·.count event)) c' PUnit.unit c' :=
    Yields.modify_same h rfl fun _ hs hcondition => ⟨hs, hcondition⟩
  obtain ⟨answer, hrun⟩ := htake
  refine Yields.bind (Yields.parent? h rfl (fun _ => rfl) hlinks hparent halive) ?_
  refine Yields.bind hrun ?_
  cases answer <;> exact hcount

variable {I : List Bytes → Contents σ → Prop}
  (hinbox : ∀ {writes : List Bytes} {c : Contents σ}, I writes c → c.mailbox inbox = writes)
  (htake : ∀ {bytes : Bytes} {rest : List Bytes} {c : Contents σ}, I (bytes :: rest) c →
    ∃ c', I rest c' ∧
      Takes plan ((calls.layer parent).recv bytes) (c.updateMailbox inbox List.tail) c')

include hinbox htake

/-- The loop of a poll. `I` says what holds while the given writes wait. -/
theorem yields_drainInbox {writes : List Bytes} (hI : I writes c) (turns processed : Nat) :
    ∃ total c', I [] c' ∧
      Yields plan (Loopback.drain (site calls .loopback ref) (wire inbox outbox)
        (writes.length + turns) processed) c total c' := by
  induction writes generalizing c processed with
  | nil =>
      refine ⟨processed, c, hI, ?_⟩
      cases turns with
      | zero => exact Yields.pure
      | succ turns =>
          rw [List.length_nil, Nat.zero_add]
          exact Yields.bind (Yields.pop_nil (hinbox hI)) Yields.pure
  | cons bytes writes ih =>
      obtain ⟨c', hI', htaken⟩ := htake hI
      obtain ⟨total, c'', hI'', hrest⟩ := ih hI' (processed + bytes.length)
      refine ⟨total, c'', hI'', ?_⟩
      rw [List.length_cons, Nat.succ_add]
      refine Yields.bind (Yields.pop_cons (hinbox hI)) ?_
      exact Yields.bind (yields_arrive h hlinks hparent halive htaken) hrest

theorem yields_poll {writes : List Bytes} (hI : I writes c) :
    ∃ total c', I [] c' ∧ Yields plan (poll calls ref).run c (.ok total) c' := by
  obtain ⟨total, c', hI', hdrain⟩ := yields_drainInbox h hlinks hparent halive hinbox htake hI
    turnLimit 0
  have hpoll : Yields plan (Loopback.poll (site calls .loopback ref) (wire inbox outbox)).run c
      (.ok total) c' := by
    refine Yields.bind_ok (Yields.ensureInitialized h rfl (fun _ => rfl) hlinks) ?_
    refine Yields.bind_ok (Yields.lift Yields.pending) ?_
    rw [hinbox hI]
    exact Yields.lift hdrain
  refine ⟨total, c', hI', Yields.holding (by rw [h]; rfl) ?_⟩
  intro n hplan hc
  obtain ⟨n', hdoes, hn'⟩ := hpoll n hplan hc
  refine ⟨n', Does.get_bind (fun holders => by rw [object?_withHolders]) ?_, hn'⟩
  rw [← hplan, outline, Option.map_eq_some_iff] at h
  obtain ⟨object, hobject, houtline⟩ := h
  obtain ⟨l', rfl⟩ : ∃ l', object = .loopback l' inbox outbox := by
    cases object with
    | loopback l' => simp_all [Object.outline]
    | _ => cases houtline
  rw [hobject]
  exact hdoes

end Channel

theorem yields_serve {f : Framer Ref} (h : plan ref = some (.framer f))
    (hidle : f.outstanding = none) (hempty : (c.condition ref).buffer = []) (now : Tick) :
    Yields plan (serve calls now ref) c () c := by
  intro n hplan hc
  have hservice : Yields plan (Framer.service (site calls .framer ref)) c () c :=
    yields_service h hidle hempty
  obtain ⟨n', hdoes, hn'⟩ := hservice n hplan hc
  refine ⟨n', Does.get_bind (fun holders => by rw [object?_withHolders]) ?_, hn'⟩
  rw [← hplan, outline, Option.map_eq_some_iff] at h
  obtain ⟨object, hobject, houtline⟩ := h
  obtain ⟨f', rfl⟩ : ∃ f', object = .framer f' := by
    cases object with
    | framer f' => exact ⟨f', rfl⟩
    | _ => cases houtline
  rw [hobject]
  exact hdoes

end LinkStack.Network
