import LinkStack.Proofs.Network.Layers

/-!
A stack with ports and user layers, and its listeners.

A stack is a framing layer on one end of a link in memory, a protocol switch
above it and what the switch is bound to: a port layer and user layers. Payloads
are addressed to a port or to a user tag; whoever is bound to the address in the
end is a layer or a receiver of the application that takes down what it hears.

The lemmas put the layers together: what becomes of a payload that is sent
(`sends_parcel`) and of a packet that arrives (`takes_parcel`).
-/

namespace LinkStack

open LinkStack.Frame (Packet Codec)
open Network (Contents Takes Sends Yields outline_eq)

/-! ### The application -/

/-- What the listeners of an application heard, in order, each under its key. -/
abbrev Log := List (Key × Bytes)

/-- The payloads that one listener heard. -/
def Log.heardBy (log : Log) (key : Key) : List Bytes :=
  log.filterMap fun (listener, payload) => if listener = key then some payload else none

theorem Log.heardBy_append (log log' : Log) (key : Key) :
    Log.heardBy (log ++ log') key = Log.heardBy log key ++ Log.heardBy log' key :=
  List.filterMap_append

/-- An application of listeners. A listener takes down a payload and gives any
answer, which may depend on everything that was heard so far; it makes no calls. -/
def listening (answer : Log → Except LayerError Nat) : App Log where
  layer _ key :=
    { name := pure "listener"
      recv := fun payload => do
        modify fun n => { n with app := n.app ++ [(key, payload)] }
        ExceptT.mk (do return answer (← get).app)
      send := fun _ => throw (.unsupported "listener" "send")
      capacity := pure 0
      delivered := fun _ => pure ()
      stats := pure {} }
  receive _ key payload := do
    modify fun n => { n with app := n.app ++ [(key, payload)] }
    match answer (← get).app with
    | .ok used => return used
    | .error _ => return 0
  handle _ _ _ := return none
  tick _ _ _ := pure ()

/-- The key of a listener. -/
def Object.listener? : Object → Option Key
  | .custom key => some key
  | .receiver _ key => some key
  | _ => none

/-! ### Addresses -/

/-- What a payload is addressed to. -/
inductive Address where
  | port (port : UInt8)
  | user (tag : UInt8)
  deriving DecidableEq, Repr

/-- A payload and its address. -/
structure Parcel where
  address : Address
  payload : Bytes
  deriving DecidableEq, Repr

/-- The packet in which a payload travels. -/
def Parcel.packet (p : Parcel) : Packet :=
  match p.address with
  | .port port => { tag := Tag.port, payload := port :: p.payload }
  | .user tag => { tag, payload := p.payload }

/-- Ports need no tag of their own; the tag of a user layer is one of the seven. -/
def Address.IsValid : Address → Prop
  | .port _ => True
  | .user tag => Tag.isUser tag

theorem fold_of_isUser {tag : UInt8} (h : Tag.isUser tag) : Tag.fold tag = tag := by
  refine Tag.fold_of_lt ?_
  simp only [Tag.isUser, Bool.and_eq_true, decide_eq_true_eq, UInt8.le_iff_toNat_le] at h
  refine UInt8.lt_iff_toNat_lt.mpr (Nat.lt_of_le_of_lt h.2 ?_)
  decide

theorem Parcel.fold_tag_ne {p : Parcel} (h : p.address.IsValid) :
    Tag.fold p.packet.tag ≠ Tag.frame := by
  obtain ⟨address, payload⟩ := p
  cases address with
  | port port =>
      show Tag.fold Tag.port ≠ Tag.frame
      decide
  | user tag =>
      show Tag.fold tag ≠ Tag.frame
      have htag : Tag.isUser tag := h
      rw [fold_of_isUser htag]
      rintro rfl
      exact absurd htag (by decide)

/-! ### Stacks -/

/-- The numbers of the objects of a stack, and of the inbox of its end of the
link. -/
structure Stack where
  channel : Ref
  framer : Ref
  dispatch : Ref
  transport : Ref
  inbox : Mailbox
  deriving DecidableEq, Repr

namespace Stack

variable (objects : Ref → Option Object) (s : Stack)

/-- The object that is given the payloads for an address. -/
def target? : Address → Option Ref
  | .port port => do
    let t ← (objects s.transport).bind View.transport.get?
    return (← t.ports.lookup port).target
  | .user tag => do
    let d ← (objects s.dispatch).bind View.dispatch.get?
    let u ← (objects (← d.table.lookup tag).target).bind View.user.get?
    (← u.node.links).parent

/-- The key of the listener that is given the payloads for an address. -/
def listener? (a : Address) : Option Key :=
  ((s.target? objects a).bind objects).bind Object.listener?

/-- Whether an address is a port that nothing is bound to. -/
def isUnbound : Address → Bool
  | .port port => (s.target? objects (.port port)).isNone
  | .user _ => false

/-- The object through which payloads are sent to an address: a port of the
transport, or the user layer that is bound to the tag. -/
def IsOutlet (outlet : Ref) : Address → Prop
  | .port port => objects outlet = some (.port s.transport port)
  | .user tag =>
    ∃ d handler, objects s.dispatch = some (.dispatch d) ∧ d.table.lookup tag = some handler ∧
      handler.target = outlet

/-- The objects of a stack are there and linked. The switch is bound to the port
layer and, under user tags, to user layers of these tags; every port that is
bound and every user layer has a listener. -/
structure Stands (config : Frame.Config) (outbox : Mailbox) : Prop where
  channel : ∃ l, objects s.channel = some (.loopback l s.inbox outbox) ∧
    l.node.links = some { child := none, parent := some s.framer }
  framer : ∃ f, objects s.framer = some (.framer f) ∧
    f.node.links = some { child := some s.channel, parent := some s.dispatch } ∧
    f.config = config ∧ f.outstanding = none ∧ f.buffer = []
  dispatch : ∃ d handler, objects s.dispatch = some (.dispatch d) ∧
    d.node.links = some { child := some s.framer, parent := none } ∧
    d.table.lookup Tag.port = some handler ∧ handler.target = s.transport
  transport : ∃ t, objects s.transport = some (.transport t) ∧
    t.node.links = some { child := some s.dispatch, parent := none }
  users : ∀ d tag handler, objects s.dispatch = some (.dispatch d) → Tag.isUser tag →
    d.table.lookup tag = some handler →
    ∃ u parent, objects handler.target = some (.user u) ∧ u.user = tag ∧
      u.node.links = some { child := some s.dispatch, parent := some parent } ∧
      ((objects parent).bind Object.listener?).isSome
  ports : ∀ t port handler, objects s.transport = some (.transport t) →
    t.ports.lookup port = some handler → ((objects handler.target).bind Object.listener?).isSome

/-! ### What an outline shows of a stack -/

section Outline

variable {σ : Type} (n : Network σ)

theorem bind_get?_outline {S : Type} (view : View S) [View.Outlined view] (ref : Ref) :
    (n.outline ref).bind view.get? =
      ((n.object? ref).bind view.get?).map (View.Outlined.outline view) := by
  rw [Network.outline]
  cases n.object? ref with
  | none => rfl
  | some object => exact View.Outlined.get?_outline object

theorem bind_listener?_outline (ref : Ref) :
    (n.outline ref).bind Object.listener? = (n.object? ref).bind Object.listener? := by
  rw [Network.outline]
  cases n.object? ref with
  | none => rfl
  | some object => cases object <;> rfl

theorem target?_outline (a : Address) : s.target? n.outline a = s.target? n.object? a := by
  cases a with
  | port port =>
      simp only [target?, bind_get?_outline]
      cases (n.object? s.transport).bind View.transport.get? <;> rfl
  | user tag =>
      simp only [target?, bind_get?_outline]
      cases (n.object? s.dispatch).bind View.dispatch.get? with
      | none => rfl
      | some d =>
          show (d.table.lookup tag).bind _ = (d.table.lookup tag).bind _
          refine Option.bind_congr fun handler _ => ?_
          cases (n.object? handler.target).bind View.user.get? <;> rfl

theorem isUnbound_outline (a : Address) : s.isUnbound n.outline a = s.isUnbound n.object? a := by
  cases a with
  | port port => rw [isUnbound, isUnbound, target?_outline]
  | user tag => rfl

theorem listener?_outline (a : Address) : s.listener? n.outline a = s.listener? n.object? a := by
  rw [listener?, listener?, target?_outline, Option.bind_assoc, Option.bind_assoc]
  exact Option.bind_congr fun ref _ => bind_listener?_outline n ref

variable {n s} {config : Frame.Config} {outbox : Mailbox}

theorem Stands.outline (h : s.Stands n.object? config outbox) :
    s.Stands n.outline config outbox where
  channel := by
    obtain ⟨l, hl, hlinks⟩ := h.channel
    exact ⟨_, outline_eq hl, hlinks⟩
  framer := by
    obtain ⟨f, hf, hlinks, hconfig, hidle, -⟩ := h.framer
    exact ⟨_, outline_eq hf, hlinks, hconfig, hidle, rfl⟩
  dispatch := by
    obtain ⟨d, handler, hd, hlinks, hlookup, htarget⟩ := h.dispatch
    exact ⟨_, handler, outline_eq hd, hlinks, hlookup, htarget⟩
  transport := by
    obtain ⟨t, ht, hlinks⟩ := h.transport
    exact ⟨_, outline_eq ht, hlinks⟩
  users d tag handler hd htag hlookup := by
    obtain ⟨d', -, hd', -⟩ := h.dispatch
    obtain rfl : d = { d' with stats := {} } := by
      rw [outline_eq hd'] at hd
      cases hd
      rfl
    obtain ⟨u, parent, hu, huser, hlinks, hparent⟩ := h.users d' tag handler hd' htag hlookup
    refine ⟨_, parent, outline_eq hu, huser, hlinks, ?_⟩
    rwa [bind_listener?_outline]
  ports t port handler ht hlookup := by
    obtain ⟨t', ht', -⟩ := h.transport
    obtain rfl : t = { t' with stats := {} } := by
      rw [outline_eq ht'] at ht
      cases ht
      rfl
    rw [bind_listener?_outline]
    exact h.ports t' port handler ht' hlookup

theorem IsOutlet.outline {outlet : Ref} {a : Address} (h : s.IsOutlet n.object? outlet a) :
    s.IsOutlet n.outline outlet a := by
  cases a with
  | port port => exact outline_eq h
  | user tag =>
      obtain ⟨d, handler, hd, hlookup, htarget⟩ := h
      exact ⟨_, handler, outline_eq hd, hlookup, htarget⟩

end Outline

/-! ### Payloads on their way -/

section Travel

variable {plan : Ref → Option Object} {s : Stack} {config : Frame.Config} {outbox : Mailbox}
  {answer : Log → Except LayerError Nat} {levels : Nat} {c : Contents Log}

/-- The frame in which a payload travels. -/
def frameOf (config : Frame.Config) (p : Parcel) : Bytes :=
  (Codec.ofConfig config).frame p.packet.body

/-- A payload is handed to the listener of its address. -/
def hear (c : Contents Log) (key : Key) (payload : Bytes) : Contents Log :=
  { c with app := c.app ++ [(key, payload)] }

/-- The contents after a payload has arrived. One for a port that nothing is
bound to is counted as an error. -/
def arrive (plan : Ref → Option Object) (s : Stack) (c : Contents Log) (p : Parcel) :
    Contents Log :=
  match s.listener? plan p.address with
  | some key => hear c key p.payload
  | none => if s.isUnbound plan p.address then c.fault s.transport else c

theorem takes_listener {ref : Ref} {key : Key}
    (h : (plan ref).bind Object.listener? = some key) (payload : Bytes) :
    Takes plan (((Network.calls (listening answer) (levels + 1)).layer ref).recv payload) c
      (hear c key payload) := by
  have happend : Yields plan (modify fun n : Network Log =>
      { n with app := n.app ++ [(key, payload)] }) c PUnit.unit (hear c key payload) :=
    Yields.modify_app (· ++ [(key, payload)])
  obtain ⟨object, hobject, hkey⟩ := Option.bind_eq_some_iff.mp h
  cases object with
  | custom own =>
      cases hkey
      refine ⟨answer (c.app ++ [(key, payload)]), Yields.recv hobject rfl ?_⟩
      refine Yields.bind_ok (Yields.lift happend) ?_
      refine Yields.get_app_bind (fun _ _ => rfl) fun n happ => ?_
      rw [happ]
      exact Yields.pure
  | receiver r own =>
      cases hkey
      have hused : ∃ used, Yields plan ((listening answer).receive
          (Network.calls (listening answer) levels) key payload) c used
          (hear c key payload) := by
        cases hanswer : answer (c.app ++ [(key, payload)]) with
        | ok used =>
            refine ⟨used, happend.bind (Yields.get_app_bind (fun _ _ => rfl) fun n happ => ?_)⟩
            simp only [happ, hear, hanswer]
            exact Yields.pure
        | error error =>
            refine ⟨0, happend.bind (Yields.get_app_bind (fun _ _ => rfl) fun n happ => ?_)⟩
            simp only [happ, hear, hanswer]
            exact Yields.pure
      obtain ⟨used, hused⟩ := hused
      refine ⟨.ok used, Yields.recv hobject rfl ?_⟩
      refine Yields.bind_ok (Yields.lift hused)
        (Yields.bind_ok (Yields.lift (x := ()) ?_) Yields.ok)
      exact Yields.modify_same hobject rfl fun _ hs hcondition => ⟨hs, hcondition⟩
  | _ => cases hkey

theorem target?_port {t : Addressing.Transport Ref} (ht : plan s.transport = some (.transport t))
    (port : UInt8) : s.target? plan (.port port) = (t.ports.lookup port).map (·.target) := by
  simp only [target?, ht, Option.bind_some, View.transport, Option.bind_eq_bind, Option.pure_def]
  cases t.ports.lookup port <;> rfl

theorem target?_user {d : Addressing.Dispatch Ref} (hd : plan s.dispatch = some (.dispatch d))
    (tag : UInt8) : s.target? plan (.user tag) = (d.table.lookup tag).bind fun handler =>
      ((plan handler.target).bind View.user.get?).bind fun u => u.node.links.bind (·.parent) := by
  simp only [target?, hd, Option.bind_some, View.dispatch, Option.bind_eq_bind]

/-- A payload that reaches a stack is heard by the listener of its address. -/
theorem takes_parcel (h : s.Stands plan config outbox) {p : Parcel} (hp : p.address.IsValid) :
    Takes plan (((Network.calls (listening answer) (levels + 3)).layer s.dispatch).recv
      p.packet.body) c (arrive plan s c p) := by
  obtain ⟨d, tp, hd, hdlinks, hport, htarget⟩ := h.dispatch
  obtain ⟨t, ht, htlinks⟩ := h.transport
  refine Takes.call hd rfl ?_
  obtain ⟨address, payload⟩ := p
  cases address with
  | port port =>
      have hlookup : d.table.lookup (Tag.fold Tag.port) = some tp := by
        rw [Tag.fold_of_lt (by decide), hport]
      refine Network.takes_dispatch hd hdlinks hlookup (by rw [htarget, ht]; rfl) ?_
      rw [htarget]
      refine Takes.call ht rfl ?_
      have htarget? := target?_port ht port
      cases hhandler : t.ports.lookup port with
      | none =>
          have harrive : arrive plan s c ⟨.port port, payload⟩ = c.fault s.transport := by
            simp only [arrive, listener?, isUnbound, htarget?, hhandler, Option.map_none,
              Option.bind_none, Option.isNone_none, if_true]
          rw [harrive]
          exact Network.takes_transport_unbound ht htlinks payload hhandler
      | some handler =>
          obtain ⟨key, hkey⟩ := Option.isSome_iff_exists.mp (h.ports t port handler ht hhandler)
          have harrive : arrive plan s c ⟨.port port, payload⟩ = hear c key payload := by
            simp only [arrive, listener?, htarget?, hhandler, Option.map_some, Option.bind_some,
              hkey]
          rw [harrive]
          refine Network.takes_transport ht htlinks hhandler ?_ (takes_listener hkey payload)
          obtain ⟨object, hobject, -⟩ := Option.bind_eq_some_iff.mp hkey
          rw [hobject]
          rfl
  | user tag =>
      have htarget? := target?_user hd tag
      have hfold : Tag.fold tag = tag := fold_of_isUser hp
      cases hhandler : d.table.lookup tag with
      | none =>
          have harrive : arrive plan s c ⟨.user tag, payload⟩ = c := by
            simp only [arrive, listener?, isUnbound, htarget?, hhandler, Option.bind_none,
              Bool.false_eq_true, if_false]
          rw [harrive]
          exact Network.takes_dispatch_unbound hd hdlinks payload (hfold.symm ▸ hhandler)
      | some handler =>
          obtain ⟨u, parent, hu, huser, hulinks, hparent⟩ := h.users d tag handler hd hp hhandler
          obtain ⟨key, hkey⟩ := Option.isSome_iff_exists.mp hparent
          have harrive : arrive plan s c ⟨.user tag, payload⟩ = hear c key payload := by
            simp only [arrive, listener?, htarget?, hhandler, hu, View.user, hulinks,
              Option.bind_some, hkey]
          rw [harrive]
          refine Network.takes_dispatch hd hdlinks (hfold.symm ▸ hhandler) (by rw [hu]; rfl) ?_
          refine Takes.call hu rfl ?_
          subst huser
          refine Network.takes_user hu hulinks rfl ?_ (takes_listener hkey payload)
          obtain ⟨object, hobject, -⟩ := Option.bind_eq_some_iff.mp hkey
          rw [hobject]
          rfl

/-- A payload that is sent to an address ends up as a frame in the inbox of the
other end, or is refused. -/
theorem sends_parcel (h : s.Stands plan config outbox) {outlet : Ref} {p : Parcel}
    (hp : p.address.IsValid) (houtlet : s.IsOutlet plan outlet p.address) :
    Sends plan (((Network.calls (listening answer) (levels + 4)).layer outlet).send p.payload) c
      p.payload.length (p.packet.body.length ≤ (Codec.ofConfig config).maxSize)
      (c.updateMailbox outbox (· ++ [frameOf config p])) := by
  obtain ⟨l, hl, -⟩ := h.channel
  obtain ⟨f, hf, hflinks, rfl, -⟩ := h.framer
  obtain ⟨d, tp, hd, hdlinks, hport, htarget⟩ := h.dispatch
  obtain ⟨t, ht, htlinks⟩ := h.transport
  have hbelow (hbound : d.table.contains (Tag.fold p.packet.tag)) :
      Sends plan (((Network.calls (listening answer) (levels + 3)).layer s.dispatch).send
        p.packet.body) c p.packet.body.length
        (p.packet.body.length ≤ (Codec.ofConfig f.config).maxSize)
        (c.updateMailbox outbox (· ++ [frameOf f.config p])) := by
    have hchannel : Sends plan (((Network.calls (listening answer) (levels + 1)).layer
        s.channel).send (frameOf f.config p)) c (frameOf f.config p).length
        ((frameOf f.config p).length ≤ l.maxPacket) _ :=
      Sends.call hl rfl (Network.sends_channel hl (frameOf f.config p))
    have hframer := Network.sends_framer hf hflinks rfl (List.cons_ne_nil _ _) hchannel
    refine Sends.call hd rfl (Network.sends_dispatch hd hdlinks rfl hbound ?_)
    exact Sends.call hf rfl (hframer.imp And.left)
  obtain ⟨address, payload⟩ := p
  cases address with
  | port port =>
      refine Sends.call houtlet rfl (Network.sends_port ht htlinks rfl (hbelow ?_))
      have hfold : Tag.fold Tag.port = Tag.port := Tag.fold_of_lt (by decide)
      show (d.table.lookup (Tag.fold Tag.port)).isSome
      rw [hfold, hport]
      rfl
  | user tag =>
      obtain ⟨d', handler, hd', hlookup, rfl⟩ := houtlet
      obtain rfl : d' = d := by
        rw [hd] at hd'
        cases hd'
        rfl
      obtain ⟨u, parent, hu, rfl, hulinks, -⟩ := h.users d' tag handler hd hp hlookup
      refine Sends.call hu rfl (Network.sends_user hu hulinks rfl (hbelow ?_))
      show (d'.table.lookup (Tag.fold u.user)).isSome
      rw [fold_of_isUser hp, hlookup]
      rfl

end Travel

end Stack

end LinkStack
