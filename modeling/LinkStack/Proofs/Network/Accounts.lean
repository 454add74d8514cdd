import LinkStack.Proofs.Frame.Wait
import LinkStack.Proofs.Network.Framing
import LinkStack.Proofs.Network.Routing

/-!
Reports of delivery on their way to those who sent.

Confirmed packets of many ports and tags go down through a protocol switch to one
framing layer, which awaits one of them at a time. Its report about a packet comes
back up and has only the bytes of the packet to find the way. The layers of the
application take down all calls that are made to them.

The account of a network is the packet that is awaited and the reports that were
made. What is seen settles it (`Account.settle`), unit by unit and then by the
retry timer; a confirmed send that is accepted opens it. A run is a sequence of
both, and every packet that was accepted comes to what was seen after it.
-/

namespace LinkStack

/-- The key of a layer of the application. -/
def Object.custom? : Object → Option Key
  | .custom key => some key
  | _ => none

namespace Reports

open LinkStack.Frame (Framer Packet Codec Item Outstanding Control Sight Watch Wait)
open Network (Detail Leads)

/-! ### The application -/

/-- A call to a layer of the application. -/
inductive Event where
  | wrote (bytes : Bytes) (answer : Except LayerError Nat)
  | heard (key : Key) (packet : Bytes)
  | told (key : Key) (report : Delivery)

/-- All calls to the layers of an application. -/
abbrev Trace := List Event

/-- The report in an event, if it is one, with the key of who is told. -/
def Event.told? : Event → Option (Key × Delivery)
  | .told key report => some (key, report)
  | _ => none

/-- The reports that were made, in order. -/
def told (trace : Trace) : List (Key × Delivery) := trace.filterMap Event.told?

theorem told_append (trace trace' : Trace) : told (trace ++ trace') = told trace ++ told trace' :=
  List.filterMap_append

/-- What the layers of an application answer; it may depend on all that was called
before. -/
structure Manner where
  write : Trace → Bytes → Except LayerError Nat
  take : Trace → Key → Bytes → Except LayerError Nat

def note (event : Event) : Act Trace Unit := modify fun n => { n with app := n.app ++ [event] }

/-- An application that takes down the calls to its layers. It makes no calls. -/
def recording (m : Manner) : App Trace where
  layer _ key :=
    { name := pure "layer"
      recv := fun packet => ExceptT.mk do
        let answer := m.take (← get).app key packet
        note (.heard key packet)
        return answer
      send := fun bytes => ExceptT.mk do
        let answer := m.write (← get).app bytes
        note (.wrote bytes answer)
        return answer
      capacity := pure 0
      delivered := fun report => note (.told key report)
      stats := pure {} }
  receive _ key packet := do
    let answer := m.take (← get).app key packet
    note (.heard key packet)
    return answer.toOption.getD 0
  handle _ _ _ := return none
  tick _ _ _ := pure ()

/-- The number of the confirmed packet that was written among some calls. -/
def number? (config : Frame.Config) (log : Trace) : Option UInt8 :=
  log.findSome? fun
    | .wrote bytes _ => Frame.numberOf? config bytes
    | _ => none

theorem number?_wrote (config : Frame.Config) (bytes : Bytes) (answer : Except LayerError Nat) :
    number? config [.wrote bytes answer] = Frame.numberOf? config bytes :=
  List.findSome?_singleton

section Application

variable {plan : Ref → Option Object} {m : Manner} {levels : Nat} {d : Detail Trace} {ref : Ref}
  {key : Key}

theorem leads_note {event : Event} {Q : Unit → Detail Trace → Prop}
    (hQ : Q () (d.withApp (d.app ++ [event]))) : Leads plan (note event) d Q :=
  Leads.modify_app (· ++ [event]) hQ

theorem leads_hear (h : (plan ref).bind Object.listener? = some key) {packet : Bytes}
    {Q : Except LayerError Nat → Detail Trace → Prop}
    (hQ : ∀ answer, Q answer (d.withApp (d.app ++ [.heard key packet]))) :
    Leads plan (((Network.calls (recording m) (levels + 1)).layer ref).recv packet).run d Q := by
  obtain ⟨object, hobject, hkey⟩ := Option.bind_eq_some_iff.mp h
  cases object with
  | custom own =>
      cases hkey
      refine Leads.recv hobject rfl (Leads.get (fun _ _ => rfl) fun n _ _ => ?_)
      exact Leads.bind (leads_note (Leads.pure (hQ _)))
  | receiver r own =>
      cases hkey
      refine Leads.recv hobject rfl (Leads.lift (Leads.get (fun _ _ => rfl) fun n _ _ => ?_))
      refine Leads.bind (leads_note (Leads.pure ?_))
      exact Leads.lift (Leads.modify_passing hobject rfl (fun _ => rfl) (Leads.ok (hQ _)))
  | _ => cases hkey

theorem leads_put_down (h : plan ref = some (.custom key)) {bytes : Bytes}
    {Q : Except LayerError Nat → Detail Trace → Prop}
    (hQ : ∀ answer, Q answer (d.withApp (d.app ++ [.wrote bytes answer]))) :
    Leads plan (((Network.calls (recording m) (levels + 1)).layer ref).send bytes).run d Q :=
  Leads.send h rfl (Leads.get (fun _ _ => rfl) fun _ _ _ =>
    Leads.bind (leads_note (Leads.pure (hQ _))))

/-- A receiver makes nothing of a report. -/
theorem leads_tell (h : ((plan ref).bind Object.listener?).isSome) {report : Delivery}
    {Q : Unit → Detail Trace → Prop}
    (hQ : Q () (d.withApp (d.app ++ (((plan ref).bind Object.custom?).map
      fun key => .told key report).toList))) :
    Leads plan (((Network.calls (recording m) (levels + 1)).layer ref).delivered report) d Q := by
  obtain ⟨key, hkey⟩ := Option.isSome_iff_exists.mp h
  obtain ⟨object, hobject, hkey⟩ := Option.bind_eq_some_iff.mp hkey
  rw [hobject] at hQ
  cases object with
  | custom own => exact Leads.delivered hobject rfl (leads_note hQ)
  | receiver r own =>
      have hsame : d.withApp (d.app ++ []) = d := by
        rw [List.append_nil]
        rfl
      exact Leads.delivered hobject rfl (Leads.pure (hsame ▸ hQ))
  | _ => cases hkey

end Application

/-! ### The switch -/

/-- What is offered of a parcel to send it, and returned in a report: its payload
to and from a port, the whole packet otherwise. -/
def handed (p : Parcel) : Bytes :=
  match p.address with
  | .port _ => p.payload
  | .user _ => p.packet.body

/-- A port, or a tag that is neither that of the ports nor one of the framing
layer. -/
def IsProper : Address → Prop
  | .port _ => True
  | .user tag => tag < Tag.frame ∧ tag ≠ Tag.port

/-- The framing layer, the protocol switch above it and the port layer above that. -/
structure Switch where
  framer : Ref
  dispatch : Ref
  transport : Ref
  deriving DecidableEq, Repr

namespace Switch

variable (s : Switch) (objects : Ref → Option Object)

/-- What an address is bound to. -/
def target? : Address → Option Ref
  | .port port => do
    let t ← (objects s.transport).bind View.transport.get?
    return (← t.ports.lookup port).target
  | .user tag => do
    let d ← (objects s.dispatch).bind View.dispatch.get?
    return (← d.table.lookup tag).target

/-- The key of the layer that hears the reports for an address. -/
def hearer? (a : Address) : Option Key := ((s.target? objects a).bind objects).bind Object.custom?

/-- The report that is made about a parcel, with the key of who is told. -/
def report? (p : Parcel) (status : DeliveryStatus) : Option (Key × Delivery) :=
  (s.hearer? objects p.address).map fun key => (key, { status, packet := handed p })

/-- The objects are there and linked. The framing layer stands on a layer of the
application and under the switch, the switch is bound to the port layer, and all
that is bound to the other tags and to the ports belongs to the application. -/
structure Stands (config : Frame.Config) : Prop where
  framer : ∃ f child key, objects s.framer = some (.framer f) ∧ f.config = config ∧
    f.node.links = some { child := some child, parent := some s.dispatch } ∧
    objects child = some (.custom key) ∧
    ∀ other, f.other = some other → ((objects other).bind Object.listener?).isSome
  dispatch : ∃ d handler, objects s.dispatch = some (.dispatch d) ∧
    d.node.links = some { child := some s.framer, parent := none } ∧
    d.table.lookup Tag.port = some handler ∧ handler.target = s.transport
  transport : ∃ t, objects s.transport = some (.transport t) ∧
    t.node.links = some { child := some s.dispatch, parent := none }
  tags : ∀ d tag handler, objects s.dispatch = some (.dispatch d) → tag ≠ Tag.port →
    d.table.lookup tag = some handler → ((objects handler.target).bind Object.listener?).isSome
  ports : ∀ t port handler, objects s.transport = some (.transport t) →
    t.ports.lookup port = some handler → ((objects handler.target).bind Object.listener?).isSome

end Switch

/-! ### The account -/

/-- The packet that is awaited, and the reports that were made. -/
structure Account where
  pending : Option (Parcel × Wait)
  reports : List (Key × Delivery)

/-- A report is made, if there is anyone to tell. -/
def Account.report (a : Account) (report? : Option (Key × Delivery)) : Account :=
  { a with reports := a.reports ++ report?.toList }

@[simp] theorem Account.report_none (a : Account) : a.report none = a := by
  rw [report, Option.toList_none, List.append_nil]

/-- What a sight makes of an account; `report?` says who is told. -/
def Account.settle (config : Frame.Config)
    (report? : Parcel → DeliveryStatus → Option (Key × Delivery)) (a : Account) (sight : Sight) :
    Account :=
  match a.pending with
  | none => a
  | some (parcel, wait) =>
    match wait.see config sight with
    | .ok wait => { a with pending := some (parcel, wait) }
    | .error status => { a with pending := none }.report (report? parcel status)

namespace Account

variable {config : Frame.Config} {report? : Parcel → DeliveryStatus → Option (Key × Delivery)}
  {a : Account} {sight : Sight} {parcel : Parcel} {wait wait' : Wait}

theorem settle_none (h : a.pending = none) : a.settle config report? sight = a := by
  rw [settle, h]

theorem settle_ok (h : a.pending = some (parcel, wait)) (hsee : wait.see config sight = .ok wait') :
    a.settle config report? sight = { a with pending := some (parcel, wait') } := by
  rw [settle, h]
  simp only [hsee]

theorem settle_error {status : DeliveryStatus} (h : a.pending = some (parcel, wait))
    (hsee : wait.see config sight = .error status) :
    a.settle config report? sight =
      ({ a with pending := none } : Account).report (report? parcel status) := by
  rw [settle, h]
  simp only [hsee]

/-- Units that do not acknowledge the awaited packet change nothing. -/
theorem settle_units {units : List (Except Frame.Error Item)}
    (h : ∀ x, a.pending = some x → units.any (Frame.acknowledgesNumber x.2.seq) = false) :
    a.settle config report? { units } = a := by
  cases hpending : a.pending with
  | none => exact settle_none hpending
  | some x =>
      rw [settle_ok hpending (Wait.see_units (h x hpending))]
      simp [← hpending]

/-- What is seen is seen unit by unit. -/
theorem settle_append (units : List (Except Frame.Error Item)) (sight : Sight) :
    a.settle config report? { sight with units := units ++ sight.units } =
      (a.settle config report? { units }).settle config report? sight := by
  cases hpending : a.pending with
  | none => rw [settle_none hpending, settle_none hpending, settle_none hpending]
  | some x =>
      cases hack : units.any (Frame.acknowledgesNumber x.2.seq) with
      | false =>
          rw [settle_units fun y hy => by rw [← Option.some.inj (hpending.symm.trans hy), hack],
            settle, settle, hpending]
          simp only [Wait.see, Sight.acknowledges, List.any_append, hack, Bool.false_or]
          rfl
      | true =>
          -- the first units settle the packet, and nothing is left for the rest
          have hboth : (units ++ sight.units).any (Frame.acknowledgesNumber x.2.seq) = true := by
            rw [List.any_append, hack, Bool.true_or]
          rw [settle_error hpending (Wait.see_acked hboth), settle_error hpending
            (Wait.see_acked hack), settle_none rfl]

theorem settle_concat (units : List (Except Frame.Error Item)) (unit : Except Frame.Error Item) :
    a.settle config report? { units := units ++ [unit] } =
      (a.settle config report? { units }).settle config report? { units := [unit] } :=
  settle_append units { units := [unit] }

/-- The timer looks after the units. -/
theorem settle_timer (units : List (Except Frame.Error Item)) (timer : Option Tick) :
    a.settle config report? { units, timer } =
      (a.settle config report? { units }).settle config report? { timer } := by
  have happend : a.settle config report? { units := units ++ [], timer } =
      (a.settle config report? { units }).settle config report? { timer } :=
    settle_append units { timer }
  rwa [List.append_nil] at happend

/-- An error is no acknowledgement. -/
theorem settle_concat_error (units : List (Except Frame.Error Item)) (error : Frame.Error) :
    a.settle config report? { units := units ++ [.error error] } =
      a.settle config report? { units } := by
  rw [settle_concat]
  exact settle_units fun _ _ => rfl

end Account

/-- A framing layer awaits the packet of a parcel. -/
structure Awaits (config : Frame.Config) (o : Outstanding) (x : Parcel × Wait) : Prop where
  packet : o.packet = x.1.packet.body
  tracks : x.2.Tracks config o
  proper : IsProper x.1.address

/-- What a framing layer watches and awaits, and which reports were made. -/
structure State (config : Frame.Config) (ref : Ref) (w : Watch) (a : Account) (d : Detail Trace) :
    Prop where
  framer : ∃ f, d.read? .framer ref = some f ∧ Watch.of f d.clock.now = w ∧
    Option.Rel (Awaits config) f.outstanding a.pending
  timers : d.clock.timers = [ref]
  told : told d.app = a.reports

/-- A confirmed send either leaves the account as it is or, if it is accepted,
finds it closed and opens it. -/
def Confirms (config : Frame.Config) (ref : Ref) (w : Watch) (a : Account) (p : Parcel)
    (d : Detail Trace) (size : Nat) : Except LayerError Nat → Detail Trace → Prop
  | .error _, d' => State config ref w a d'
  | .ok taken, d' => taken = size ∧ a.pending = none ∧
    ∃ seq log, d'.app = d.app ++ log ∧ number? config log = some seq ∧
      State config ref w { a with
        pending := some (p, { seq, sentAt := w.now, left := config.maxRetries.toNat }) } d'

variable {plan : Ref → Option Object} {config : Frame.Config} {s : Switch} {m : Manner}
  {levels : Nat} {ref : Ref} {w : Watch} {a : Account} {d : Detail Trace} {f f' : Framer Ref}

namespace State

variable (h : State config ref w a d)

include h

theorem now : d.clock.now = w.now := by
  obtain ⟨f, -, rfl, -⟩ := h.framer
  rfl

theorem tell (events : List Event) : State config ref w
    { a with reports := a.reports ++ Reports.told events } (d.withApp (d.app ++ events)) where
  framer := h.framer
  timers := h.timers
  told := by rw [Detail.app_withApp, told_append, h.told]

/-- A call that is not a report. -/
theorem note {event : Event} (hevent : event.told? = none) :
    State config ref w a (d.withApp (d.app ++ [event])) := by
  have htell := h.tell [event]
  have hnone : Reports.told [event] = [] := by simp [Reports.told, hevent]
  rwa [hnone, List.append_nil] at htell

theorem of_read (hf : d.read? .framer ref = some f) : Watch.of f d.clock.now = w ∧
    Option.Rel (Awaits config) f.outstanding a.pending := by
  obtain ⟨g, hg, hwatch, hpending⟩ := h.framer
  obtain rfl := Option.some.inj (hg.symm.trans hf)
  exact ⟨hwatch, hpending⟩

theorem exists_pending (hf : d.read? .framer ref = some f) {o : Outstanding}
    (ho : f.outstanding = some o) : ∃ x, a.pending = some x ∧ Awaits config o x := by
  have hrel := (h.of_read hf).2
  rw [ho] at hrel
  generalize a.pending = pending at hrel
  cases hrel with
  | some hawaits => exact ⟨_, rfl, hawaits⟩

theorem exists_outstanding (hf : d.read? .framer ref = some f) {x : Parcel × Wait}
    (hx : a.pending = some x) : ∃ o, f.outstanding = some o ∧ Awaits config o x := by
  have hrel := (h.of_read hf).2
  rw [hx] at hrel
  generalize f.outstanding = outstanding at hrel
  cases hrel with
  | some hawaits => exact ⟨_, rfl, hawaits⟩

/-- The framing layer changes. -/
theorem put {w' : Watch} {pending : Option (Parcel × Wait)} (hwatch : Watch.of f d.clock.now = w')
    (hpending : Option.Rel (Awaits config) f.outstanding pending) :
    State config ref w' { a with pending } (d.put .framer ref f) where
  framer := ⟨f, Detail.read?_put_self .., hwatch, hpending⟩
  timers := h.timers
  told := h.told

/-- The framing layer takes a unit from its buffer. -/
theorem put_rest (hf : d.read? .framer ref = some f) (rest : Bytes) :
    State config ref { w with buffer := rest } a
      (d.put .framer ref { f with buffer := rest }) := by
  obtain ⟨rfl, hpending⟩ := h.of_read hf
  exact h.put rfl hpending

/-- The framing layer changes in nothing that matters here. -/
theorem put_same (hf : d.read? .framer ref = some f)
    (hwatch : Watch.of f' d.clock.now = Watch.of f d.clock.now)
    (hsame : f'.outstanding = f.outstanding) : State config ref w a (d.put .framer ref f') := by
  obtain ⟨hw, hpending⟩ := h.of_read hf
  exact h.put (hwatch.trans hw) (hsame ▸ hpending)

/-- The framing layer discards a part of a frame that has waited too long. -/
theorem expire (hf : d.read? .framer ref = some f) (hconfig : f.config = config) :
    State config ref (w.expire config) a
      (d.put .framer ref (f.expirePartial d.clock.now)) := by
  obtain ⟨rfl, hpending⟩ := h.of_read hf
  refine h.put ?_ (f.outstanding_expirePartial _ ▸ hpending)
  rw [Watch.of_expirePartial, hconfig]

/-- Time passes. -/
theorem elapse (ticks : Tick) : State config ref { w with now := w.now + ticks } a
    { d with clock := d.clock.advance ticks } where
  framer := by
    obtain ⟨f, hf, rfl, hpending⟩ := h.framer
    exact ⟨f, hf, rfl, hpending⟩
  timers := h.timers
  told := h.told

end State

/-! ### Calls from the framing layer -/

/-- A call that leaves everything that matters here as it is. -/
def Keeps {α : Type} (plan : Ref → Option Object) (config : Frame.Config) (ref : Ref)
    (act : Act Trace α) : Prop :=
  ∀ {w : Watch} {a : Account} {d : Detail Trace}, State config ref w a d →
    Leads plan act d fun _ d' => State config ref w a d'

theorem alive_of_listens {ref : Ref} (h : ((plan ref).bind Object.listener?).isSome) :
    (plan ref).isSome := by
  obtain ⟨key, hkey⟩ := Option.isSome_iff_exists.mp h
  exact Network.alive_of_listener hkey

theorem keeps_hear {target : Ref} (h : ((plan target).bind Object.listener?).isSome)
    (packet : Bytes) : Keeps plan config ref
      (((Network.calls (recording m) (levels + 1)).layer target).recv packet).run := by
  obtain ⟨key, hkey⟩ := Option.isSome_iff_exists.mp h
  exact fun hs => leads_hear hkey fun _ => hs.note rfl

/-! ### Reports to the application -/

theorem Switch.target?_port {t : Addressing.Transport Ref}
    (ht : plan s.transport = some (.transport t)) {port : UInt8}
    {handler? : Option (Addressing.Handler Ref)} (hlookup : t.ports.lookup port = handler?) :
    s.target? plan (.port port) = handler?.map (·.target) := by
  subst hlookup
  simp only [target?, ht, Option.bind_some, View.transport, Option.bind_eq_bind, Option.pure_def]
  cases t.ports.lookup port <;> rfl

theorem Switch.target?_user {disp : Addressing.Dispatch Ref}
    (hd : plan s.dispatch = some (.dispatch disp)) {tag : UInt8}
    {handler? : Option (Addressing.Handler Ref)} (hlookup : disp.table.lookup tag = handler?) :
    s.target? plan (.user tag) = handler?.map (·.target) := by
  subst hlookup
  simp only [target?, hd, Option.bind_some, View.dispatch, Option.bind_eq_bind, Option.pure_def]
  cases disp.table.lookup tag <;> rfl

section Parcel

variable {p : Parcel} (hs : State config ref w a d) (status : DeliveryStatus)

include hs

theorem State.unbound (hnone : s.target? plan p.address = none) :
    State config ref w (a.report (s.report? plan p status)) d := by
  have hreport : s.report? plan p status = none := by
    rw [Switch.report?, Switch.hearer?, hnone]
    rfl
  rw [hreport, Account.report_none]
  exact hs

theorem leads_told {target : Ref} (hbound : s.target? plan p.address = some target)
    (hlistens : ((plan target).bind Object.listener?).isSome) :
    Leads plan (((Network.calls (recording m) (levels + 1)).layer target).delivered
        { status, packet := handed p }) d fun _ d' =>
      State config ref w (a.report (s.report? plan p status)) d' := by
  have htold : (s.report? plan p status).toList = told (((plan target).bind Object.custom?).map
      fun key => Event.told key { status, packet := handed p }).toList := by
    rw [Switch.report?, Switch.hearer?, hbound, Option.bind_some]
    cases (plan target).bind Object.custom? <;> rfl
  rw [Account.report, htold]
  exact leads_tell hlistens (hs.tell _)

end Parcel

/-! ### Calls to the switch -/

section Standing

variable (h : s.Stands plan config)

include h

theorem Switch.Stands.dispatch_isSome : (plan s.dispatch).isSome := by
  obtain ⟨disp, -, hd, -⟩ := h.dispatch
  rw [hd]
  rfl

/-- What the switch is given goes to a listener in the end, if to anyone. -/
theorem keeps_dispatch_recv {packet : Bytes} (hpacket : packet ≠ []) : Keeps plan config ref
    (((Network.calls (recording m) (levels + 3)).layer s.dispatch).recv packet).run := by
  intro w a d hs
  obtain ⟨tag, payload, rfl⟩ := List.exists_cons_of_ne_nil hpacket
  obtain ⟨disp, tp, hd, hdlinks, hport, htarget⟩ := h.dispatch
  obtain ⟨t, ht, htlinks⟩ := h.transport
  have htransport : (plan s.transport).isSome := by rw [ht]; rfl
  have hother {handler : Addressing.Handler Ref} (hne : Tag.fold tag ≠ Tag.port)
      (hlookup : disp.table.lookup (Tag.fold tag) = some handler) :
      ((plan handler.target).bind Object.listener?).isSome := h.tags disp _ handler hd hne hlookup
  refine Leads.recv hd rfl (Network.leads_dispatch_recv hd hdlinks ?_ hs ?_)
  · intro handler hlookup
    by_cases htag : Tag.fold tag = Tag.port
    · rw [htag, hport] at hlookup
      cases hlookup
      rwa [htarget]
    · exact alive_of_listens (hother htag hlookup)
  · intro handler hlookup
    by_cases htag : Tag.fold tag = Tag.port
    · rw [htag, hport] at hlookup
      cases hlookup
      obtain rfl : tag = Tag.port := by
        rw [Tag.fold] at htag
        split at htag
        · cases htag
        · exact htag
      rw [htarget]
      refine Leads.recv ht rfl (Network.leads_transport_recv ht htlinks ?_ hs ?_)
      · exact fun port handler hlookup => alive_of_listens (h.ports t port handler ht hlookup)
      · exact fun port payload handler _ hlookup =>
          keeps_hear (h.ports t port handler ht hlookup) payload hs
    · exact keeps_hear (hother htag hlookup) _ hs

/-- A report about the packet of a parcel comes to the layer that the address of
the parcel is bound to, with what was offered of the parcel. -/
theorem leads_dispatch_delivered {p : Parcel} (hp : IsProper p.address)
    (hs : State config ref w a d) (status : DeliveryStatus) :
    Leads plan (((Network.calls (recording m) (levels + 3)).layer s.dispatch).delivered
        { status, packet := p.packet.body }) d fun _ d' =>
      State config ref w (a.report (s.report? plan p status)) d' := by
  obtain ⟨disp, tp, hd, hdlinks, hport, htarget⟩ := h.dispatch
  obtain ⟨t, ht, htlinks⟩ := h.transport
  obtain ⟨address, payload⟩ := p
  refine Leads.delivered hd rfl ?_
  cases address with
  | port port =>
      -- the switch leads to the port layer, which looks up the port in the packet
      have hlookup : disp.table.lookup (Tag.fold Tag.port) = some tp := by
        rw [Tag.fold_of_lt (by decide), hport]
      refine Network.leads_dispatch_delivered hd ?_ ?_ ?_
      · intro handler hhandler
        obtain rfl := Option.some.inj (hlookup.symm.trans hhandler)
        rw [htarget, ht]
        rfl
      · intro hnone
        cases hlookup.symm.trans hnone
      intro handler hhandler
      obtain rfl := Option.some.inj (hlookup.symm.trans hhandler)
      rw [htarget]
      refine Leads.delivered ht rfl (Network.leads_transport_delivered ht ?_ ?_ ?_)
      · exact fun handler hhandler => alive_of_listens (h.ports t port handler ht hhandler)
      · exact fun hnone => hs.unbound status (Switch.target?_port ht hnone)
      · intro handler hhandler
        exact leads_told (p := ⟨.port port, payload⟩) hs status (Switch.target?_port ht hhandler)
          (h.ports t port handler ht hhandler)
  | user tag =>
      have hfold : Tag.fold tag = tag := Tag.fold_of_lt hp.1
      have hlistens {handler : Addressing.Handler Ref}
          (hhandler : disp.table.lookup tag = some handler) :
          ((plan handler.target).bind Object.listener?).isSome :=
        h.tags disp tag handler hd hp.2 hhandler
      refine Network.leads_dispatch_delivered hd ?_ ?_ ?_ <;> simp only [Parcel.packet, hfold]
      · exact fun handler hhandler => alive_of_listens (hlistens hhandler)
      · exact fun hnone => hs.unbound status (Switch.target?_user hd hnone)
      · intro handler hhandler
        exact leads_told (p := ⟨.user tag, payload⟩) hs status (Switch.target?_user hd hhandler)
          (hlistens hhandler)

/-! ### The framing layer -/

/-- A frame is put down. -/
theorem leads_write (hs : State config s.framer w a d) {body : Bytes} (hbody : body ≠ [])
    (hsize : body.length ≤ (Codec.ofConfig config).maxSize) :
    Leads plan (Framer.write (Network.site (Network.calls (recording m) (levels + 1)) .framer
        s.framer) body).run d fun answer d' =>
      State config s.framer w a d' ∧ ∀ wire, answer = .ok wire →
        ∃ reply, d'.app = d.app ++ [.wrote ((Codec.ofConfig config).frame body) reply] := by
  obtain ⟨f₀, child, key, hf₀, rfl, hlinks, hchild, -⟩ := h.framer
  refine Network.leads_write hf₀ hlinks rfl hbody hsize (leads_put_down hchild fun answer f hf => ?_)
  have hnoted : State f₀.config s.framer w a
      (d.withApp (d.app ++ [.wrote (f₀.codec.frame body) answer])) := hs.note rfl
  have hcount (event : Traffic) : State f₀.config s.framer w a
      ((d.withApp (d.app ++ [.wrote (f₀.codec.frame body) answer])).put .framer s.framer
        (f.count event)) := hnoted.put_same hf rfl rfl
  cases answer with
  | error error => exact ⟨hcount _, nofun⟩
  | ok written =>
      simp only
      split
      · exact ⟨hcount _, fun _ _ => ⟨_, rfl⟩⟩
      · exact Leads.name hchild rfl (Leads.pure ⟨hcount _, nofun⟩)

theorem keeps_deliver {body : Bytes} (hbody : body ≠ []) : Keeps plan config s.framer
    (Framer.deliver (Network.site (Network.calls (recording m) (levels + 3)) .framer s.framer)
      body) := by
  intro w a d hs
  obtain ⟨f₀, child, key, hf₀, -, hlinks, -, -⟩ := h.framer
  obtain ⟨f, hf, -, -⟩ := hs.framer
  refine Network.leads_deliver hf₀ hlinks rfl h.dispatch_isSome hf ?_
  exact keeps_dispatch_recv h hbody (hs.put_same hf rfl rfl)

/-- An acknowledgement settles the packet that is awaited under its number. -/
theorem leads_take_ack (hs : State config s.framer w a d) {packet : Packet} {seq : UInt8}
    (htag : Tag.fold packet.tag = Tag.frame) (hread : Control.read packet.payload = .ack seq) :
    Leads plan (Framer.control (Network.site (Network.calls (recording m) (levels + 3)) .framer
        s.framer) packet.payload) d fun _ d' =>
      State config s.framer w
        (a.settle config (s.report? plan) { units := [.ok (.packet packet)] }) d' := by
  obtain ⟨f₀, child, key, hf₀, -, hlinks, -, -⟩ := h.framer
  obtain ⟨f, hf, hw, -⟩ := hs.framer
  have hnumber (x : Parcel × Wait) : ([.ok (.packet packet)] :
      List (Except Frame.Error Item)).any (Frame.acknowledgesNumber x.2.seq) =
        decide (seq = x.2.seq) := by
    simp [Frame.acknowledgesNumber, htag, hread]
  refine Network.leads_control_ack hf₀ hlinks rfl h.dispatch_isSome hread hf ?_ ?_
  · intro o ho hseq
    obtain ⟨x, hx, hawaits⟩ := hs.exists_pending hf ho
    have hack : x.2.see config { units := [.ok (.packet packet)] } = .error .acked :=
      Wait.see_acked ((hnumber x).trans (decide_eq_true (hseq.symm.trans hawaits.tracks.seq)))
    have hsettled : State config s.framer w { a with pending := none }
        (d.put .framer s.framer { f with outstanding := none }) := hs.put hw .none
    rw [Account.settle_error hx hack, hawaits.packet]
    exact leads_dispatch_delivered h hawaits.proper hsettled .acked
  · intro hne
    have hquiet : a.settle config (s.report? plan) { units := [.ok (.packet packet)] } = a := by
      refine Account.settle_units fun x hx => ?_
      obtain ⟨o, ho, hawaits⟩ := hs.exists_outstanding hf hx
      exact (hnumber x).trans (decide_eq_false fun heq =>
        hne o ho (hawaits.tracks.seq.trans heq.symm))
    rw [hquiet]
    exact hs

/-- Confirmed data is acknowledged and delivered, or a copy. -/
theorem keeps_take_data (hconfig : config.validate = .ok ()) {payload packet : Bytes}
    {seq : UInt8} (hread : Control.read payload = .data seq packet) : Keeps plan config s.framer
      (Framer.control (Network.site (Network.calls (recording m) (levels + 3)) .framer s.framer)
        payload) := by
  intro w a d hs
  obtain ⟨f₀, child, key, hf₀, -⟩ := h.framer
  have hsize : (Frame.ackBody seq).length ≤ (Codec.ofConfig config).maxSize :=
    Frame.Config.three_le_maxSize hconfig
  refine Network.leads_control_data hf₀ hread ?_
  refine (leads_write h hs (List.cons_ne_nil _ _) hsize).mono ?_
  rintro _ d' ⟨hs', -⟩ f hf
  refine ⟨hs'.put_same hf rfl rfl, ?_⟩
  exact keeps_deliver h (Control.ne_nil_of_data hread) (hs'.put_same hf rfl rfl)

/-- One unit is taken. -/
theorem leads_take (hconfig : config.validate = .ok ()) (hs : State config s.framer w a d)
    (item : Item) : Leads plan (Framer.take (Network.site (Network.calls (recording m)
        (levels + 3)) .framer s.framer) item) d fun _ d' =>
      State config s.framer w (a.settle config (s.report? plan) { units := [.ok item] }) d' := by
  have hquiet (hnumber : ∀ seq, Frame.acknowledgesNumber seq (.ok item) = false) :
      a.settle config (s.report? plan) { units := [.ok item] } = a :=
    Account.settle_units fun x _ => by rw [List.any_cons, hnumber, List.any_nil, Bool.false_or]
  obtain ⟨f₀, child, key, hf₀, rfl, hlinks, -, hother⟩ := h.framer
  cases item with
  | stray bytes =>
      rw [hquiet fun _ => rfl]
      cases hnone : f₀.other with
      | none => exact Network.leads_take_stray_none hf₀ hnone bytes hs
      | some other =>
          exact Network.leads_take_stray hf₀ hnone (keeps_hear (hother other hnone) bytes hs)
  | packet packet =>
      rw [Framer.take]
      by_cases htag : Tag.fold packet.tag = Tag.frame
      · rw [if_pos htag]
        cases hread : Control.read packet.payload with
        | ack seq => exact leads_take_ack h hs htag hread
        | malformed =>
            rw [hquiet fun seq => by simp [Frame.acknowledgesNumber, hread], Framer.control, hread]
            obtain ⟨f, hf, -, -⟩ := hs.framer
            exact Leads.modify_tracked hf rfl (hs.put_same hf rfl rfl)
        | data seq inner =>
            rw [hquiet fun seq => by simp [Frame.acknowledgesNumber, hread]]
            exact keeps_take_data h hconfig hread hs
      · rw [if_neg htag, hquiet fun seq => by simp [Frame.acknowledgesNumber, htag]]
        exact keeps_deliver h (List.cons_ne_nil _ _) hs

/-- The retry timer looks. -/
theorem leads_retry (hs : State config s.framer w a d) :
    Leads plan (Framer.retry (Network.site (Network.calls (recording m) (levels + 3)) .framer
        s.framer)) d fun _ d' =>
      State config s.framer w (a.settle config (s.report? plan) { timer := some w.now }) d' := by
  have halive := h.dispatch_isSome
  obtain ⟨f₀, child, key, hf₀, rfl, hlinks, hchild, -⟩ := h.framer
  obtain ⟨f, hf, hw, -⟩ := hs.framer
  refine Leads.known hf₀ rfl hf fun hbare => ?_
  have hconfig : f.config = f₀.config := by
    rw [← hbare]
    rfl
  rw [← hs.now]
  refine Network.leads_retry hf₀ hlinks rfl rfl halive hf ?_ ?_ ?_
  · -- nothing is due
    intro hearly
    have hsame : a.settle f₀.config (s.report? plan) { timer := some d.clock.now } = a := by
      cases hpending : a.pending with
      | none => exact Account.settle_none hpending
      | some x =>
          obtain ⟨o, ho, hawaits⟩ := hs.exists_outstanding hf hpending
          rw [Account.settle_ok hpending
            (Wait.see_tick (hawaits.tracks.tick_early (hconfig ▸ hearly o ho)))]
          simp [← hpending]
    rw [hsame]
    exact hs
  · -- sent again
    intro o ho hdue hretries
    obtain ⟨x, hx, hawaits⟩ := hs.exists_pending hf ho
    obtain ⟨wait, htick, htracks⟩ :=
      hawaits.tracks.tick_again (hconfig ▸ hdue) (hconfig ▸ hretries)
    rw [Account.settle_ok hx (Wait.see_tick htick)]
    have hagain : State f₀.config s.framer w { a with pending := some (x.1, wait) }
        (d.put .framer s.framer (({ f with
          outstanding := some { o with retries := o.retries + 1, sentAt := d.clock.now } } :
            Framer Ref).count .txRetry)) :=
      hs.put hw (.some ⟨hawaits.packet, htracks, hawaits.proper⟩)
    exact leads_put_down hchild fun _ => hagain.note rfl
  · -- given up
    intro o ho hdue hretries
    obtain ⟨x, hx, hawaits⟩ := hs.exists_pending hf ho
    have hlost : State f₀.config s.framer w { a with pending := none }
        (d.put .framer s.framer
          (({ f with outstanding := none } : Framer Ref).count .txDropped)) :=
      hs.put hw .none
    rw [Account.settle_error hx (Wait.see_giveUp
      (hawaits.tracks.tick_giveUp (hconfig ▸ hdue) (hconfig ▸ hretries))), hawaits.packet]
    exact leads_dispatch_delivered h hawaits.proper hlost .dropped

/-- Bytes come to the framing layer. -/
theorem leads_recv (hconfig : config.validate = .ok ()) (hs : State config s.framer w a d)
    (bytes : Bytes) : Leads plan (((Network.calls (recording m) (levels + 4)).layer
        s.framer).recv bytes).run d fun _ d' =>
      State config s.framer (w.receive config bytes).2
        (a.settle config (s.report? plan) (w.receive config bytes).1) d' := by
  obtain ⟨f₀, child, key, hf₀, rfl, hlinks, -, -⟩ := h.framer
  obtain ⟨f, hf, hw, hrel⟩ := hs.framer
  refine Leads.known hf₀ rfl hf fun hbare => ?_
  have hexpired : Watch.of (f.expirePartial d.clock.now) d.clock.now = w.expire f₀.config := by
    rw [Watch.of_expirePartial, hw, ← hbare]
    rfl
  have hbuffer : (f.expirePartial d.clock.now).buffer = (w.expire f₀.config).buffer :=
    congrArg Watch.buffer hexpired
  -- the account after some of the units
  let I (units : List (Except Frame.Error Item)) (d' : Detail Trace) : Prop :=
    ∃ buffer, State f₀.config s.framer { buffer, lastRx := w.now, now := w.now }
      (a.settle f₀.config (s.report? plan) { units }) d'
  refine Leads.recv hf₀ rfl (Network.leads_recv (I := I) hf₀ ?_ ?_ hlinks hf ?_
    (congrArg (fun buffer => (f₀.codec.decodeAll (buffer ++ bytes)).1) hbuffer) ?_)
  · rintro units item rest d' g - ⟨buffer, hs'⟩ hg' - -
    refine (leads_take h hconfig (hs'.put_rest hg' rest) item).mono fun _ d'' hs'' => ?_
    obtain ⟨g', hg'', hw', -⟩ := hs''.framer
    refine ⟨⟨rest, ?_⟩, g', hg'', congrArg Watch.buffer hw'⟩
    rw [Account.settle_concat]
    exact hs''
  · rintro units error rest d' g - ⟨buffer, hs'⟩ hg' - -
    refine ⟨rest, ?_⟩
    rw [Account.settle_concat_error, ← Detail.put_put]
    exact (hs'.put_rest hg' rest).put_same (Detail.read?_put_self ..) rfl rfl
  · refine ⟨(f.expirePartial d.clock.now).buffer ++ bytes, ?_⟩
    rw [Account.settle_units fun _ _ => rfl]
    exact hs.put (by rw [← hs.now]; rfl) (f.outstanding_expirePartial _ ▸ hrel)
  · rintro d' g ⟨buffer, hs'⟩ hg' - hrest
    obtain rfl : g.buffer = buffer := congrArg Watch.buffer (hs'.of_read hg').1
    rw [hrest, hbuffer] at hs'
    have hsight : (w.receive f₀.config bytes).1 =
        { units := (f₀.codec.decodeAll ((w.expire f₀.config).buffer ++ bytes)).1,
          timer := some w.now } := rfl
    rw [hsight, Account.settle_timer]
    exact leads_retry h hs'

/-- The clock moves. -/
theorem leads_advance (hs : State config s.framer w a d) (ticks : Tick) :
    Leads plan (Network.advance (Network.calls (recording m) (levels + 3)) ticks) d fun _ d' =>
      State config s.framer (w.advance config ticks).2
        (a.settle config (s.report? plan) (w.advance config ticks).1) d' := by
  obtain ⟨f₀, child, key, hf₀, hconfig, -⟩ := h.framer
  refine Leads.advance ?_ ?_ <;> rw [hs.timers]
  · intro timer htimer
    rw [List.mem_singleton.mp htimer, hf₀]
    rfl
  · have hlater := hs.elapse ticks
    obtain ⟨f, hf, -⟩ := hlater.framer
    refine Leads.known hf₀ rfl hf fun hbare => ?_
    have hsame : f.config = config := by
      rw [← hconfig, ← hbare]
      rfl
    exact Leads.serve hf₀ (Network.leads_service hf (leads_retry h (hlater.expire hf hsame)))

/-! ### Confirmed sends -/

/-- The framing layer accepts a packet only while it awaits none. -/
theorem leads_framer_confirm (hs : State config s.framer w a d) {p : Parcel}
    (hp : IsProper p.address) :
    Leads plan (((Network.calls (recording m) (levels + 2)).layer s.framer).sendConfirmed
        p.packet.body).run d (Confirms config s.framer w a p d p.packet.body.length) := by
  obtain ⟨f₀, child, key, hf₀, rfl, hlinks, -⟩ := h.framer
  obtain ⟨f, hf, hw, -⟩ := hs.framer
  refine Leads.sendConfirmed hf₀ rfl (Network.leads_sendConfirmed hf₀ hlinks hf (fun _ => hs) ?_)
  intro hfits hidle
  have hsize : (Frame.dataBody f.nextSeq p.packet.body).length ≤
      (Codec.ofConfig f₀.config).maxSize := hfits
  have hclosed : a.pending = none := by
    cases hpending : a.pending with
    | none => rfl
    | some x =>
        obtain ⟨o, ho, -⟩ := hs.exists_outstanding hf hpending
        cases hidle.symm.trans ho
  have hnumbered : State f₀.config s.framer w a
      (d.put .framer s.framer { f with nextSeq := f.nextSeq + 1 }) := hs.put_same hf rfl rfl
  refine (leads_write h hnumbered (List.cons_ne_nil _ _) hsize).mono ?_
  rintro answer d' ⟨hs', hlog⟩
  cases answer with
  | error error => exact hs'
  | ok wire =>
      intro f' hf'
      obtain ⟨reply, happ⟩ := hlog wire rfl
      refine ⟨rfl, hclosed, f.nextSeq, _, happ, ?_,
        hs'.put (hs'.of_read hf').1 (.some ⟨rfl, ?_, hp⟩)⟩
      · exact (number?_wrote ..).trans (Frame.numberOf?_dataBody (List.cons_ne_nil _ _) hsize)
      · exact ⟨rfl, hs'.now, Nat.zero_add _⟩

theorem leads_dispatch_confirm (hs : State config s.framer w a d) {p : Parcel}
    (hp : IsProper p.address) :
    Leads plan (((Network.calls (recording m) (levels + 3)).layer s.dispatch).sendConfirmed
        p.packet.body).run d (Confirms config s.framer w a p d p.packet.body.length) := by
  obtain ⟨disp, -, hd, hdlinks, -⟩ := h.dispatch
  exact Leads.sendConfirmed hd rfl (Network.leads_dispatch_sendConfirmed hd hdlinks rfl
    (fun _ => hs) (leads_framer_confirm h hs hp))

theorem leads_port_confirm (hs : State config s.framer w a d) {outlet : Ref} {port : UInt8}
    (houtlet : plan outlet = some (.port s.transport port)) (payload : Bytes) :
    Leads plan (((Network.calls (recording m) (levels + 4)).layer outlet).sendConfirmed
        payload).run d (Confirms config s.framer w a ⟨.port port, payload⟩ d payload.length) := by
  obtain ⟨t, ht, htlinks⟩ := h.transport
  refine Leads.sendConfirmed houtlet rfl (Network.leads_port_sendConfirmed ht htlinks rfl ?_)
  refine (leads_dispatch_confirm (p := ⟨.port port, payload⟩) h hs trivial).mono ?_
  intro answer d' hanswer
  cases answer with
  | error error => exact hanswer
  | ok taken => exact ⟨hanswer.1, rfl, hanswer.2⟩

end Standing

end Reports

end LinkStack
