import LinkStack.Proofs.Network.Detail

/-!
What the protocol switch and the port layer do in a network, in full.

Neither keeps anything but counters, which a detail does not show. So all that
there is to say of them is which layer they call, with which bytes, and what they
make of its answer.
-/

namespace LinkStack.Network

open Addressing (Dispatch Transport Handler)

variable {σ : Type} {plan : Ref → Option Object} {calls : Calls σ} {d : Detail σ} {ref : Ref}
  {links : Links Ref}

/-! ### The switch -/

section Dispatch

variable {s : Dispatch Ref} (h : plan ref = some (.dispatch s))

include h

section Links

variable (hlinks : s.node.links = some links)

include hlinks

/-- A received packet is given to the layer that its tag is bound to. -/
theorem leads_dispatch_recv {tag : UInt8} {payload : Bytes}
    (halive : ∀ handler, s.table.lookup (Tag.fold tag) = some handler →
      (plan handler.target).isSome)
    {Q : Except LayerError Nat → Detail σ → Prop} (hunbound : Q (.ok 0) d)
    (hrecv : ∀ handler, s.table.lookup (Tag.fold tag) = some handler →
      Leads plan ((calls.layer handler.target).recv (tag :: payload)).run d Q) :
    Leads plan (Dispatch.recv (site calls .dispatch ref) (tag :: payload)).run d Q := by
  refine Leads.bind_run (Leads.ensureInitialized h rfl (fun _ => rfl) hlinks ?_)
  refine Leads.lift (Leads.get_bare h rfl fun own hown => ?_)
  have htable : own.table = s.table := by
    rw [← hown]
    rfl
  rw [htable]
  cases hlookup : s.table.lookup (Tag.fold tag) with
  | none => exact Leads.lift (Leads.modify_passing h rfl (fun _ => rfl) (Leads.ok hunbound))
  | some handler =>
      refine Leads.lift (Leads.resolve (halive handler hlookup) ?_)
      exact Leads.lift (Leads.modify_passing h rfl (fun _ => rfl) (hrecv handler hlookup))

/-- A confirmed packet is refused, or its child decides. -/
theorem leads_dispatch_sendConfirmed {child : Ref} (hchild : links.child = some child)
    {tag : UInt8} {payload : Bytes} {Q : Except LayerError Nat → Detail σ → Prop}
    (hrefused : ∀ error, Q (.error error) d)
    (hsend : Leads plan ((calls.layer child).sendConfirmed (tag :: payload)).run d Q) :
    Leads plan (Dispatch.sendConfirmed (site calls .dispatch ref) (tag :: payload)).run d Q := by
  refine Leads.bind_run (Leads.bind_run (Leads.ensureInitialized h rfl (fun _ => rfl) hlinks ?_))
  refine Leads.lift (Leads.get_bare h rfl fun own _ => ?_)
  split
  · refine Leads.child h rfl (fun _ => rfl) hlinks hchild ?_
    refine Leads.bind_run (Leads.attempt (hsend.mono fun answer d' hQ => ?_))
    cases answer with
    | error error =>
        exact Leads.lift (Leads.modify_passing h rfl (fun _ => rfl) (Leads.throw hQ))
    | ok taken =>
        simp only
        split
        · exact Leads.lift (Leads.modify_passing h rfl (fun _ => rfl) (Leads.ok hQ))
        · exact Leads.ok hQ
  · exact Leads.lift (Leads.modify_passing h rfl (fun _ => rfl) (Leads.throw (hrefused _)))

end Links

/-- A report is passed on to the layer that the tag of its packet is bound to. -/
theorem leads_dispatch_delivered {status : DeliveryStatus} {tag : UInt8} {payload : Bytes}
    (halive : ∀ handler, s.table.lookup (Tag.fold tag) = some handler →
      (plan handler.target).isSome)
    {Q : Unit → Detail σ → Prop}
    (hunbound : s.table.lookup (Tag.fold tag) = none → Q () d)
    (hdelivered : ∀ handler, s.table.lookup (Tag.fold tag) = some handler →
      Leads plan ((calls.layer handler.target).delivered { status, packet := tag :: payload }) d
        Q) :
    Leads plan (Dispatch.delivered (site calls .dispatch ref)
      { status, packet := tag :: payload }) d Q := by
  refine Leads.bind (Leads.get_bare h rfl fun own hown => ?_)
  have htable : own.table = s.table := by
    rw [← hown]
    rfl
  rw [htable, Addressing.BindTable.resolve]
  cases hlookup : s.table.lookup (Tag.fold tag) with
  | none => exact Leads.bind (Leads.pure (Leads.pure (hunbound hlookup)))
  | some handler =>
      exact Leads.bind (Leads.resolve (halive handler hlookup) (hdelivered handler hlookup))

end Dispatch

/-! ### The port layer -/

section Transport

variable {t : Transport Ref} (h : plan ref = some (.transport t))

include h

section Links

variable (hlinks : t.node.links = some links)

include hlinks

/-- A received packet for one port is given, without its header, to the layer
that the port is bound to. -/
theorem leads_transport_recv {rest : Bytes}
    (halive : ∀ port handler, t.ports.lookup port = some handler →
      (plan handler.target).isSome)
    {Q : Except LayerError Nat → Detail σ → Prop} (hunbound : Q (.ok 0) d)
    (hrecv : ∀ port payload handler, rest = port :: payload →
      t.ports.lookup port = some handler →
      Leads plan ((calls.layer handler.target).recv payload).run d Q) :
    Leads plan (Transport.recv (site calls .transport ref) (Tag.port :: rest)).run d Q := by
  refine Leads.bind_run (Leads.ensureInitialized h rfl (fun _ => rfl) hlinks ?_)
  cases rest with
  | nil => exact Leads.lift (Leads.modify_passing h rfl (fun _ => rfl) (Leads.ok hunbound))
  | cons port payload =>
      refine Leads.lift (Leads.get_bare h rfl fun own hown => ?_)
      have hports : own.ports = t.ports := by
        rw [← hown]
        rfl
      rw [hports]
      cases hlookup : t.ports.lookup port with
      | none => exact Leads.lift (Leads.modify_passing h rfl (fun _ => rfl) (Leads.ok hunbound))
      | some handler =>
          refine Leads.lift (Leads.resolve (halive port handler hlookup) ?_)
          exact Leads.lift (Leads.modify_passing h rfl (fun _ => rfl)
            (hrecv port payload handler rfl hlookup))

/-- A confirmed payload of a port goes down behind its header. -/
theorem leads_port_sendConfirmed {child : Ref} (hchild : links.child = some child) {port : UInt8}
    {payload : Bytes} {Q : Except LayerError Nat → Detail σ → Prop}
    (hsend : Leads plan
      ((calls.layer child).sendConfirmed (Tag.port :: port :: payload)).run d fun answer d' =>
        match answer with
        | .ok taken => taken = (Tag.port :: port :: payload).length ∧ Q (.ok payload.length) d'
        | .error error => Q (.error error) d') :
    Leads plan
      ((Transport.portLayer (site calls .transport ref) port).sendConfirmed payload).run d Q := by
  refine Leads.bind_run (Leads.child h rfl (fun _ => rfl) hlinks hchild ?_)
  refine Leads.bind_run (Leads.attempt (hsend.mono fun answer d' hanswer => ?_))
  cases answer with
  | error error =>
      exact Leads.lift (Leads.modify_passing h rfl (fun _ => rfl) (Leads.throw hanswer))
  | ok taken =>
      obtain ⟨hall, hQ⟩ := hanswer
      have hwhole : ([Tag.port, port] ++ payload).length ≤ taken := Nat.le_of_eq hall.symm
      simp only
      rw [if_pos hwhole]
      exact Leads.lift (Leads.modify_passing h rfl (fun _ => rfl) (Leads.ok hQ))

end Links

/-- A report about a packet of a port is passed on, without its header, to the
layer that the port is bound to. -/
theorem leads_transport_delivered {status : DeliveryStatus} {port : UInt8} {payload : Bytes}
    (halive : ∀ handler, t.ports.lookup port = some handler → (plan handler.target).isSome)
    {Q : Unit → Detail σ → Prop} (hunbound : t.ports.lookup port = none → Q () d)
    (hdelivered : ∀ handler, t.ports.lookup port = some handler →
      Leads plan ((calls.layer handler.target).delivered { status, packet := payload }) d Q) :
    Leads plan (Transport.delivered (site calls .transport ref)
      { status, packet := Tag.port :: port :: payload }) d Q := by
  refine Leads.bind (Leads.get_bare h rfl fun own hown => ?_)
  have hports : own.ports = t.ports := by
    rw [← hown]
    rfl
  rw [hports, Addressing.BindTable.resolve]
  cases hlookup : t.ports.lookup port with
  | none => exact Leads.bind (Leads.pure (Leads.pure (hunbound hlookup)))
  | some handler =>
      exact Leads.bind (Leads.resolve (halive handler hlookup) (hdelivered handler hlookup))

end Transport

end LinkStack.Network
