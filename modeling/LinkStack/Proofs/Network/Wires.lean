import LinkStack.Proofs.Network.Detail

/-!
What the ends of a link in memory and the redirects do in a network, in full.

As for framing layers, there is one lemma for each operation, which leaves the
calls to the neighbours to whoever uses it. The loop of a poll has an invariant
over the writes that still wait.
-/

namespace LinkStack.Network

open Channel (Loopback)
open Splice (Redirect)

variable {σ : Type} {plan : Ref → Option Object} {calls : Calls σ} {d : Detail σ} {ref : Ref}

section Channel

variable {l : Loopback Ref} {inbox outbox : Mailbox}
  (h : plan ref = some (.loopback l inbox outbox))

include h

/-- A write that is not too long waits at the other end. -/
theorem leads_channel_send {bytes : Bytes} {Q : Except LayerError Nat → Detail σ → Prop}
    (hfits : bytes.length ≤ l.maxPacket →
      Q (.ok bytes.length) (d.updateMailbox outbox (· ++ [bytes])))
    (hlong : l.maxPacket < bytes.length → Q (.error (.packetTooLarge bytes.length l.maxPacket)) d) :
    Leads plan (Loopback.write (site calls .loopback ref) (wire inbox outbox) bytes).run d Q := by
  refine Leads.lift (Leads.get_bare h rfl fun s hs => ?_)
  have hmax : s.maxPacket = l.maxPacket := by
    rw [← hs]
    rfl
  rw [hmax]
  by_cases hsize : l.maxPacket < bytes.length
  · rw [if_pos hsize]
    exact Leads.lift (Leads.modify_passing h rfl (fun _ => rfl) (Leads.throw (hlong hsize)))
  · rw [if_neg hsize]
    refine Leads.lift (Leads.push ?_)
    exact Leads.lift (Leads.modify_passing h rfl (fun _ => rfl) (Leads.ok (hfits (by omega))))

theorem leads_channel_capacity {Q : Nat → Detail σ → Prop} (hQ : Q l.maxPacket d) :
    Leads plan (Loopback.layer (site calls .loopback ref) (wire inbox outbox)).capacity d Q := by
  refine Leads.bind (Leads.get_bare h rfl fun s hs => ?_)
  have hmax : s.maxPacket = l.maxPacket := by
    rw [← hs]
    rfl
  rw [hmax]
  exact Leads.pure hQ

variable {links : Links Ref} (hlinks : l.node.links = some links) {parent : Ref}
  (hparent : links.parent = some parent) (halive : (plan parent).isSome)

include hlinks hparent halive

theorem leads_arrive {bytes : Bytes} {Q : Unit → Detail σ → Prop}
    (hrecv : Leads plan ((calls.layer parent).recv bytes).run d fun _ d' => Q () d') :
    Leads plan (Channel.deliver (site calls .loopback ref) Loopback.node
      (fun event => (site calls .loopback ref).modify (·.count event)) bytes) d Q := by
  refine Leads.bind (Leads.parent? h rfl (fun _ => rfl) hlinks hparent halive ?_)
  refine Leads.bind (hrecv.mono fun answer d' hQ => ?_)
  cases answer with
  | ok taken => exact Leads.modify_passing h rfl (fun _ => rfl) hQ
  | error error => exact Leads.modify_passing h rfl (fun _ => rfl) hQ

variable {I : List Bytes → Detail σ → Prop}
  (hinbox : ∀ {writes : List Bytes} {d : Detail σ}, I writes d → d.mailbox inbox = writes)
  (htake : ∀ {bytes : Bytes} {rest : List Bytes} {d : Detail σ}, I (bytes :: rest) d →
    Leads plan ((calls.layer parent).recv bytes).run (d.updateMailbox inbox List.tail)
      fun _ d' => I rest d')

include hinbox htake

/-- The loop of a poll. `I` says what holds while the given writes wait. -/
theorem leads_drainInbox {writes : List Bytes} (hI : I writes d) (turns processed : Nat) :
    Leads plan (Loopback.drain (site calls .loopback ref) (wire inbox outbox)
      (writes.length + turns) processed) d fun _ d' => I [] d' := by
  induction writes generalizing d processed with
  | nil =>
      cases turns with
      | zero => exact Leads.pure hI
      | succ turns =>
          rw [List.length_nil, Nat.zero_add]
          exact Leads.bind (Leads.pop_nil (hinbox hI) (Leads.pure hI))
  | cons bytes writes ih =>
      rw [List.length_cons, Nat.succ_add]
      refine Leads.bind (Leads.pop_cons (hinbox hI) ?_)
      refine Leads.bind (leads_arrive h hlinks hparent halive ((htake hI).mono ?_))
      exact fun _ d' hI' => ih hI' (processed + bytes.length)

/-- A poll takes all writes that wait. -/
theorem leads_poll {writes : List Bytes} (hI : I writes d)
    {Q : Except LayerError Nat → Detail σ → Prop} (hQ : ∀ total d', I [] d' → Q (.ok total) d') :
    Leads plan (poll calls ref).run d Q := by
  refine Leads.poll h ?_
  refine Leads.bind_run (Leads.ensureInitialized h rfl (fun _ => rfl) hlinks ?_)
  refine Leads.lift (Leads.pending ?_)
  rw [hinbox hI]
  have hdrain := leads_drainInbox h hlinks hparent halive hinbox htake hI turnLimit 0
  exact Leads.map (hdrain.mono fun total d' hI' => hQ total d' hI')

end Channel

section Redirect

variable {r : Redirect Ref} {target : Ref}

/-- A redirect sends what fits into its target, and counts what it drops. -/
theorem leads_forward (h : plan ref = some (.redirect r)) (htarget : r.target = some target)
    {packet : Bytes} {s : Redirect Ref} (hs : d.read? .redirect ref = some s)
    {Q : Except LayerError Nat → Detail σ → Prop}
    (hcapacity : Leads plan (calls.layer target).capacity
      (d.put .redirect ref (s.count (.rxPacket packet.length))) fun room d' =>
        ∃ s', d'.read? .redirect ref = some s' ∧
          match s'.cut packet room with
          | none => Q (.ok 0) (d'.put .redirect ref ((s'.count .txDropped).count .txRetry))
          | some part => Leads plan ((calls.layer target).send part).run d' fun answer d'' =>
            ∀ s'', d''.read? .redirect ref = some s'' →
              match answer with
              | .ok taken => Q (.ok taken) (d''.put .redirect ref (s''.count (.txPacket taken)))
              | .error _ => Q (.ok 0) (d''.put .redirect ref (s''.count .txDropped))) :
    Leads plan (Redirect.forward (site calls .redirect ref) packet).run d Q := by
  refine Leads.lift (Leads.get_bare h rfl fun own hown => ?_)
  have hsame : own.target = some target := by
    rw [← htarget, ← hown]
    rfl
  rw [hsame]
  refine Leads.lift (Leads.modify_tracked hs rfl (Leads.lift (hcapacity.mono ?_)))
  rintro room d' ⟨s', hs', hrest⟩
  refine Leads.lift (Leads.get_tracked hs' ?_)
  cases hcut : s'.cut packet room with
  | none =>
      rw [hcut] at hrest
      refine Leads.lift (Leads.modify_tracked hs' rfl (Leads.lift (Leads.modify_tracked
        (Detail.read?_put_self ..) rfl ?_)))
      rw [Detail.put_put]
      exact Leads.ok hrest
  | some part =>
      rw [hcut] at hrest
      refine Leads.bind_run (Leads.attempt (hrest.mono fun answer d'' hanswer => ?_))
      refine Leads.learn .redirect h rfl fun s'' hs'' _ => ?_
      have hafter := hanswer s'' hs''
      cases answer with
      | ok taken => exact Leads.lift (Leads.modify_tracked hs'' rfl (Leads.ok hafter))
      | error error => exact Leads.lift (Leads.modify_tracked hs'' rfl (Leads.ok hafter))

end Redirect

end LinkStack.Network
