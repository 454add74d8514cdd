import LinkStack.Proofs.Frame.LengthField
import LinkStack.Proofs.Network.Framing
import LinkStack.Proofs.Network.Pair
import LinkStack.Proofs.Network.Wires

/-!
A bridge between two links, and the devices at their far ends.

At each of the two ends there is a link in memory with a device and a host, both
a framing layer on the link. Above a host is a redirect that sends into the other
host, above a device a listener. Every queue of the bridge obeys one law: what
came in is what went out, followed by what waits. A host takes a packet out of
its queue and sends it on if there is room in the other link; a device hands it
to its listener (`Accounts`). What is known of the network itself are the
contents of the queues and the counters (`Spliced`).
-/

namespace LinkStack

open LinkStack.Frame (Framer Packet Codec)
open Network (Detail Leads AtRest)
open Splice (Redirect)

/-! ### The objects -/

/-- The four places of a bridge. -/
inductive Place where
  | device (e : End)
  | host (e : End)
  deriving DecidableEq, Repr

namespace Place

/-- The other place of the link. -/
def peer : Place → Place
  | device e => host e
  | host e => device e

/-- The end whose link it is. -/
def side : Place → End
  | device e => e
  | host e => e

end Place

/-- The objects of a place: its end of the link, with its inbox, and the framing
layer above. -/
structure Station where
  channel : Ref
  framer : Ref
  inbox : Mailbox
  deriving DecidableEq, Repr

/-- The objects of a bridge: the redirects above the hosts, the listeners above
the devices, and the stations. -/
structure Bridge where
  station : Place → Station
  redirect : End → Ref
  listener : End → Ref

/-- The settings of a bridge: those of the framing layers of both links, the
longest write of each end of the links, and the keys of the listeners. -/
structure Bridge.Settings where
  config : End → Frame.Config
  maxPacket : Place → Nat
  key : End → Key

namespace Bridge

/-- What is above the framing layer of a place. -/
def parent (b : Bridge) : Place → Ref
  | .device e => b.listener e
  | .host e => b.redirect e

namespace Settings

variable (s : Settings)

def codec (e : End) : Codec := Codec.ofConfig (s.config e)

/-- The frame of a packet on the link of an end. -/
def wire (e : End) (packet : Packet) : Bytes := (s.codec e).frame packet.body

/-- The longest packet that a host can send to its device. -/
def room (e : End) : Nat :=
  min (s.maxPacket (.host e) - (s.config e).mode.overhead (s.codec e).maxSize) (s.codec e).maxSize

/-- Whether a packet is sent on to the device of an end. -/
def passes (e : End) (packet : Packet) : Bool := packet.body.length ≤ s.room e

/-- A packet for which there is room can be framed and written. -/
theorem fits_of_passes {e : End} {packet : Packet} (h : s.passes e packet = true) :
    packet.body.length ≤ (s.codec e).maxSize ∧
      (s.wire e packet).length ≤ s.maxPacket (.host e) := by
  have hroom : packet.body.length ≤ s.room e := of_decide_eq_true h
  have hbody : packet.body ≠ [] := List.cons_ne_nil _ _
  have hpos := List.length_pos_iff.mpr hbody
  rw [room] at hroom
  have hlimit : packet.body.length ≤ (s.codec e).maxSize := by omega
  have hoverhead := (s.config e).mode.overhead_le hlimit
  refine ⟨hlimit, ?_⟩
  rw [wire, Codec.length_frame _ hbody]
  show packet.body.length + (s.config e).mode.overhead packet.body.length ≤ _
  omega

end Settings

/-- The objects of a bridge are there and linked, and no two places have one inbox. -/
structure Stands (b : Bridge) (objects : Ref → Option Object) (s : Settings) : Prop where
  channel : ∀ p, ∃ l links,
    objects (b.station p).channel =
      some (.loopback l (b.station p).inbox (b.station p.peer).inbox) ∧
    l.maxPacket = s.maxPacket p ∧ l.node.links = some links ∧
    links.parent = some (b.station p).framer
  framer : ∀ p, ∃ f links, objects (b.station p).framer = some (.framer f) ∧
    f.config = s.config p.side ∧ f.node.links = some links ∧
    links.child = some (b.station p).channel ∧ links.parent = some (b.parent p)
  redirect : ∀ e, ∃ r, objects (b.redirect e) = some (.redirect r) ∧
    r.target = some (b.station (.host e.other)).framer ∧ r.fragment = false
  listener : ∀ e, (objects (b.listener e)).bind Object.listener? = some (s.key e)
  inboxes : ∀ p p', (b.station p).inbox = (b.station p').inbox → p = p'
  keys : s.key .near ≠ s.key .far

/-! ### Runs -/

inductive Step where
  /-- A device sends a packet. -/
  | send (e : End) (packet : Packet)
  | poll (p : Place)
  deriving DecidableEq, Repr

/-- The steps of a run, each with its answer. -/
abbrev Record := List (Step × Except LayerError Nat)

/-- The packets that a device has sent and that were accepted. -/
def accepted (e : End) (record : Record) : List Packet :=
  record.filterMap fun
    | (.send sender packet, .ok _) => if sender = e then some packet else none
    | _ => none

/-- The part of a run before the last time that a step was taken. -/
def before (step : Step) (record : Record) : Record :=
  ((record.reverse.dropWhile fun entry => entry.1 ≠ step).drop 1).reverse

theorem accepted_append (e : End) (record record' : Record) :
    accepted e (record ++ record') = accepted e record ++ accepted e record' :=
  List.filterMap_append

theorem before_append_self (step : Step) (record : Record) (reply : Except LayerError Nat) :
    before step (record ++ [(step, reply)]) = record := by
  simp [before]

theorem before_append_of_ne {step step' : Step} (h : step' ≠ step) (record : Record)
    (reply : Except LayerError Nat) :
    before step (record ++ [(step', reply)]) = before step record := by
  simp [before, h]

/-- The packets of a device that the host has taken: those that were sent before
the last poll of the host. -/
def hostedOf (record : Record) (e : End) : List Packet :=
  accepted e (before (.poll (.host e)) record)

/-- The packets of a device that went through: those that the host had taken
before the last poll of the other device. -/
def throughOf (record : Record) (e : End) : List Packet :=
  hostedOf (before (.poll (.device e.other)) record) e

def perform (b : Bridge) (calls : Calls Log) : Step → Act Log (Except LayerError Nat)
  | .send e packet => ((calls.layer (b.station (.device e)).framer).send packet.body).run
  | .poll p => (Network.poll calls (b.station p).channel).run

def performAll (b : Bridge) (calls : Calls Log) (steps : List Step) : Act Log Record :=
  steps.mapM fun step => do return (step, ← b.perform calls step)

/-! ### What is known of a bridge -/

/-- The queues of a bridge. What a device sent is what its host took and what
waits there; what the host could send on is what the other device took and what
waits there. -/
structure Accounts (s : Settings) (sent hosted arrived : End → List Packet)
    (queue : Place → List Packet) : Prop where
  host : ∀ e, sent e = hosted e ++ queue (.host e)
  device : ∀ e, (hosted e).filter (s.passes e.other) = arrived e ++ queue (.device e.other)

/-- A redirect has counted a number of packets that it dropped for want of room. -/
structure Dropped (r r' : Redirect Ref) (count : Nat) : Prop where
  txDropped : r'.stats.txDropped.toNat = min Stats.ceiling (r.stats.txDropped.toNat + count)
  txRetries : r'.stats.txRetries.toNat = min Stats.ceiling (r.stats.txRetries.toNat + count)

theorem Dropped.succ {r r' : Redirect Ref} {count : Nat} (h : Dropped r r' count) :
    Dropped r ((r'.count .txDropped).count .txRetry) (count + 1) := by
  have hdropped := h.txDropped
  have hretries := h.txRetries
  constructor
  · show (Stats.bump r'.stats.txDropped 1).toNat = _
    rw [Stats.toNat_bump]
    omega
  · show (Stats.bump r'.stats.txRetries 1).toNat = _
    rw [Stats.toNat_bump]
    omega

variable {b : Bridge} {s : Settings} {plan : Ref → Option Object} {start d : Detail Log}
  {queue : Place → List Packet} {hosted arrived : End → List Packet}

/-- What is in the queues of a bridge, what was heard and counted since the
start, and that its framing layers have begun no frame. -/
structure Spliced (b : Bridge) (s : Settings) (start : Detail Log) (queue : Place → List Packet)
    (hosted arrived : End → List Packet) (d : Detail Log) : Prop where
  room : ∀ p, (b.station p).inbox < d.mailboxes.size
  inbox : ∀ p, d.mailbox (b.station p).inbox = (queue p).map (s.wire p.side)
  valid : ∀ p, ∀ packet ∈ queue p,
    packet.tag < Tag.frame ∧ packet.body.length ≤ (s.codec p.side).maxSize
  framer : ∀ p, ∃ f, d.read? .framer (b.station p).framer = some f ∧ AtRest d.clock.now f
  redirect : ∀ e, ∃ r r', start.read? .redirect (b.redirect e) = some r ∧
    d.read? .redirect (b.redirect e) = some r' ∧
    Dropped r r' ((hosted e).countP fun packet => !s.passes e.other packet)
  heard : ∀ e, d.app.heardBy (s.key e) =
    start.app.heardBy (s.key e) ++ (arrived e.other).map Packet.body

namespace Stands

variable (h : b.Stands plan s)

include h

theorem framer_inj {p p' : Place} (heq : (b.station p).framer = (b.station p').framer) :
    p = p' := by
  obtain ⟨f, links, hf, -, hlinks, hchild, -⟩ := h.framer p
  obtain ⟨f', links', hf', -, hlinks', hchild', -⟩ := h.framer p'
  obtain rfl : f = f' := by simpa [heq, hf'] using hf.symm
  obtain rfl : links = links' := by simpa [hlinks'] using hlinks.symm
  have hchannel : (b.station p).channel = (b.station p').channel := by
    simpa [hchild'] using hchild.symm
  obtain ⟨l, -, hl, -⟩ := h.channel p
  obtain ⟨l', -, hl', -⟩ := h.channel p'
  rw [hchannel, hl'] at hl
  simp only [Option.some.injEq, Object.loopback.injEq] at hl
  exact h.inboxes p p' hl.2.1.symm

theorem redirect_inj {e e' : End} (heq : b.redirect e = b.redirect e') : e = e' := by
  obtain ⟨r, hr, htarget, -⟩ := h.redirect e
  obtain ⟨r', hr', htarget', -⟩ := h.redirect e'
  obtain rfl : r = r' := by simpa [heq, hr'] using hr.symm
  have hhost : Place.host e.other = Place.host e'.other :=
    h.framer_inj (by simpa [htarget'] using htarget.symm)
  cases e <;> cases e' <;> first | rfl | cases hhost

theorem key_ne (e : End) : s.key e.other ≠ s.key e := by
  cases e with
  | near => exact h.keys.symm
  | far => exact h.keys

theorem redirect_ne_framer (e : End) (p : Place) : b.redirect e ≠ (b.station p).framer := by
  intro heq
  obtain ⟨r, hr, -⟩ := h.redirect e
  obtain ⟨f, -, hf, -⟩ := h.framer p
  rw [heq, hf] at hr
  cases hr

end Stands

namespace Spliced

variable (h : b.Stands plan s) (hs : Spliced b s start queue hosted arrived d)

include hs h

/-- A packet comes to a place. -/
theorem enqueue (p : Place) {packet : Packet} (htag : packet.tag < Tag.frame)
    (hsize : packet.body.length ≤ (s.codec p.side).maxSize) :
    Spliced b s start (Function.update queue p (queue p ++ [packet])) hosted arrived
      (d.updateMailbox (b.station p).inbox (· ++ [s.wire p.side packet])) where
  room p' := by simpa [Detail.updateMailbox] using hs.room p'
  inbox p' := by
    by_cases hp : p' = p
    · subst hp
      rw [Detail.mailbox_updateMailbox_self (hs.room p'), hs.inbox, Function.update_self,
        List.map_append]
      rfl
    · have hne : (b.station p').inbox ≠ (b.station p).inbox := fun heq => hp (h.inboxes _ _ heq)
      rw [Detail.mailbox_updateMailbox_of_ne hne, hs.inbox, Function.update_of_ne hp]
  valid p' packet' hmem := by
    by_cases hp : p' = p
    · subst hp
      rw [Function.update_self, List.mem_append, List.mem_singleton] at hmem
      rcases hmem with hmem | rfl
      · exact hs.valid p' packet' hmem
      · exact ⟨htag, hsize⟩
    · rw [Function.update_of_ne hp] at hmem
      exact hs.valid p' packet' hmem
  framer := hs.framer
  redirect := hs.redirect
  heard := hs.heard

/-- The packet that has waited longest at a place is taken. -/
theorem dequeue (p : Place) {packet : Packet} {rest : List Packet}
    (hqueue : queue p = packet :: rest) :
    Spliced b s start (Function.update queue p rest) hosted arrived
      (d.updateMailbox (b.station p).inbox List.tail) where
  room p' := by simpa [Detail.updateMailbox] using hs.room p'
  inbox p' := by
    by_cases hp : p' = p
    · subst hp
      rw [Detail.mailbox_updateMailbox_self (hs.room p'), hs.inbox, Function.update_self, hqueue]
      rfl
    · have hne : (b.station p').inbox ≠ (b.station p).inbox := fun heq => hp (h.inboxes _ _ heq)
      rw [Detail.mailbox_updateMailbox_of_ne hne, hs.inbox, Function.update_of_ne hp]
  valid p' packet' hmem := by
    by_cases hp : p' = p
    · subst hp
      rw [Function.update_self] at hmem
      exact hs.valid p' packet' (hqueue ▸ List.mem_cons_of_mem packet hmem)
    · rw [Function.update_of_ne hp] at hmem
      exact hs.valid p' packet' hmem
  framer := hs.framer
  redirect := hs.redirect
  heard := hs.heard

omit h in
theorem atRest_of_read {p : Place} {f : Framer Ref}
    (hf : d.read? .framer (b.station p).framer = some f) : AtRest d.clock.now f := by
  obtain ⟨g, hg, hrest⟩ := hs.framer p
  obtain rfl := Option.some.inj (hg.symm.trans hf)
  exact hrest

/-- A framing layer of the bridge changes and has begun no frame. -/
theorem put_framer (p : Place) {f : Framer Ref}
    (hrest : AtRest d.clock.now f) :
    Spliced b s start queue hosted arrived (d.put .framer (b.station p).framer f) where
  room := hs.room
  inbox := hs.inbox
  valid := hs.valid
  framer p' := by
    by_cases hp : p' = p
    · subst hp
      exact ⟨f, Detail.read?_put_self .., hrest⟩
    · rw [Detail.read?_put_of_ne fun heq => hp (h.framer_inj heq)]
      exact hs.framer p'
  redirect e := by
    rw [Detail.read?_put_of_ne (h.redirect_ne_framer e p)]
    exact hs.redirect e
  heard := hs.heard

/-- A redirect counts what becomes of a packet. -/
theorem put_redirect (e : End) {r r' : Redirect Ref} {taken : List Packet}
    (hr : d.read? .redirect (b.redirect e) = some r)
    (hcount : ∀ r₀ count, Dropped r₀ r count →
      Dropped r₀ r' (count + taken.countP fun packet => !s.passes e.other packet)) :
    Spliced b s start queue (Function.update hosted e (hosted e ++ taken)) arrived
      (d.put .redirect (b.redirect e) r') where
  room := hs.room
  inbox := hs.inbox
  valid := hs.valid
  framer p := by
    rw [Detail.read?_put_of_ne (h.redirect_ne_framer e p).symm]
    exact hs.framer p
  redirect e' := by
    obtain ⟨r₀, own, hstart, hown, hdropped⟩ := hs.redirect e'
    by_cases he : e' = e
    · subst he
      obtain rfl : own = r := Option.some.inj (hown.symm.trans hr)
      refine ⟨r₀, r', hstart, Detail.read?_put_self .., ?_⟩
      rw [Function.update_self, List.countP_append]
      exact hcount r₀ _ hdropped
    · rw [Detail.read?_put_of_ne fun heq => he (h.redirect_inj heq), Function.update_of_ne he]
      exact ⟨r₀, own, hstart, hown, hdropped⟩
  heard := hs.heard

/-- A redirect counts something else. -/
theorem recount (e : End) {r r' : Redirect Ref} (hr : d.read? .redirect (b.redirect e) = some r)
    (hcount : ∀ r₀ count, Dropped r₀ r count → Dropped r₀ r' count) :
    Spliced b s start queue hosted arrived (d.put .redirect (b.redirect e) r') := by
  have hs' : Spliced b s start queue (Function.update hosted e (hosted e ++ [])) arrived
      (d.put .redirect (b.redirect e) r') := hs.put_redirect h e hr hcount
  rwa [List.append_nil, Function.update_eq_self] at hs'

/-- A listener hears a packet. -/
theorem hear (e : End) (packet : Packet) :
    Spliced b s start queue hosted (Function.update arrived e.other (arrived e.other ++ [packet]))
      (d.withApp (d.app ++ [(s.key e, packet.body)])) where
  room := hs.room
  inbox := hs.inbox
  valid := hs.valid
  framer := hs.framer
  redirect := hs.redirect
  heard e' := by
    have hnew := Network.heardBy_map (s.key e) (s.key e') [packet]
    rw [Detail.app_withApp, Log.heardBy_append, hs.heard, List.append_assoc]
    rcases e.eq_or_eq_other e' with rfl | rfl
    · rw [Function.update_self, List.map_append]
      exact congrArg _ (congrArg _ (hnew.trans (if_pos rfl)))
    · rw [Function.update_of_ne fun heq => e'.other_ne (by simpa [End.other_other] using heq)]
      exact congrArg _ ((congrArg _ (hnew.trans (if_neg (h.key_ne e')))).trans (List.append_nil _))

end Spliced

/-! ### Steps -/

section Steps

variable {answer : Log → Except LayerError Nat} {levels : Nat} {sent : End → List Packet}
  (h : b.Stands plan s) (hs : Spliced b s start queue hosted arrived d)

theorem side_peer (p : Place) : p.peer.side = p.side := by
  cases p <;> rfl

include h hs

/-- A packet that is sent at a place waits at the other one, or is refused because
it is too long. -/
theorem leads_send (p : Place) {packet : Packet} (htag : packet.tag < Tag.frame)
    {Q : Except LayerError Nat → Detail Log → Prop}
    (hsent : ∀ d', Spliced b s start (Function.update queue p.peer (queue p.peer ++ [packet]))
      hosted arrived d' → Q (.ok packet.body.length) d')
    (hrefused : ∀ error d', Spliced b s start queue hosted arrived d' →
      ¬(packet.body.length ≤ (s.codec p.side).maxSize ∧
        (s.wire p.side packet).length ≤ s.maxPacket p) → Q (.error error) d') :
    Leads plan (((Network.calls (listening answer) (levels + 2)).layer (b.station p).framer).send
      packet.body).run d Q := by
  obtain ⟨f, links, hf, hconfig, hlinks, hchild, -⟩ := h.framer p
  obtain ⟨l, -, hl, hmax, -⟩ := h.channel p
  have hcodec : f.codec = s.codec p.side := congrArg Codec.ofConfig hconfig
  have hlimit : f.bodyLimit = (s.codec p.side).maxSize := congrArg Codec.maxSize hcodec
  have hwire : f.codec.frame packet.body = s.wire p.side packet :=
    congrArg (Codec.frame · packet.body) hcodec
  have hbody : packet.body ≠ [] := List.cons_ne_nil _ _
  have hpos : packet.body.length ≠ 0 := Nat.succ_ne_zero _
  refine Leads.send hf rfl (Network.leads_send hf hlinks ?_ ?_)
  · intro error herror
    refine hrefused error d hs fun hfits => ?_
    rw [Framer.checkSize, if_neg hpos, if_neg (by omega)] at herror
    cases herror
  · intro hok
    obtain ⟨-, hsize⟩ := Framer.checkSize_eq_ok hok
    refine Network.leads_write hf hlinks hchild hbody hsize ?_
    rw [hwire]
    refine Leads.send hl rfl (Network.leads_channel_send hl ?_ ?_)
    · intro _ f' hf'
      have hs' := hs.enqueue h p.peer htag (by rw [side_peer]; omega)
      rw [side_peer] at hs'
      dsimp only
      rw [if_pos rfl]
      exact hsent _ (hs'.put_framer h p ((hs'.atRest_of_read hf').count _))
    · intro hlong f' hf'
      exact hrefused _ _ (hs.put_framer h p ((hs.atRest_of_read hf').count _)) (by omega)

omit hs in
/-- A host answers what room there is in its link. -/
theorem leads_capacity (e : End) {Q : Nat → Detail Log → Prop} (hQ : Q (s.room e) d) :
    Leads plan ((Network.calls (listening answer) (levels + 2)).layer
      (b.station (.host e)).framer).capacity d Q := by
  obtain ⟨f, links, hf, hconfig, hlinks, hchild, -⟩ := h.framer (.host e)
  obtain ⟨l, -, hl, hmax, -⟩ := h.channel (.host e)
  have hroom : min (l.maxPacket - f.config.mode.overhead f.bodyLimit) f.bodyLimit = s.room e := by
    rw [hmax, Framer.bodyLimit, Framer.codec, hconfig]
    rfl
  refine Leads.capacity hf rfl (Network.leads_capacity hf hlinks hchild
    (Leads.capacity hl rfl (Network.leads_channel_capacity hl ?_)))
  rwa [hroom]

/-- A packet that a host has taken is sent on if there is room for it. -/
theorem leads_relay (e : End) {packet : Packet} (htag : packet.tag < Tag.frame) :
    Leads plan (((Network.calls (listening answer) (levels + 3)).layer (b.redirect e)).recv
      packet.body).run d fun _ d' =>
        Spliced b s start (Function.update queue (.device e.other)
            (queue (.device e.other) ++ [packet].filter (s.passes e.other)))
          (Function.update hosted e (hosted e ++ [packet])) arrived d' := by
  obtain ⟨r, hr, htarget, hwhole⟩ := h.redirect e
  refine Leads.learn .redirect hr rfl fun own hown hbare => ?_
  have hfragment : own.fragment = false := by
    rw [← hwhole, ← hbare]
    rfl
  refine Leads.recv hr rfl (Network.leads_forward hr htarget hown (leads_capacity h e.other
    ⟨_, Detail.read?_put_self .., ?_⟩))
  by_cases hfits : packet.body.length ≤ s.room e.other
  · -- the room was asked for, so that the other host has no reason to refuse
    have hpasses : s.passes e.other packet = true := decide_eq_true hfits
    have hs' : Spliced b s start queue (Function.update hosted e (hosted e ++ [packet])) arrived
        (d.put .redirect (b.redirect e) (own.count (.rxPacket packet.body.length))) := by
      refine hs.put_redirect h e hown fun r₀ count hdropped => ?_
      rw [List.countP_singleton, hpasses]
      exact ⟨hdropped.txDropped, hdropped.txRetries⟩
    have hcut : (own.count (.rxPacket packet.body.length)).cut packet.body (s.room e.other) =
        some packet.body := if_pos hfits
    have hsent : [packet].filter (s.passes e.other) = [packet] :=
      List.filter_cons_of_pos hpasses
    rw [hcut, hsent]
    refine leads_send h hs' (.host e.other) htag (fun d' hd' own' hown' => ?_)
      fun error d' hd' hrefused => ?_
    · exact hd'.recount h e hown' fun r₀ count hdropped =>
        ⟨hdropped.txDropped, hdropped.txRetries⟩
    · exact absurd (s.fits_of_passes hpasses) hrefused
  · -- a redirect that does not fragment counts the packet and leaves it
    have hlong : s.passes e.other packet = false := decide_eq_false hfits
    have hcut : (own.count (.rxPacket packet.body.length)).cut packet.body (s.room e.other) =
        none := by
      have hfragment' : (own.count (.rxPacket packet.body.length)).fragment = false := hfragment
      rw [Redirect.cut, if_neg hfits, hfragment']
      rfl
    have hsent : [packet].filter (s.passes e.other) = [] :=
      List.filter_cons_of_neg (Bool.eq_false_iff.mp hlong)
    rw [hcut, hsent, List.append_nil, Function.update_eq_self]
    dsimp only
    rw [Detail.put_put]
    refine hs.put_redirect h e hown fun r₀ count hdropped => ?_
    rw [List.countP_singleton, hlong]
    exact Dropped.succ ⟨hdropped.txDropped, hdropped.txRetries⟩

omit hs in
theorem alive_parent (p : Place) : (plan (b.parent p)).isSome := by
  cases p with
  | device e => exact Network.alive_of_listener (h.listener e)
  | host e =>
      obtain ⟨r, hr, -⟩ := h.redirect e
      rw [parent, hr]
      rfl

/-- What has waited longest at a place goes up to the layer above its framing layer. -/
theorem leads_take (p : Place) {packet : Packet} {rest : List Packet}
    (hqueue : queue p = packet :: rest) {queue' : Place → List Packet}
    {hosted' arrived' : End → List Packet}
    (hrecv : ∀ d', Spliced b s start (Function.update queue p rest) hosted arrived d' →
      Leads plan (((Network.calls (listening answer) (levels + 3)).layer (b.parent p)).recv
        packet.body).run d' fun _ d'' => Spliced b s start queue' hosted' arrived' d'') :
    Leads plan (((Network.calls (listening answer) (levels + 4)).layer (b.station p).framer).recv
        (s.wire p.side packet)).run (d.updateMailbox (b.station p).inbox List.tail)
      fun _ d' => Spliced b s start queue' hosted' arrived' d' := by
  obtain ⟨f, links, hf, hconfig, hlinks, -, hparent⟩ := h.framer p
  have hcodec : f.codec = s.codec p.side := congrArg Codec.ofConfig hconfig
  have hlimit : f.bodyLimit = (s.codec p.side).maxSize := congrArg Codec.maxSize hcodec
  have hwire : f.codec.frame packet.body = s.wire p.side packet :=
    congrArg (Codec.frame · packet.body) hcodec
  obtain ⟨htag, hsize⟩ := hs.valid p packet (hqueue ▸ List.mem_cons_self)
  have hs' := hs.dequeue h p hqueue
  obtain ⟨f', hf', hrest⟩ := hs'.framer p
  rw [← hwire]
  refine Leads.recv hf rfl (Network.leads_recv_frame hf hlinks hparent (alive_parent h p) hf'
    hrest.buffer htag (by omega) fun f'' hbuffer hout hsame => ?_)
  have hrest'' : AtRest d.clock.now f'' := ⟨hbuffer, hout ▸ hsame ▸ hrest.outstanding⟩
  exact (hrecv _ (hs'.put_framer h p hrest'')).mono fun _ d'' hd'' => ⟨hd''.framer p, hd''⟩

/-- The queues after a host has taken some packets, and others are left. -/
def relayed (s : Settings) (queue : Place → List Packet) (e : End) (taken rest : List Packet) :
    Place → List Packet :=
  Function.update (Function.update queue (.host e) rest) (.device e.other)
    (queue (.device e.other) ++ taken.filter (s.passes e.other))

omit h hs in
theorem relayed_append (e : End) (taken : List Packet) (packet : Packet) (rest : List Packet) :
    Function.update (Function.update (relayed s queue e taken (packet :: rest)) (.host e) rest)
      (.device e.other) (relayed s queue e taken (packet :: rest) (.device e.other) ++
        [packet].filter (s.passes e.other)) = relayed s queue e (taken ++ [packet]) rest := by
  funext p
  by_cases hdevice : p = .device e.other
  · subst hdevice
    simp [relayed]
  · by_cases hhost : p = .host e
    · subst hhost
      simp [relayed]
    · simp [relayed, hdevice, hhost]

/-- A poll of a host. -/
theorem leads_poll_host (e : End) :
    Leads plan (Network.poll (Network.calls (listening answer) (levels + 4))
        (b.station (.host e)).channel).run d fun _ d' =>
      Spliced b s start (relayed s queue e (queue (.host e)) [])
        (Function.update hosted e (hosted e ++ queue (.host e))) arrived d' := by
  obtain ⟨l, links, hl, -, hlinks, hparent⟩ := h.channel (.host e)
  obtain ⟨f, -, hf, -⟩ := h.framer (.host e)
  -- between two packets some are taken and sent on, and the rest still waits
  let I (writes : List Bytes) (d : Detail Log) : Prop :=
    ∃ taken rest, taken ++ rest = queue (.host e) ∧ writes = rest.map (s.wire e) ∧
      Spliced b s start (relayed s queue e taken rest)
        (Function.update hosted e (hosted e ++ taken)) arrived d
  have hkept (taken rest : List Packet) : relayed s queue e taken rest (.host e) = rest := by
    simp [relayed]
  have hI : I ((queue (.host e)).map (s.wire e)) d := by
    refine ⟨[], queue (.host e), rfl, rfl, ?_⟩
    simpa [relayed] using hs
  refine Network.leads_poll hl hlinks hparent (by rw [hf]; rfl) ?_ ?_ hI ?_
  · rintro _ d ⟨taken, rest, -, rfl, hs'⟩
    rw [hs'.inbox, hkept]
    rfl
  · rintro bytes writes d ⟨taken, rest, hsum, hwrites, hs'⟩
    obtain ⟨packet, rest, rfl, rfl, rfl⟩ := List.map_eq_cons_iff.mp hwrites.symm
    refine (leads_take h hs' (.host e) (hkept ..) fun d' hd' => ?_).mono fun _ d'' hd'' =>
      ⟨taken ++ [packet], rest, by simpa using hsum, rfl, hd''⟩
    obtain ⟨htag, -⟩ := hs'.valid (.host e) packet (by rw [hkept]; exact List.mem_cons_self)
    refine (leads_relay h hd' e htag).mono fun _ d'' hd'' => ?_
    have hdevice : Function.update (relayed s queue e taken (packet :: rest)) (.host e) rest
        (.device e.other) = relayed s queue e taken (packet :: rest) (.device e.other) := by
      rw [Function.update_of_ne (Place.noConfusion ·)]
    rwa [hdevice, relayed_append, Function.update_self, Function.update_idem,
      List.append_assoc] at hd''
  · rintro total d' ⟨taken, rest, hsum, hnil, hs'⟩
    obtain rfl : rest = [] := List.map_eq_nil_iff.mp hnil.symm
    rw [List.append_nil] at hsum
    exact hsum ▸ hs'

/-- A poll of a device. -/
theorem leads_poll_device (e : End) :
    Leads plan (Network.poll (Network.calls (listening answer) (levels + 4))
        (b.station (.device e)).channel).run d fun _ d' =>
      Spliced b s start (Function.update queue (.device e) []) hosted
        (Function.update arrived e.other (arrived e.other ++ queue (.device e))) d' := by
  obtain ⟨l, links, hl, -, hlinks, hparent⟩ := h.channel (.device e)
  obtain ⟨f, -, hf, -⟩ := h.framer (.device e)
  let I (writes : List Bytes) (d : Detail Log) : Prop :=
    ∃ taken rest, taken ++ rest = queue (.device e) ∧ writes = rest.map (s.wire e) ∧
      Spliced b s start (Function.update queue (.device e) rest) hosted
        (Function.update arrived e.other (arrived e.other ++ taken)) d
  have hI : I ((queue (.device e)).map (s.wire e)) d :=
    ⟨[], queue (.device e), rfl, rfl, by simpa using hs⟩
  refine Network.leads_poll hl hlinks hparent (by rw [hf]; rfl) ?_ ?_ hI ?_
  · rintro _ d ⟨taken, rest, -, rfl, hs'⟩
    rw [hs'.inbox, Function.update_self]
    rfl
  · rintro bytes writes d ⟨taken, rest, hsum, hwrites, hs'⟩
    obtain ⟨packet, rest, rfl, rfl, rfl⟩ := List.map_eq_cons_iff.mp hwrites.symm
    refine (leads_take h hs' (.device e) (Function.update_self ..) fun d' hd' => ?_).mono
      fun _ d'' hd'' => ⟨taken ++ [packet], rest, by simpa using hsum, rfl, hd''⟩
    refine Network.leads_listener (h.listener e) _ fun _ => ?_
    have hheard := hd'.hear h e packet
    rwa [Function.update_self, Function.update_idem, Function.update_idem,
      List.append_assoc] at hheard
  · rintro total d' ⟨taken, rest, hsum, hnil, hs'⟩
    obtain rfl : rest = [] := List.map_eq_nil_iff.mp hnil.symm
    rw [List.append_nil] at hsum
    exact hsum ▸ hs'

end Steps

/-! ### Runs -/

/-- What is known of a bridge after a run. -/
def Joined (b : Bridge) (s : Settings) (start : Detail Log) (record : Record) (d : Detail Log) :
    Prop :=
  ∃ queue arrived, Spliced b s start queue (hostedOf record) arrived d ∧
    Accounts s (accepted · record) (hostedOf record) arrived queue ∧
    ∀ e, arrived e = (throughOf record e).filter (s.passes e.other)

section Record

variable {record : Record} {reply : Except LayerError Nat}

theorem accepted_poll (e : End) (p : Place) :
    accepted e (record ++ [(.poll p, reply)]) = accepted e record := by
  rw [accepted_append]
  exact List.append_nil _

theorem hostedOf_of_ne {step : Step} {e : End} (h : step ≠ .poll (.host e)) :
    hostedOf (record ++ [(step, reply)]) e = hostedOf record e := by
  rw [hostedOf, before_append_of_ne h, hostedOf]

theorem hostedOf_poll (e : End) :
    hostedOf (record ++ [(.poll (.host e), reply)]) e = accepted e record := by
  rw [hostedOf, before_append_self]

theorem throughOf_of_ne {step : Step} {e : End} (h : step ≠ .poll (.device e.other)) :
    throughOf (record ++ [(step, reply)]) e = throughOf record e := by
  rw [throughOf, before_append_of_ne h, throughOf]

theorem throughOf_poll (e : End) :
    throughOf (record ++ [(.poll (.device e.other), reply)]) e = hostedOf record e := by
  rw [throughOf, before_append_self]

end Record

namespace Joined

variable {record : Record} {reply : Except LayerError Nat} {e : End} {packet : Packet}
  (hqueue : Accounts s (accepted · record) (hostedOf record) arrived queue)
  (harrived : ∀ e, arrived e = (throughOf record e).filter (s.passes e.other))

include hqueue harrived

/-- A packet that is accepted waits at the host. -/
theorem of_sent {size : Nat} (hd : Spliced b s start
      (Function.update queue (.host e) (queue (.host e) ++ [packet])) (hostedOf record) arrived d) :
    Joined b s start (record ++ [(.send e packet, .ok size)]) d := by
  have hhosted : hostedOf (record ++ [(.send e packet, .ok size)]) = hostedOf record :=
    funext fun e' => hostedOf_of_ne (Step.noConfusion ·)
  refine ⟨_, arrived, hhosted.symm ▸ hd, ⟨fun e' => ?_, fun e' => ?_⟩, fun e' => ?_⟩
  · rw [accepted_append, hhosted, hqueue.host]
    by_cases he : e' = e
    · subst he
      simp [accepted]
    · simp [accepted, he, Ne.symm he]
  · rw [hhosted, hqueue.device, Function.update_of_ne (Place.noConfusion ·)]
  · rw [throughOf_of_ne (Step.noConfusion ·), harrived]

theorem of_refused {error : LayerError} (hd : Spliced b s start queue (hostedOf record) arrived d) :
    Joined b s start (record ++ [(.send e packet, .error error)]) d := by
  have hhosted : hostedOf (record ++ [(.send e packet, .error error)]) = hostedOf record :=
    funext fun e' => hostedOf_of_ne (Step.noConfusion ·)
  refine ⟨queue, arrived, hhosted.symm ▸ hd, ⟨fun e' => ?_, fun e' => ?_⟩, fun e' => ?_⟩
  · rw [accepted_append, hhosted, hqueue.host]
    exact List.append_nil _
  · rw [hhosted, hqueue.device]
  · rw [throughOf_of_ne (Step.noConfusion ·), harrived]

/-- A host that is polled takes all that waits there and sends on what passes. -/
theorem of_poll_host (hd : Spliced b s start (relayed s queue e (queue (.host e)) [])
      (Function.update (hostedOf record) e (hostedOf record e ++ queue (.host e))) arrived d) :
    Joined b s start (record ++ [(.poll (.host e), reply)]) d := by
  have hhosted : hostedOf (record ++ [(.poll (.host e), reply)]) =
      Function.update (hostedOf record) e (hostedOf record e ++ queue (.host e)) := by
    funext e'
    by_cases he : e' = e
    · subst he
      rw [hostedOf_poll, hqueue.host, Function.update_self]
    · rw [hostedOf_of_ne (by simpa using Ne.symm he), Function.update_of_ne he]
  refine ⟨_, arrived, hhosted.symm ▸ hd, ⟨fun e' => ?_, fun e' => ?_⟩, fun e' => ?_⟩
  · rw [accepted_poll, hhosted, hqueue.host]
    by_cases he : e' = e
    · subst he
      simp [relayed]
    · simp [relayed, he]
  · rw [hhosted]
    by_cases he : e' = e
    · subst he
      simp [relayed, hqueue.device]
    · have hother : e'.other ≠ e.other := fun heq => he (by
        simpa [End.other_other] using congrArg End.other heq)
      simp [relayed, he, hother, hqueue.device]
  · rw [throughOf_of_ne (by simp), harrived]

/-- A device that is polled takes all that waits there. -/
theorem of_poll_device (hd : Spliced b s start (Function.update queue (.device e) [])
      (hostedOf record)
      (Function.update arrived e.other (arrived e.other ++ queue (.device e))) d) :
    Joined b s start (record ++ [(.poll (.device e), reply)]) d := by
  have hhosted : hostedOf (record ++ [(.poll (.device e), reply)]) = hostedOf record :=
    funext fun e' => hostedOf_of_ne (by simp)
  refine ⟨_, _, hhosted.symm ▸ hd, ⟨fun e' => ?_, fun e' => ?_⟩, fun e' => ?_⟩
  · rw [accepted_poll, hhosted, hqueue.host, Function.update_of_ne (Place.noConfusion ·)]
  · rw [hhosted, hqueue.device]
    rcases e.eq_or_eq_other e' with rfl | rfl
    · simp [e.other_ne, e.other_ne.symm]
    · simp [End.other_other]
  · rcases e.eq_or_eq_other e' with rfl | rfl
    · rw [throughOf_of_ne (by simp [e.other_ne.symm]), Function.update_of_ne e.other_ne.symm, harrived]
    · rw [throughOf_poll, hqueue.device, End.other_other, Function.update_self]

end Joined

section Runs

variable {answer : Log → Except LayerError Nat} {levels : Nat} {record : Record}
  (h : b.Stands plan s)

include h

theorem leads_perform (hjoined : Joined b s start record d) {step : Step}
    (hplain : ∀ e packet, step = .send e packet → packet.tag < Tag.frame) :
    Leads plan (b.perform (Network.calls (listening answer) (levels + 4)) step) d
      fun reply d' => Joined b s start (record ++ [(step, reply)]) d' := by
  obtain ⟨queue, arrived, hs, hqueue, harrived⟩ := hjoined
  cases step with
  | send e packet =>
      exact leads_send h hs (.device e) (hplain e packet rfl)
        (fun d' hd' => Joined.of_sent hqueue harrived hd')
        fun error d' hd' _ => Joined.of_refused hqueue harrived hd'
  | poll p =>
      cases p with
      | host e =>
          exact (leads_poll_host h hs e).mono fun _ d' hd' =>
            Joined.of_poll_host hqueue harrived hd'
      | device e =>
          exact (leads_poll_device h hs e).mono fun _ d' hd' =>
            Joined.of_poll_device hqueue harrived hd'

/-- Step after step. -/
theorem leads_performAll {steps : List Step} (hjoined : Joined b s start record d)
    (hplain : ∀ e packet, .send e packet ∈ steps → packet.tag < Tag.frame) :
    Leads plan (b.performAll (Network.calls (listening answer) (levels + 4)) steps) d
      fun record' d' => record'.map Prod.fst = steps ∧
        Joined b s start (record ++ record') d' := by
  induction steps generalizing record d with
  | nil => exact Leads.pure ⟨rfl, (List.append_nil record).symm ▸ hjoined⟩
  | cons step steps ih =>
      rw [performAll, List.mapM_cons]
      refine Leads.bind (Leads.bind ((leads_perform h hjoined ?_).mono fun reply d' hd' => ?_))
      · rintro e packet rfl
        exact hplain e packet List.mem_cons_self
      · refine Leads.pure (Leads.bind ((ih hd' ?_).mono ?_))
        · exact fun e packet hmem => hplain e packet (List.mem_cons_of_mem _ hmem)
        · rintro record' d'' ⟨rfl, hd''⟩
          refine Leads.pure ⟨rfl, ?_⟩
          rwa [List.append_assoc] at hd''

end Runs

/-! ### From an empty bridge -/

/-- A bridge before anything is sent. -/
structure Ready (b : Bridge) (n : Network Log) (s : Settings) : Prop
    extends Stands b n.object? s where
  empty : ∀ p, n.mailboxes[(b.station p).inbox]? = some []
  rest : ∀ p f, n.object? (b.station p).framer = some (.framer f) → AtRest n.clock.now f
  held : n.Held

theorem Stands.bare {n : Network Log} (h : b.Stands n.object? s) : b.Stands n.bare s where
  channel p := by
    obtain ⟨l, links, hl, hmax, hlinks, hparent⟩ := h.channel p
    exact ⟨_, links, Network.bare_eq hl, hmax, hlinks, hparent⟩
  framer p := by
    obtain ⟨f, links, hf, hconfig, hlinks, hchild, hparent⟩ := h.framer p
    exact ⟨_, links, Network.bare_eq hf, hconfig, hlinks, hchild, hparent⟩
  redirect e := by
    obtain ⟨r, hr, htarget, hwhole⟩ := h.redirect e
    exact ⟨_, Network.bare_eq hr, htarget, hwhole⟩
  listener e := (Network.bind_listener?_bare ..).trans (h.listener e)
  inboxes := h.inboxes
  keys := h.keys

theorem Ready.joined {n : Network Log} (h : b.Ready n s) : Joined b s n.detail [] n.detail := by
  refine ⟨fun _ => [], fun _ => [], ⟨fun p => ?_, fun p => ?_, nofun, fun p => ?_, fun e => ?_,
    fun e => ?_⟩, ⟨fun _ => rfl, fun _ => rfl⟩, fun _ => rfl⟩
  · obtain ⟨hlt, -⟩ := Array.getElem?_eq_some_iff.mp (h.empty p)
    exact hlt
  · show n.mailboxes[(b.station p).inbox]?.getD [] = []
    rw [h.empty]
    rfl
  · obtain ⟨f, -, hf, -⟩ := h.framer p
    refine ⟨f, ?_, h.rest p f hf⟩
    rw [Network.read?_detail, Network.read?, hf]
    rfl
  · obtain ⟨r, hr, -⟩ := h.redirect e
    have hread : n.detail.read? .redirect (b.redirect e) = some r := by
      rw [Network.read?_detail, Network.read?, hr]
      rfl
    have hceiling (counter : UInt32) : counter.toNat = min Stats.ceiling (counter.toNat + 0) := by
      have hlt := counter.toNat_lt
      rw [Stats.ceiling, UInt32.size]
      omega
    exact ⟨r, r, hread, hread, hceiling _, hceiling _⟩
  · exact (List.append_nil _).symm

/-- What a bridge has made of the packets of the device at one end. -/
structure Transparent (n n' : Network Log) (b : Bridge) (s : Settings) (record : Record)
    (e : End) : Prop where
  /-- The other device has got what went through and fits into its link. -/
  heard : n'.app.heardBy (s.key e.other) = n.app.heardBy (s.key e.other) ++
    ((throughOf record e).filter (s.passes e.other)).map Packet.body
  /-- All else that the host took was counted. -/
  dropped : ∃ r r', n.read? .redirect (b.redirect e) = some r ∧
    n'.read? .redirect (b.redirect e) = some r' ∧
    Dropped r r' ((hostedOf record e).countP fun packet => !s.passes e.other packet)

/-- Devices send packets and the ends of both links are polled, in any order.
At each end the listener is handed, in their order and once, the packets of the
other device that went through and are not longer than what its host has room
for. Each other packet that a host has taken is counted as dropped and to be
sent again, and no packet is cut. The room is what the host answers when it is
asked. -/
theorem Ready.splices {n : Network Log} (h : b.Ready n s) {steps : List Step}
    (hplain : ∀ e packet, .send e packet ∈ steps → packet.tag < Tag.frame)
    (answer : Log → Except LayerError Nat) (levels : Nat) :
    ∃ record n', b.performAll (Network.calls (listening answer) (levels + 4)) steps n =
        some (record, n') ∧
      record.map Prod.fst = steps ∧ (∀ e, Transparent n n' b s record e) ∧
      ∀ e, ∃ n'', ((Network.calls (listening answer) (levels + 4)).layer
        (b.station (.host e)).framer).capacity n' = some (s.room e, n'') := by
  have hleads : Leads n.bare (b.performAll (Network.calls (listening answer) (levels + 4)) steps)
      n.detail fun record d' => record.map Prod.fst = steps ∧ Joined b s n.detail ([] ++ record) d' :=
    leads_performAll h.toStands.bare h.joined hplain
  obtain ⟨record, n', hrun, hheld, hplan, hsteps, queue, arrived, hs, -, harrived⟩ :=
    hleads.run h.held rfl rfl
  rw [List.nil_append] at hs harrived
  refine ⟨record, n', hrun, hsteps, fun e => ⟨?_, ?_⟩, fun e => ?_⟩
  · have hheard := hs.heard e.other
    rwa [End.other_other, harrived] at hheard
  · obtain ⟨r, r', hr, hr', hdropped⟩ := hs.redirect e
    rw [Network.read?_detail] at hr hr'
    exact ⟨r, r', hr, hr', hdropped⟩
  · have hcapacity : Leads n.bare ((Network.calls (listening answer) (levels + 4)).layer
        (b.station (.host e)).framer).capacity n'.detail fun room _ => room = s.room e :=
      leads_capacity h.toStands.bare e rfl
    obtain ⟨room, n'', hasked, -, -, rfl⟩ := hcapacity.run hheld hplan rfl
    exact ⟨n'', hasked⟩

/-! ### A small bridge -/

namespace Small

def index : Place → Nat
  | .device e => e.index
  | .host e => 2 + e.index

def bridge : Bridge where
  station p := { channel := index p, framer := 4 + index p, inbox := index p }
  redirect e := 8 + e.index
  listener e := 10 + e.index

/-- The link of the far end takes short packets only. -/
def settings : Settings where
  config
    | .near => .short
    | .far => { Frame.Config.short with delimiter := 0x7E, maxSize := 6 }
  maxPacket _ := 32
  key e := e.index

def node (name : String) (child parent : Option Ref) : Node Ref :=
  { name, links := some { child, parent } }

def channel (p : Place) : Object :=
  .loopback { node := node "loopback" none (bridge.station p).framer,
              maxPacket := settings.maxPacket p }
    (bridge.station p).inbox (bridge.station p.peer).inbox

def framer (p : Place) : Framer Ref :=
  { node := node "frame" (bridge.station p).channel (bridge.parent p),
    config := settings.config p.side, lastRx := 0 }

def redirect (e : End) : Redirect Ref :=
  { target := (bridge.station (.host e.other)).framer }

def places : List Place := [.device .near, .device .far, .host .near, .host .far]

def objects : List Object :=
  places.map channel ++ places.map (fun p => .framer (framer p)) ++
    [.redirect (redirect .near), .redirect (redirect .far), .custom 0, .receiver { name := "far" } 1]

def network : Network Log where
  slots := (objects.map fun object => some { object, holders := 1 }).toArray
  mailboxes := #[[], [], [], []]
  app := []

theorem object?_framer (p : Place) :
    network.object? (bridge.station p).framer = some (.framer (framer p)) := by
  rcases p with (_ | _) | (_ | _) <;> rfl

theorem ready : bridge.Ready network settings where
  channel p := by rcases p with (_ | _) | (_ | _) <;> exact ⟨_, _, rfl, rfl, rfl, rfl⟩
  framer p := ⟨_, _, object?_framer p, rfl, rfl, rfl, rfl⟩
  redirect e := by cases e <;> exact ⟨_, rfl, rfl, rfl⟩
  listener e := by cases e <;> rfl
  inboxes p p' h := by
    rcases p with (_ | _) | (_ | _) <;> rcases p' with (_ | _) | (_ | _) <;>
      first | rfl | exact absurd h (by decide)
  keys := by decide
  empty p := by rcases p with (_ | _) | (_ | _) <;> rfl
  rest p f hf := by
    obtain rfl : framer p = f := by simpa [object?_framer] using hf
    exact ⟨rfl, nofun⟩
  held := .of_slots rfl

/-- The near device sends a packet that is too long for the far link and one
that is not, while the far device sends as well. -/
def steps : List Step :=
  [.send .near ⟨0x01, [1, 2, 3, 4, 5, 6, 7]⟩, .send .near ⟨0x02, [8]⟩, .poll (.host .near),
    .send .far ⟨0x7F, []⟩, .poll (.device .far), .poll (.host .far), .poll (.device .near)]

theorem splices_links : bridge.Ready network settings ∧
    (∀ e packet, .send e packet ∈ steps → packet.tag < Tag.frame) ∧
    ∃ record n', bridge.performAll (Network.calls (listening fun _ => .ok 0) 4) steps network =
        some (record, n') ∧
      record.map Prod.fst = steps ∧ (∀ e, Transparent network n' bridge settings record e) ∧
      ∀ e, ∃ n'', ((Network.calls (listening fun _ => .ok 0) 4).layer
        (bridge.station (.host e)).framer).capacity n' = some (settings.room e, n'') := by
  have hplain : ∀ e packet, .send e packet ∈ steps → packet.tag < Tag.frame := by
    intro e packet hsend
    simp only [steps, List.mem_cons, Step.send.injEq, List.not_mem_nil, or_false, reduceCtorEq,
      false_or] at hsend
    rcases hsend with ⟨-, rfl⟩ | ⟨-, rfl⟩ | ⟨-, rfl⟩ <;> decide
  exact ⟨ready, hplain, ready.splices hplain _ 0⟩

example : (bridge.performAll (Network.calls (listening fun _ => .ok 0) 4) steps network).map
    (fun p => p.2.app) = some [(1, [0x02, 8]), (0, [0x7F])] := by
  decide +kernel

end Small

end Bridge

end LinkStack
