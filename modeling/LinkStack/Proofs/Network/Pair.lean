import LinkStack.Proofs.Frame.Framer
import LinkStack.Proofs.Frame.Stream
import LinkStack.Proofs.Network.Execution

/-!
Two framing layers on the two ends of a link in memory, under an application
that only records what it hears.

A `Pair` is what can change in such a network; `Pair.network` is the network
itself, with its six objects in their slots. The functions on a `Pair` say what
each operation of a framing layer and of a channel changes, and the `does_`
lemma beside each says that the operation, called on the network, does just
that. Statements about whole runs can then be proved about pairs.
-/

namespace LinkStack

open LinkStack.Frame (Framer Packet Codec Control ackBody dataBody)
open Channel (Loopback)
open Network (Does site wire)

/-! ### The objects -/

inductive End where
  | near
  | far
  deriving DecidableEq, Repr

namespace End

def other : End → End
  | near => far
  | far => near

theorem other_ne (e : End) : e.other ≠ e := by
  cases e <;> decide

theorem other_other (e : End) : e.other.other = e := by
  cases e <;> rfl

theorem eq_or_eq_other (e e' : End) : e = e' ∨ e = e'.other := by
  cases e <;> cases e' <;> decide

def index : End → Nat
  | near => 0
  | far => 1

/-- The end's channel, which has the number of its inbox. -/
def channel (e : End) : Ref := e.index

def framer (e : End) : Ref := 2 + e.index

/-- The layer of the application above the framing layer. -/
def parent (e : End) : Ref := 4 + e.index

end End

/-- What the application hears at an end. -/
inductive Heard where
  | packet (at_ : End) (bytes : Bytes)
  | report (at_ : End) (delivery : Delivery)
  deriving DecidableEq, Repr

/-- An application that writes down what it hears, with the even keys at the
near end. -/
def recorder : App (List Heard) where
  layer _ key :=
    let e : End := if key % 2 = 0 then .near else .far
    { name := pure "application"
      recv := fun bytes => do
        modify fun n => { n with app := n.app ++ [.packet e bytes] }
        return bytes.length
      send := fun _ => throw (.unsupported "application" "send")
      capacity := pure 0
      delivered := fun delivery => modify fun n => { n with app := n.app ++ [.report e delivery] }
      stats := pure {} }
  receive _ _ bytes := return bytes.length
  handle _ _ _ := return none
  tick _ _ _ := pure ()

structure Pair where
  channel : End → Loopback Ref
  framer : End → Framer Ref
  inbox : End → List Bytes
  now : Tick
  heard : List Heard

namespace Pair

def network (p : Pair) : Network (List Heard) :=
  let slot (object : Object) : Option Slot := some { object, holders := 1 }
  { slots := #[slot (.loopback (p.channel .near) 0 1), slot (.loopback (p.channel .far) 1 0),
      slot (.framer (p.framer .near)), slot (.framer (p.framer .far)),
      slot (.custom 0), slot (.custom 1)]
    mailboxes := #[p.inbox .near, p.inbox .far]
    clock := { now := p.now, timers := [End.near.framer, End.far.framer] }
    app := p.heard }

def setFramer (p : Pair) (e : End) (f : Framer Ref) : Pair :=
  { p with framer := Function.update p.framer e f }

def setChannel (p : Pair) (e : End) (l : Loopback Ref) : Pair :=
  { p with channel := Function.update p.channel e l }

def setInbox (p : Pair) (e : End) (writes : List Bytes) : Pair :=
  { p with inbox := Function.update p.inbox e writes }

def hear (p : Pair) (event : Heard) : Pair := { p with heard := p.heard ++ [event] }

def countFramer (p : Pair) (e : End) (event : Traffic) : Pair :=
  p.setFramer e ((p.framer e).count event)

def countChannel (p : Pair) (e : End) (event : Traffic) : Pair :=
  p.setChannel e ((p.channel e).count event)

section Objects

variable (p : Pair) (e : End)

theorem read?_framer : p.network.read? .framer e.framer = some (p.framer e) := by
  cases e <;> rfl

theorem read?_channel : p.network.read? .loopback e.channel = some (p.channel e) := by
  cases e <;> rfl

theorem object?_framer : p.network.object? e.framer = some (.framer (p.framer e)) := by
  cases e <;> rfl

theorem object?_channel : p.network.object? e.channel =
    some (.loopback (p.channel e) e.index e.other.index) := by
  cases e <;> rfl

theorem object?_parent : p.network.object? e.parent = some (.custom e.index) := by
  cases e <;> rfl

theorem isAlive_framer : p.network.isAlive e.framer := by
  cases e <;> rfl

theorem isAlive_channel : p.network.isAlive e.channel := by
  cases e <;> rfl

theorem isAlive_parent : p.network.isAlive e.parent := by
  cases e <;> rfl

theorem mailbox_inbox : p.network.mailbox e.index = p.inbox e := by
  cases e <;> rfl

theorem update_framer (change : Framer Ref → Framer Ref) :
    p.network.update .framer e.framer change = (p.setFramer e (change (p.framer e))).network := by
  cases e <;> rfl

theorem update_channel (change : Loopback Ref → Loopback Ref) :
    p.network.update .loopback e.channel change =
      (p.setChannel e (change (p.channel e))).network := by
  cases e <;> rfl

theorem updateMailbox_inbox (change : List Bytes → List Bytes) :
    p.network.updateMailbox e.index change = (p.setInbox e (change (p.inbox e))).network := by
  cases e <;> rfl

end Objects

variable {calls : Calls (List Heard)} {levels : Nat} {p p' p'' : Pair} {e : End}

theorem setFramer_setFramer (f f' : Framer Ref) :
    (p.setFramer e f).setFramer e f' = p.setFramer e f' := by
  simp [setFramer]

theorem setFramer_self : p.setFramer e (p.framer e) = p := by
  simp [setFramer]

theorem framer_setFramer (f : Framer Ref) : (p.setFramer e f).framer e = f :=
  Function.update_self ..

theorem framer_setFramer_other (f : Framer Ref) :
    (p.setFramer e f).framer e.other = p.framer e.other :=
  Function.update_of_ne e.other_ne ..

theorem channel_setChannel (l : Loopback Ref) : (p.setChannel e l).channel e = l :=
  Function.update_self ..

theorem channel_setChannel_other (l : Loopback Ref) :
    (p.setChannel e l).channel e.other = p.channel e.other :=
  Function.update_of_ne e.other_ne ..

theorem inbox_setInbox (writes : List Bytes) : (p.setInbox e writes).inbox e = writes :=
  Function.update_self ..

theorem inbox_setInbox_other (writes : List Bytes) :
    (p.setInbox e.other writes).inbox e = p.inbox e :=
  Function.update_of_ne e.other_ne.symm ..

/-! ### What an operation leaves alone -/

/-- An operation of the framing layer of an end leaves the other end alone, up
to its inbox, and does not change the links and the settings, what is left of a
frame and the time. -/
structure Keeps (e : End) (p p' : Pair) : Prop where
  node : (p'.framer e).node = (p.framer e).node
  config : (p'.framer e).config = (p.framer e).config
  buffer : (p'.framer e).buffer = (p.framer e).buffer
  channelNode : (p'.channel e).node = (p.channel e).node
  maxPacket : (p'.channel e).maxPacket = (p.channel e).maxPacket
  inbox : p'.inbox e = p.inbox e
  now : p'.now = p.now
  otherFramer : p'.framer e.other = p.framer e.other
  otherChannel : p'.channel e.other = p.channel e.other

namespace Keeps

theorem refl (e : End) (p : Pair) : Keeps e p p :=
  ⟨rfl, rfl, rfl, rfl, rfl, rfl, rfl, rfl, rfl⟩

theorem trans (h : Keeps e p p') (h' : Keeps e p' p'') : Keeps e p p'' where
  node := h'.node.trans h.node
  config := h'.config.trans h.config
  buffer := h'.buffer.trans h.buffer
  channelNode := h'.channelNode.trans h.channelNode
  maxPacket := h'.maxPacket.trans h.maxPacket
  inbox := h'.inbox.trans h.inbox
  now := h'.now.trans h.now
  otherFramer := h'.otherFramer.trans h.otherFramer
  otherChannel := h'.otherChannel.trans h.otherChannel

theorem setFramer {f : Framer Ref} (hnode : f.node = (p.framer e).node)
    (hconfig : f.config = (p.framer e).config) (hbuffer : f.buffer = (p.framer e).buffer) :
    Keeps e p (p.setFramer e f) where
  node := by rw [framer_setFramer, hnode]
  config := by rw [framer_setFramer, hconfig]
  buffer := by rw [framer_setFramer, hbuffer]
  channelNode := rfl
  maxPacket := rfl
  inbox := rfl
  now := rfl
  otherFramer := framer_setFramer_other f
  otherChannel := rfl

theorem countFramer (event : Traffic) : Keeps e p (p.countFramer e event) :=
  setFramer rfl rfl rfl

theorem countChannel (event : Traffic) : Keeps e p (p.countChannel e event) where
  node := rfl
  config := rfl
  buffer := rfl
  channelNode := by
    rw [Pair.countChannel, channel_setChannel]
    rfl
  maxPacket := by
    rw [Pair.countChannel, channel_setChannel]
    rfl
  inbox := rfl
  now := rfl
  otherFramer := rfl
  otherChannel := channel_setChannel_other _

theorem push (writes : List Bytes) : Keeps e p (p.setInbox e.other writes) :=
  ⟨rfl, rfl, rfl, rfl, rfl, inbox_setInbox_other writes, rfl, rfl, rfl⟩

theorem hear (event : Heard) : Keeps e p (p.hear event) :=
  ⟨rfl, rfl, rfl, rfl, rfl, rfl, rfl, rfl, rfl⟩

theorem codec (h : Keeps e p p') : (p'.framer e).codec = (p.framer e).codec := by
  rw [Framer.codec, Framer.codec, h.config]

theorem bodyLimit (h : Keeps e p p') : (p'.framer e).bodyLimit = (p.framer e).bodyLimit := by
  rw [Framer.bodyLimit, Framer.bodyLimit, h.codec]

end Keeps

/-- Every layer has its neighbours, and no frame has been received in part. -/
structure Wired (p : Pair) : Prop where
  framer : ∀ e, (p.framer e).node.links = some { child := some e.channel, parent := some e.parent }
  channel : ∀ e, (p.channel e).node.links = some { child := none, parent := some e.framer }
  buffer : ∀ e, (p.framer e).buffer = []

theorem Wired.of_keeps (hp : p.Wired) (h : Keeps e p p') : p'.Wired where
  framer e' := by
    rcases e'.eq_or_eq_other e with rfl | rfl
    · rw [h.node, hp.framer]
    · rw [h.otherFramer, hp.framer]
  channel e' := by
    rcases e'.eq_or_eq_other e with rfl | rfl
    · rw [h.channelNode, hp.channel]
    · rw [h.otherChannel, hp.channel]
  buffer e' := by
    rcases e'.eq_or_eq_other e with rfl | rfl
    · rw [h.buffer, hp.buffer]
    · rw [h.otherFramer, hp.buffer]

/-! ### The channels -/

theorem channel_get :
    Does (site calls .loopback e.channel).get p.network (p.channel e) p.network :=
  Does.site_get (p.read?_channel e)

theorem channel_modify (change : Loopback Ref → Loopback Ref) :
    Does ((site calls .loopback e.channel).modify change) p.network PUnit.unit
      (p.setChannel e (change (p.channel e))).network := by
  rw [← update_channel]
  exact Does.site_modify change

theorem push_inbox (bytes : Bytes) :
    Does ((wire e.index e.other.index).push bytes) p.network PUnit.unit
      (p.setInbox e.other (p.inbox e.other ++ [bytes])).network := by
  rw [← updateMailbox_inbox p e.other (· ++ [bytes])]
  exact Does.push bytes

def transmit (p : Pair) (e : End) (bytes : Bytes) : Except LayerError Nat × Pair :=
  if (p.channel e).maxPacket < bytes.length then
    (.error (.packetTooLarge bytes.length (p.channel e).maxPacket), p.countChannel e .txDropped)
  else
    (.ok bytes.length, (p.setInbox e.other (p.inbox e.other ++ [bytes])).countChannel e
      (.txPacket bytes.length))

theorem keeps_transmit (bytes : Bytes) : Keeps e p (p.transmit e bytes).2 := by
  rw [transmit]
  split
  · exact .countChannel _
  · exact (Keeps.push _).trans (.countChannel _)

theorem does_transmit (bytes : Bytes) :
    Does (((Network.calls recorder (levels + 1)).layer e.channel).send bytes).run p.network
      (p.transmit e bytes).1 (p.transmit e bytes).2.network := by
  refine Does.send (p.object?_channel e) rfl (isAlive_channel _ e) ?_
  refine Does.bind_ok (Does.lift channel_get) ?_
  rw [transmit]
  by_cases hsize : (p.channel e).maxPacket < bytes.length
  · simp only [if_pos hsize]
    exact Does.bind_ok (Does.lift (channel_modify _)) (Does.bind_error Does.throw)
  · simp only [if_neg hsize]
    refine Does.bind_ok (Does.lift (push_inbox bytes)) ?_
    exact Does.bind_ok (Does.lift (channel_modify _)) Does.ok

/-! ### The application -/

theorem does_hear_packet (bytes : Bytes) :
    Does (((Network.calls recorder (levels + 1)).layer e.parent).recv bytes).run p.network
      (.ok bytes.length) (p.hear (.packet e bytes)).network := by
  refine Does.recv (p.object?_parent e) rfl (isAlive_parent _ e) ?_
  refine Does.bind_ok (Does.lift (Does.modify fun _ => rfl)) ?_
  cases e <;> exact Does.ok

theorem does_hear_report (report : Delivery) :
    Does (((Network.calls recorder (levels + 1)).layer e.parent).delivered report) p.network
      () (p.hear (.report e report)).network := by
  refine Does.delivered (p.object?_parent e) rfl (isAlive_parent _ e) ?_
  cases e <;> exact Does.modify fun _ => rfl

/-! ### The framing layers -/

abbrev place (levels : Nat) (e : End) : Site (Act (List Heard)) Ref (Framer Ref) :=
  site (Network.calls recorder (levels + 1)) .framer e.framer

theorem framer_get : Does (place levels e).get p.network (p.framer e) p.network :=
  Does.site_get (p.read?_framer e)

theorem framer_modify (change : Framer Ref → Framer Ref) :
    Does ((place levels e).modify change) p.network PUnit.unit
      (p.setFramer e (change (p.framer e))).network := by
  rw [← update_framer]
  exact Does.site_modify change

theorem framer_now : Does (place levels e).now p.network p.now p.network :=
  Does.site_now

def write (p : Pair) (e : End) (body : Bytes) : Except LayerError Bytes × Pair :=
  let wire := (p.framer e).codec.frame body
  match p.transmit e wire with
  | (.ok _, p) => (.ok wire, p.countFramer e (.txPacket body.length))
  | (.error error, p) => (.error error, p.countFramer e .txDropped)

theorem keeps_write (body : Bytes) : Keeps e p (p.write e body).2 := by
  have hsent := p.keeps_transmit (e := e) ((p.framer e).codec.frame body)
  rw [write]
  generalize p.transmit e ((p.framer e).codec.frame body) = sent at hsent ⊢
  obtain ⟨answer, p'⟩ := sent
  cases answer <;> exact hsent.trans (.countFramer _)

theorem does_write (hp : p.Wired) {body : Bytes} (hbody : body ≠ [])
    (hsize : body.length ≤ (p.framer e).bodyLimit) :
    Does (Framer.write (place levels e) body).run p.network (p.write e body).1
      (p.write e body).2.network := by
  have hsent := @does_transmit levels p e ((p.framer e).codec.frame body)
  refine Does.bind_ok (Does.lift framer_get) ?_
  simp only [Codec.encode_of_fits hbody hsize, List.nil_append]
  refine Does.bind_ok Does.pure ?_
  refine Does.bind_ok (Does.child (p.read?_framer e) (hp.framer e) rfl) ?_
  refine Does.bind_ok (Does.map hsent) ?_
  by_cases hroom : (p.channel e).maxPacket < ((p.framer e).codec.frame body).length
  · simp only [write, transmit, if_pos hroom]
    exact Does.bind_ok (Does.lift (framer_modify _)) Does.throw
  · simp only [write, transmit, if_neg hroom, if_true]
    exact Does.bind_ok (Does.lift (framer_modify _)) Does.ok

def deliver (p : Pair) (e : End) (body : Bytes) : Pair :=
  (p.countFramer e (.rxPacket body.length)).hear (.packet e body)

theorem keeps_deliver (body : Bytes) : Keeps e p (p.deliver e body) :=
  (Keeps.countFramer _).trans (.hear _)

theorem does_deliver (hp : p.Wired) (body : Bytes) :
    Does (Framer.deliver (place levels e) body) p.network () (p.deliver e body).network := by
  refine Does.bind (Does.parent? (p.read?_framer e) (hp.framer e) rfl (isAlive_parent p e)) ?_
  refine (framer_modify _).bind ?_
  exact (does_hear_packet body).bind Does.pure

theorem does_report (hp : p.Wired) (delivery : Delivery) :
    Does (Framer.report (place levels e) delivery) p.network ()
      (p.hear (.report e delivery)).network := by
  refine Does.bind (Does.parent? (p.read?_framer e) (hp.framer e) rfl (isAlive_parent p e)) ?_
  exact does_hear_report delivery

def retry (p : Pair) (e : End) : Pair :=
  match (p.framer e).expireOutstanding p.now with
  | (.nothing, f) => p.setFramer e f
  | (.retransmit wire, f) => ((p.setFramer e f).transmit e wire).2
  | (.giveUp packet, f) => (p.setFramer e f).hear (.report e { status := .dropped, packet })

theorem keeps_expireOutstanding (now : Tick) :
    Keeps e p (p.setFramer e ((p.framer e).expireOutstanding now).2) := by
  rcases (p.framer e).expireOutstanding_cases now with
    ⟨-, hexpiry⟩ | ⟨o, -, -, -, hexpiry⟩ | ⟨o, -, -, -, hexpiry⟩ <;> rw [hexpiry] <;>
    exact .setFramer rfl rfl rfl

theorem keeps_retry : Keeps e p (p.retry e) := by
  have hkeeps := p.keeps_expireOutstanding (e := e) p.now
  rw [retry]
  generalize (p.framer e).expireOutstanding p.now = found at hkeeps ⊢
  obtain ⟨expiry, f⟩ := found
  cases expiry with
  | nothing => exact hkeeps
  | retransmit wire => exact hkeeps.trans (keeps_transmit wire)
  | giveUp packet => exact hkeeps.trans (.hear _)

theorem does_retry (hp : p.Wired) :
    Does (Framer.retry (place levels e)) p.network () (p.retry e).network := by
  have hkeeps := p.keeps_expireOutstanding (e := e) p.now
  refine framer_get.bind (framer_now.bind ?_)
  rw [retry]
  generalize (p.framer e).expireOutstanding p.now = found at hkeeps ⊢
  obtain ⟨expiry, f⟩ := found
  refine (framer_modify _).bind ?_
  have hp' := hp.of_keeps hkeeps
  cases expiry with
  | nothing => exact Does.pure
  | retransmit wire =>
      refine Does.bind (Does.child (read?_framer _ e) (hp'.framer e) rfl) ?_
      exact (does_transmit wire).bind Does.pure
  | giveUp packet => exact does_report hp' _

/-- The framing layer of an end takes confirmed data that it has acknowledged. -/
def accept (p : Pair) (e : End) (seq : UInt8) (packet : Bytes) : Pair :=
  let p' := p.setFramer e { p.framer e with lastSeq := some (seq, p.now) }
  if (p.framer e).isRepeat p.now seq then p'.countFramer e .rxRetry else p'.deliver e packet

theorem keeps_lastSeq (lastSeq : Option (UInt8 × Tick)) :
    Keeps e p (p.setFramer e { p.framer e with lastSeq }) :=
  .setFramer rfl rfl rfl

theorem keeps_accept (seq : UInt8) (packet : Bytes) : Keeps e p (p.accept e seq packet) := by
  rw [accept]
  split
  · exact (keeps_lastSeq _).trans (.countFramer _)
  · exact (keeps_lastSeq _).trans (keeps_deliver _)

def settle (p : Pair) (e : End) (seq : UInt8) : Pair :=
  match (p.framer e).acknowledge seq with
  | (some packet, f) => (p.setFramer e f).hear (.report e { status := .acked, packet })
  | (none, f) => p.setFramer e f

theorem keeps_acknowledge (seq : UInt8) :
    Keeps e p (p.setFramer e ((p.framer e).acknowledge seq).2) := by
  rcases (p.framer e).acknowledge_cases seq with ⟨o, -, -, hsettled⟩ | ⟨-, hsettled⟩ <;>
    rw [hsettled] <;> exact .setFramer rfl rfl rfl

theorem keeps_settle (seq : UInt8) : Keeps e p (p.settle e seq) := by
  have hkeeps := p.keeps_acknowledge (e := e) seq
  rw [settle]
  generalize (p.framer e).acknowledge seq = found at hkeeps ⊢
  obtain ⟨settled, f⟩ := found
  cases settled with
  | none => exact hkeeps
  | some packet => exact hkeeps.trans (.hear _)

def control (p : Pair) (e : End) (payload : Bytes) : Pair :=
  match Control.read payload with
  | .data seq packet => (p.write e (ackBody seq)).2.accept e seq packet
  | .ack seq => p.settle e seq
  | .malformed => p.countFramer e .rxError

theorem keeps_control (payload : Bytes) : Keeps e p (p.control e payload) := by
  rw [control]
  cases Control.read payload with
  | malformed => exact .countFramer _
  | ack seq => exact keeps_settle seq
  | data seq packet => exact (keeps_write _).trans (keeps_accept seq packet)

theorem does_control (hp : p.Wired) (hack : 3 ≤ (p.framer e).bodyLimit) (payload : Bytes) :
    Does (Framer.control (place levels e) payload) p.network () (p.control e payload).network := by
  rw [Framer.control, control]
  cases Control.read payload with
  | malformed => exact framer_modify _
  | ack seq =>
      have hkeeps := p.keeps_acknowledge (e := e) seq
      refine framer_get.bind ?_
      show Does _ _ _ (p.settle e seq).network
      rw [settle]
      generalize (p.framer e).acknowledge seq = found at hkeeps ⊢
      obtain ⟨settled, f⟩ := found
      refine (framer_modify _).bind ?_
      cases settled with
      | none => exact Does.pure
      | some packet => exact does_report (hp.of_keeps hkeeps) _
  | data seq packet =>
      have hbody : ackBody seq ≠ [] := by simp [ackBody]
      have hkeeps := p.keeps_write (e := e) (ackBody seq)
      refine (does_write hp hbody hack).bind ?_
      simp only
      generalize (p.write e (ackBody seq)).2 = p' at hkeeps ⊢
      refine framer_now.bind (framer_get.bind ((framer_modify _).bind ?_))
      rw [accept]
      split
      · exact framer_modify _
      · exact does_deliver ((hp.of_keeps hkeeps).of_keeps (keeps_lastSeq _)) _

def take (p : Pair) (e : End) (packet : Packet) : Pair :=
  if Tag.fold packet.tag = Tag.frame then p.control e packet.payload
  else p.deliver e packet.body

theorem keeps_take (packet : Packet) : Keeps e p (p.take e packet) := by
  rw [take]
  split
  · exact keeps_control _
  · exact keeps_deliver _

theorem does_take (hp : p.Wired) (hack : 3 ≤ (p.framer e).bodyLimit) (packet : Packet) :
    Does (Framer.take (place levels e) (.packet packet)) p.network ()
      (p.take e packet).network := by
  rw [Framer.take, take]
  split
  · exact does_control hp hack _
  · exact does_deliver hp _

/-- The framing layer of an end receives a whole frame. -/
def recv (p : Pair) (e : End) (packet : Packet) : Pair :=
  ((p.setFramer e { p.framer e with lastRx := p.now }).take e packet).retry e

theorem keeps_lastRx (lastRx : Tick) : Keeps e p (p.setFramer e { p.framer e with lastRx }) :=
  .setFramer rfl rfl rfl

theorem keeps_recv (packet : Packet) : Keeps e p (p.recv e packet) :=
  (keeps_lastRx _).trans ((keeps_take packet).trans keeps_retry)

theorem does_drain_nil (hp : p.Wired) (turns : Nat) :
    Does (Framer.drain (place levels e) turns) p.network () p.network := by
  cases turns with
  | zero => exact Does.pure
  | succ turns =>
      refine framer_get.bind ?_
      rw [hp.buffer]
      exact Does.pure

theorem does_drain (hp : p.Wired) (hack : 3 ≤ (p.framer e).bodyLimit) {packet : Packet}
    (hsize : packet.body.length ≤ (p.framer e).bodyLimit) (turns : Nat) :
    Does (Framer.drain (place levels e) (turns + 1))
      (p.setFramer e { p.framer e with buffer := (p.framer e).codec.frame packet.body }).network ()
      (p.take e packet).network := by
  have hceiling : (p.framer e).codec.maxSize ≤ (p.framer e).codec.mode.ceiling :=
    Codec.new_maxSize_le _ _ _
  have hdecode := Codec.decode_frame_append hceiling hsize []
  rw [List.append_nil] at hdecode
  have hemptied : p.setFramer e { p.framer e with buffer := [] } = p := by
    rw [← hp.buffer e]
    exact setFramer_self
  have hread (f : Framer Ref)
      (hf : f = { p.framer e with buffer := (p.framer e).codec.frame packet.body }) :
      f.codec.decode f.buffer = .item (.packet packet) [] := by
    rw [hf]
    exact hdecode
  refine framer_get.bind ?_
  rw [framer_setFramer, hread _ rfl]
  refine (framer_modify _).bind ?_
  rw [framer_setFramer, setFramer_setFramer]
  show Does _ (p.setFramer e { p.framer e with buffer := [] }).network _ _
  rw [hemptied]
  exact (does_take hp hack packet).bind (does_drain_nil (hp.of_keeps (keeps_take packet)) turns)

theorem does_recv (hp : p.Wired) (hack : 3 ≤ (p.framer e).bodyLimit) {packet : Packet}
    (hsize : packet.body.length ≤ (p.framer e).bodyLimit) :
    Does (((Network.calls recorder (levels + 2)).layer e.framer).recv
      ((p.framer e).codec.frame packet.body)).run p.network
      (.ok ((p.framer e).codec.frame packet.body).length) (p.recv e packet).network := by
  obtain ⟨q, hq⟩ : ∃ q, q = p.setFramer e { p.framer e with lastRx := p.now } := ⟨_, rfl⟩
  have hkeeps : Keeps e p q := hq ▸ keeps_lastRx p.now
  rw [← hkeeps.bodyLimit] at hack hsize
  rw [← hkeeps.codec]
  have hreceived : p.setFramer e (((p.framer e).expirePartial p.now).receive p.now
      ((q.framer e).codec.frame packet.body)) =
      q.setFramer e { q.framer e with buffer := (q.framer e).codec.frame packet.body } := by
    rw [Framer.expirePartial, if_neg (by simp [hp.buffer]), Framer.receive, hp.buffer,
      List.nil_append, hq, setFramer_setFramer, framer_setFramer]
  have hwired := hp.of_keeps hkeeps
  have htaken := hwired.of_keeps (keeps_take (e := e) packet)
  refine Does.recv (p.object?_framer e) rfl (isAlive_framer _ e) ?_
  refine Does.bind_ok (Does.ensureInitialized (p.read?_framer e) (hp.framer e)) ?_
  refine Does.bind_ok (Does.lift framer_now) ?_
  refine Does.bind_ok (Does.lift (framer_modify _)) ?_
  rw [hreceived]
  refine Does.bind_ok (Does.lift framer_get) ?_
  refine Does.bind_ok (Does.lift (does_drain hwired hack hsize _)) ?_
  rw [recv, ← hq]
  exact Does.bind_ok (Does.lift (does_retry htaken)) Does.ok

end Pair

end LinkStack
