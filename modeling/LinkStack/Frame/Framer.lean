import LinkStack.Frame.Codec
import LinkStack.Tag
import LinkStack.Layer.Basic

/-!
The framing layer: packets above, a stream of bytes below.

What arrives is collected and cut into units. Packets go to the parent, bytes
outside of frames to the `other` layer, so that two framing layers with
different delimiters can share one channel. A partial frame that waits too long
is discarded.

Confirmed packets travel inside control frames, tagged `Tag.frame`: data is
opcode 1, a sequence number and the packet, an acknowledgement is opcode 2 and
the number. One confirmed packet is outstanding at a time. It is sent again
after every `ackTimeout` ticks until it is acknowledged or has been sent again
`maxRetries` times, and its sender is told which. A receiver acknowledges every
copy and delivers the first: it remembers the last number and when it came, and
a repeat is a copy unless it comes later than the sender can still be trying.

The functions on `Framer` alone are the changes of state; those on a `Site` put
them in order with the calls to the neighbours.
-/

namespace LinkStack.Frame

/-- The confirmed packet that awaits its acknowledgement. -/
structure Outstanding where
  seq : UInt8
  sentAt : Tick
  retries : UInt8
  /-- The frame as it was first sent. -/
  wire : Bytes
  packet : Bytes
  deriving DecidableEq, Repr

/-- The opcode of confirmed data. -/
def opData : UInt8 := 0x01

/-- The opcode of an acknowledgement. -/
def opAck : UInt8 := 0x02

/-- The body of a control frame with a confirmed packet. -/
def dataBody (seq : UInt8) (packet : Bytes) : Bytes := Tag.frame :: opData :: seq :: packet

/-- The body of an acknowledgement. -/
def ackBody (seq : UInt8) : Bytes := [Tag.frame, opAck, seq]

/-- What a control frame says. -/
inductive Control where
  | data (seq : UInt8) (packet : Bytes)
  | ack (seq : UInt8)
  | malformed
  deriving DecidableEq, Repr

/-- Reads the payload of a control frame. Confirmed data holds at least a tag;
an acknowledgement may be followed by anything. -/
def Control.read : Bytes → Control
  | op :: seq :: rest =>
    if op = opData ∧ rest ≠ [] then .data seq rest
    else if op = opAck then .ack seq
    else .malformed
  | _ => .malformed

/-- The state of a framing layer. -/
structure Framer (ρ : Type) where
  node : Node ρ := { name := "frame" }
  /-- Takes the bytes outside of frames. -/
  other : Option ρ := none
  config : Config
  buffer : Bytes := []
  /-- When the last bytes came. -/
  lastRx : Tick
  /-- The last confirmed number received, and when it came. -/
  lastSeq : Option (UInt8 × Tick) := none
  outstanding : Option Outstanding := none
  nextSeq : UInt8 := 0
  stats : Stats := {}
  deriving DecidableEq, Repr

/-- What the retry timer asks for. -/
inductive Expiry where
  | nothing
  | retransmit (wire : Bytes)
  | giveUp (packet : Bytes)
  deriving DecidableEq, Repr

namespace Framer

variable {ρ : Type}

/-- A new framing layer with valid settings. -/
def new (config : Config) (now : Tick) : Except Error (Framer ρ) :=
  (config.validate).map fun _ => { config, lastRx := now }

/-- Sets the links, once. -/
def init (f : Framer ρ) (child other parent : Option ρ) : Except LayerError (Framer ρ) :=
  (f.node.init child parent).map fun node => { f with node, other }

def codec (f : Framer ρ) : Codec := Codec.ofConfig f.config

/-- The longest body. -/
def bodyLimit (f : Framer ρ) : Nat := f.codec.maxSize

def count (f : Framer ρ) (event : Traffic) : Framer ρ := { f with stats := f.stats.count event }

/-- Discards a partial frame that has waited too long. -/
def expirePartial (f : Framer ρ) (now : Tick) : Framer ρ :=
  if f.buffer ≠ [] ∧ f.config.rxTimeout < now.since f.lastRx then
    ({ f with buffer := [] } : Framer ρ).count .rxDropped
  else f

/-- Takes in bytes from the channel. -/
def receive (f : Framer ρ) (now : Tick) (bytes : Bytes) : Framer ρ :=
  { f with buffer := f.buffer ++ bytes, lastRx := now }

/-- Decides about the outstanding packet: wait, send it again, or give it up. -/
def expireOutstanding (f : Framer ρ) (now : Tick) : Expiry × Framer ρ :=
  match f.outstanding with
  | none => (.nothing, f)
  | some o =>
    if now.since o.sentAt < f.config.ackTimeout then (.nothing, f)
    else if o.retries < f.config.maxRetries then
      let again := { o with retries := o.retries + 1, sentAt := now }
      (.retransmit o.wire, ({ f with outstanding := some again } : Framer ρ).count .txRetry)
    else (.giveUp o.packet, ({ f with outstanding := none } : Framer ρ).count .txDropped)

/-- Whether confirmed data is a copy of what came last: it has the same number
and is not older than the time a sender keeps trying. -/
def isRepeat (f : Framer ρ) (now : Tick) (seq : UInt8) : Bool :=
  match f.lastSeq with
  | none => false
  | some (last, at_) =>
    last = seq &&
      (now.since at_).toNat ≤ f.config.ackTimeout.toNat * (f.config.maxRetries.toNat + 1)

/-- The packet that an acknowledgement settles. -/
def acknowledge (f : Framer ρ) (seq : UInt8) : Option Bytes × Framer ρ :=
  match f.outstanding with
  | none => (none, f)
  | some o => if o.seq = seq then (some o.packet, { f with outstanding := none }) else (none, f)

/-- Whether a packet of a given size fits, with `extra` bytes in front of it. -/
def checkSize (f : Framer ρ) (size extra : Nat) : Except LayerError Unit :=
  if size = 0 then .error .emptyPacket
  else if f.bodyLimit - extra < size then .error (.packetTooLarge size (f.bodyLimit - extra))
  else .ok ()

variable {m : Type → Type} [Monad m]

/-- Tells the sender of a confirmed packet what became of it. -/
def report (site : Site m ρ (Framer ρ)) (delivery : Delivery) : m Unit := do
  match ← (site.parent? Framer.node).run with
  | .ok (some parent) => parent.delivered delivery
  | _ => pure ()

/-- Gives a received packet to the parent. -/
def deliver (site : Site m ρ (Framer ρ)) (body : Bytes) : m Unit := do
  match ← (site.parent? Framer.node).run with
  | .ok (some parent) =>
    site.modify (·.count (.rxPacket body.length))
    let _ ← (parent.recv body).run
  | _ => site.modify (·.count .rxDropped)

/-- Frames a body and hands it to the child, which has to take all of it.
Answers the frame. -/
def write (site : Site m ρ (Framer ρ)) (body : Bytes) : ExceptT LayerError m Bytes := do
  let (encoded, wire) := (← site.get).codec.encode body []
  ExceptT.mk (pure (encoded.mapError Error.toLayerError))
  let child ← site.child Framer.node
  match ← attempt (child.send wire) with
  | .ok written =>
    if written = wire.length then
      site.modify (·.count (.txPacket body.length))
      return wire
    else
      site.modify (·.count .txDropped)
      throw (.busy (← child.name))
  | .error error =>
    site.modify (·.count .txDropped)
    throw error

/-- Runs the retry timer. A retransmission that fails counts as sent. -/
def retry (site : Site m ρ (Framer ρ)) : m Unit := do
  let (expiry, f) := (← site.get).expireOutstanding (← site.now)
  site.modify fun _ => f
  match expiry with
  | .nothing => pure ()
  | .retransmit wire =>
    match ← (site.child Framer.node).run with
    | .ok child => let _ ← (child.send wire).run
    | .error _ => pure ()
  | .giveUp packet => report site { status := .dropped, packet }

/-- Acts on a control frame. -/
def control (site : Site m ρ (Framer ρ)) (payload : Bytes) : m Unit := do
  match Control.read payload with
  | .data seq packet =>
    let _ ← (write site (ackBody seq)).run
    let now ← site.now
    let isCopy := (← site.get).isRepeat now seq
    site.modify fun f => { f with lastSeq := some (seq, now) }
    if isCopy then site.modify (·.count .rxRetry) else deliver site packet
  | .ack seq =>
    let (settled, f) := (← site.get).acknowledge seq
    site.modify fun _ => f
    match settled with
    | some packet => report site { status := .acked, packet }
    | none => pure ()
  | .malformed => site.modify (·.count .rxError)

/-- Acts on one unit of the received stream. -/
def take (site : Site m ρ (Framer ρ)) : Item → m Unit
  | .packet packet =>
    if Tag.fold packet.tag = Tag.frame then control site packet.payload
    else deliver site packet.body
  | .stray bytes => do
    match (← site.get).other with
    | some other => let _ ← ((site.layer other).recv bytes).run
    | none => pure ()

/-- Takes units from the buffer until it holds no whole frame. A unit has at
least one byte, and a neighbour that calls back into `recv` leaves no whole
frame behind, so as many turns as the buffer has bytes are enough. -/
def drain (site : Site m ρ (Framer ρ)) : Nat → m Unit
  | 0 => pure ()
  | turns + 1 => do
    let f ← site.get
    match f.codec.decode f.buffer with
    | .needsMore => pure ()
    | .item item rest =>
      site.modify fun f => { f with buffer := rest }
      take site item
      drain site turns
    | .refused _ rest =>
      site.modify fun f => ({ f with buffer := rest } : Framer ρ).count .rxError
      drain site turns

/-- Runs both timers. -/
def service (site : Site m ρ (Framer ρ)) : m Unit := do
  let now ← site.now
  site.modify (·.expirePartial now)
  retry site

def recv (site : Site m ρ (Framer ρ)) (bytes : Bytes) : ExceptT LayerError m Nat := do
  site.ensureInitialized Framer.node
  let now ← site.now
  site.modify fun f => (f.expirePartial now).receive now bytes
  (drain site ((← site.get).buffer.length + 1) : m Unit)
  (retry site : m Unit)
  return bytes.length

def send (site : Site m ρ (Framer ρ)) (packet : Bytes) : ExceptT LayerError m Nat := do
  site.ensureInitialized Framer.node
  ExceptT.mk (pure ((← site.get).checkSize packet.length 0))
  let _ ← write site packet
  return packet.length

/-- Sends a packet that is to be acknowledged. Its number is used up even if it
cannot be sent. -/
def sendConfirmed (site : Site m ρ (Framer ρ)) (packet : Bytes) :
    ExceptT LayerError m Nat := do
  site.ensureInitialized Framer.node
  let f ← site.get
  ExceptT.mk (pure (f.checkSize packet.length controlHeader))
  if f.outstanding.isSome then throw (.busy f.node.name)
  let seq := f.nextSeq
  site.modify fun f => { f with nextSeq := seq + 1 }
  let wire ← write site (dataBody seq packet)
  let now ← site.now
  site.modify fun f =>
    { f with outstanding := some { seq, sentAt := now, retries := 0, wire, packet } }
  return packet.length

/-- The longest packet whose frame the child can take now. -/
def capacity (site : Site m ρ (Framer ρ)) : m Nat := do
  match ← (site.child Framer.node).run with
  | .error _ => return 0
  | .ok child =>
    let f ← site.get
    return min ((← child.capacity) - f.config.mode.overhead f.bodyLimit) f.bodyLimit

/-- The framing layer as its neighbours see it. -/
def layer (site : Site m ρ (Framer ρ)) : Layer m where
  name := return (← site.get).node.name
  recv := recv site
  send := send site
  sendConfirmed := sendConfirmed site
  capacity := capacity site
  delivered _ := pure ()
  stats := return (← site.get).stats

end Framer

end LinkStack.Frame
