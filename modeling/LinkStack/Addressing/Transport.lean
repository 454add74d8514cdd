import LinkStack.Addressing.Binding
import LinkStack.Addressing.Header
import LinkStack.Tag

/-!
Ports. A packet for one port is `Tag.port`, the port and the payload; a packet
for several is `Tag.portList`, their number, the ports and the payload. What
arrives is given, without its header, to the layer that the port table names.
A packet for a list goes to every port in it, in order, whatever the others do.
-/

namespace LinkStack.Addressing

/-- The bytes in front of a payload for one port. -/
def portHeader : Nat := 2

structure Transport (ρ : Type) where
  node : Node ρ := { name := "transport" }
  ports : BindTable ρ
  stats : Stats := {}
  deriving DecidableEq, Repr

/-- What a packet of the port layer holds. -/
inductive PortPacket where
  | single (port : UInt8) (payload : Bytes)
  | list (ports payload : Bytes)
  | malformed
  deriving DecidableEq, Repr

/-- Takes a packet apart. The ports of a list have to be there in full. -/
def PortPacket.read : Bytes → PortPacket
  | tag :: b :: rest =>
    if tag = Tag.port then .single b rest
    else if tag = Tag.portList then
      if rest.length < b.toNat then .malformed
      else .list (rest.take b.toNat) (rest.drop b.toNat)
    else .malformed
  | _ => .malformed

namespace Transport

variable {ρ : Type}

/-- Sets the child, once. The layers above are those of the port table. -/
def init (t : Transport ρ) (child : Option ρ) : Except LayerError (Transport ρ) :=
  (t.node.init child none).map fun node => { t with node }

def count (t : Transport ρ) (event : Traffic) : Transport ρ :=
  { t with stats := t.stats.count event }

variable {m : Type → Type} [Monad m]

/-- Sends a payload behind a header, with or without confirmation. -/
def emit (site : Site m ρ (Transport ρ)) (confirmed : Bool) (header payload : Bytes) :
    ExceptT LayerError m Nat := do
  let child ← site.child Transport.node
  sendBehind (fun event => site.modify (·.count event))
    (if confirmed then child.sendConfirmed else child.send) header payload

/-- Sends a payload to one port. -/
def sendTo (site : Site m ρ (Transport ρ)) (port : UInt8) (payload : Bytes) :
    ExceptT LayerError m Nat :=
  emit site false [Tag.port, port] payload

/-- Sends a payload to several ports at once, at most 255. -/
def sendList (site : Site m ρ (Transport ρ)) (ports payload : Bytes) :
    ExceptT LayerError m Nat := do
  if 255 < ports.length then throw (.packetTooLarge ports.length 255)
  emit site false (Tag.portList :: UInt8.ofNat ports.length :: ports) payload

/-- Gives a payload to the layer of a port. -/
def route (site : Site m ρ (Transport ρ)) (payload : Bytes) (port : UInt8) :
    ExceptT LayerError m Nat := do
  match (← site.get).ports.lookup port with
  | none =>
    site.modify (·.count .rxError)
    return 0
  | some handler =>
    match ← (handler.resolve site : m _) with
    | none =>
      site.modify (·.count .rxDropped)
      return 0
    | some layer =>
      site.modify (·.count (.rxPacket payload.length))
      layer.recv payload

/-- What a list of ports made of a payload so far: the most that one of them
took, and the first refusal. -/
structure Tally where
  taken : Option Nat := none
  refusal : Option LayerError := none
  deriving DecidableEq, Repr

def Tally.add (t : Tally) : Except LayerError Nat → Tally
  | .ok n => { t with taken := some (max (t.taken.getD 0) n) }
  | .error error => { t with refusal := t.refusal.or (some error) }

/-- A refusal counts only if no port took anything. -/
def Tally.result (t : Tally) : Except LayerError Nat :=
  match t.taken, t.refusal with
  | none, some error => .error error
  | taken, _ => .ok (taken.getD 0)

/-- Gives a payload to one port of a list and takes down the outcome. -/
def routeListed (site : Site m ρ (Transport ρ)) (payload : Bytes) (tally : Tally)
    (port : UInt8) : m Tally := do
  let outcome ← (route site payload port).run
  match outcome with
  | .ok _ => pure ()
  | .error _ => site.modify (·.count .rxDropped)
  return tally.add outcome

def recv (site : Site m ρ (Transport ρ)) (packet : Bytes) : ExceptT LayerError m Nat := do
  site.ensureInitialized Transport.node
  match PortPacket.read packet with
  | .single port payload => route site payload port
  | .list ports payload =>
    let tally ← (ports.foldlM (routeListed site payload) {} : m Tally)
    ExceptT.mk (pure tally.result)
  | .malformed =>
    site.modify (·.count .rxError)
    return 0

/-- Sends a packet that starts with its port. -/
def send (site : Site m ρ (Transport ρ)) : Bytes → ExceptT LayerError m Nat
  | [] => throw .emptyPacket
  | port :: payload => sendTo site port payload

def capacity (site : Site m ρ (Transport ρ)) : m Nat := do
  match ← (site.child Transport.node).run with
  | .ok child => return (← child.capacity) - portHeader
  | .error _ => return 0

/-- Passes a report on to the layer of its port, without the header. -/
def delivered (site : Site m ρ (Transport ρ)) (report : Delivery) : m Unit := do
  match report.packet with
  | tag :: port :: payload =>
    if tag = Tag.port then
      match ← (← site.get).ports.resolve site port with
      | some layer => layer.delivered { report with packet := payload }
      | none => pure ()
  | _ => pure ()

def layer (site : Site m ρ (Transport ρ)) : Layer m where
  name := return (← site.get).node.name
  recv := recv site
  send := send site
  capacity := capacity site
  delivered := delivered site
  stats := return (← site.get).stats

/-- The name of the child-side end of a port. -/
def portName : String := "transport-port"

/-- One port of a transport, as the child of the layers that send through it. -/
def portLayer (site : Site m ρ (Transport ρ)) (port : UInt8) : Layer m where
  name := pure portName
  recv _ := throw (.unsupported portName "recv")
  send := emit site false [Tag.port, port]
  sendConfirmed := emit site true [Tag.port, port]
  capacity := capacity site
  delivered _ := pure ()
  stats := pure {}

end Transport

end LinkStack.Addressing
