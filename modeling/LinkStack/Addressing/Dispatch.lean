import LinkStack.Addressing.Binding
import LinkStack.Tag

/-!
The protocol switch of a stack: the first byte of a packet chooses the layer
above that takes it, whole. The tags of the framing layer count as one. On the
way down a packet passes only if its tag is bound.
-/

namespace LinkStack.Addressing

structure Dispatch (ρ : Type) where
  node : Node ρ := { name := "dispatch" }
  table : BindTable ρ
  stats : Stats := {}
  deriving DecidableEq, Repr

namespace Dispatch

variable {ρ : Type}

/-- Sets the child, once. The layers above are those of the table. -/
def init (d : Dispatch ρ) (child : Option ρ) : Except LayerError (Dispatch ρ) :=
  (d.node.init child none).map fun node => { d with node }

def count (d : Dispatch ρ) (event : Traffic) : Dispatch ρ :=
  { d with stats := d.stats.count event }

variable {m : Type → Type} [Monad m]

def recv (site : Site m ρ (Dispatch ρ)) (packet : Bytes) : ExceptT LayerError m Nat := do
  site.ensureInitialized Dispatch.node
  match packet with
  | [] =>
    site.modify (·.count .rxError)
    return 0
  | tag :: _ =>
    match (← site.get).table.lookup (Tag.fold tag) with
    | none =>
      site.modify (·.count .rxError)
      return 0
    | some handler =>
      match ← (handler.resolve site : m _) with
      | none =>
        site.modify (·.count .rxDropped)
        return 0
      | some layer =>
        site.modify (·.count (.rxPacket packet.length))
        layer.recv packet

/-- The child, for a packet whose tag is bound. -/
def outbound (site : Site m ρ (Dispatch ρ)) (packet : Bytes) :
    ExceptT LayerError m (Layer m) := do
  site.ensureInitialized Dispatch.node
  match packet with
  | [] => throw .emptyPacket
  | tag :: _ =>
    if (← site.get).table.contains (Tag.fold tag) then
      site.child Dispatch.node
    else
      site.modify (·.count .txDropped)
      throw (.unbound tag)

/-- Counts what became of a packet that went down. -/
def passed (site : Site m ρ (Dispatch ρ)) (call : ExceptT LayerError m Nat) :
    ExceptT LayerError m Nat := do
  match ← attempt call with
  | .ok taken =>
    if 0 < taken then site.modify (·.count (.txPacket taken))
    return taken
  | .error error =>
    site.modify (·.count .txDropped)
    throw error

def send (site : Site m ρ (Dispatch ρ)) (packet : Bytes) : ExceptT LayerError m Nat := do
  let child ← outbound site packet
  passed site (child.send packet)

def sendConfirmed (site : Site m ρ (Dispatch ρ)) (packet : Bytes) :
    ExceptT LayerError m Nat := do
  let child ← outbound site packet
  passed site (child.sendConfirmed packet)

def capacity (site : Site m ρ (Dispatch ρ)) : m Nat := do
  match ← (site.child Dispatch.node).run with
  | .ok child => child.capacity
  | .error _ => return 0

/-- Passes a report on to the layer that its packet is bound to. -/
def delivered (site : Site m ρ (Dispatch ρ)) (report : Delivery) : m Unit := do
  match report.packet with
  | [] => pure ()
  | tag :: _ =>
    match ← (← site.get).table.resolve site (Tag.fold tag) with
    | some layer => layer.delivered report
    | none => pure ()

def layer (site : Site m ρ (Dispatch ρ)) : Layer m where
  name := return (← site.get).node.name
  recv := recv site
  send := send site
  sendConfirmed := sendConfirmed site
  capacity := capacity site
  delivered := delivered site
  stats := return (← site.get).stats

end Dispatch

end LinkStack.Addressing
