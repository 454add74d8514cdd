import LinkStack.Clock
import LinkStack.Layer.Node
import LinkStack.Stats

/-!
A layer as its neighbours see it, and the place where a layer runs.

Layers call each other in both directions: a packet that is received goes up
from parent to parent, a packet that is sent goes down from child to child, and
either may turn around on the way, because a parent may answer from inside its
`recv`. So the behaviour of a layer is written over an arbitrary monad `m` in
which its neighbours act. `Layer m` is the interface; `Site m ρ S` is what the
code of a layer with state `S` has at hand: its own state, the neighbours its
references lead to, and the clock. The state is read anew after every call to a
neighbour, since that call may have come back and changed it.
-/

namespace LinkStack

/-- What became of a confirmed packet. -/
inductive DeliveryStatus where
  | acked
  | dropped
  deriving DecidableEq, Repr

/-- The report to the sender of a confirmed packet. -/
structure Delivery where
  status : DeliveryStatus
  packet : Bytes
  deriving DecidableEq, Repr

/-- The operations of a layer. `recv` answers how many bytes were taken, `send`
how many were accepted, and `capacity` the longest packet `send` can take now,
zero if there is no room. -/
structure Layer (m : Type → Type) where
  name : m String
  recv : Bytes → ExceptT LayerError m Nat
  send : Bytes → ExceptT LayerError m Nat
  /-- Sends a packet whose sender wants to hear what became of it. -/
  sendConfirmed : Bytes → ExceptT LayerError m Nat := send
  capacity : m Nat
  /-- Hears what became of a confirmed packet. -/
  delivered : Delivery → m Unit
  stats : m Stats

/-- Makes a call and answers its refusal as well. -/
def attempt {m : Type → Type} [Monad m] {α : Type} (call : ExceptT LayerError m α) :
    ExceptT LayerError m (Except LayerError α) :=
  ExceptT.mk (Except.ok <$> call.run)

/-- Offers a packet to a layer: it is sent if it is not empty and there is room
for it. -/
def Layer.offer {m : Type → Type} [Monad m] (layer : Layer m) (packet : Bytes) :
    ExceptT LayerError m Nat := do
  if packet.isEmpty then throw .emptyPacket
  let capacity ← layer.capacity
  if capacity = 0 then throw (.busy (← layer.name))
  if capacity < packet.length then throw (.packetTooLarge packet.length capacity)
  layer.send packet

/-- Where a layer with state `S` runs. References to neighbours are of type
`ρ`; `limit` bounds the loops whose length the neighbours decide. -/
structure Site (m : Type → Type) (ρ S : Type) where
  get : m S
  modify : (S → S) → m Unit
  layer : ρ → Layer m
  alive : ρ → m Bool
  now : m Tick
  limit : Nat

namespace Site

variable {m : Type → Type} [Monad m] {ρ S : Type}

/-- The child that a node names. -/
def child (site : Site m ρ S) (node : S → Node ρ) : ExceptT LayerError m (Layer m) := do
  let ref ← ExceptT.mk (pure (node (← site.get)).child)
  return site.layer ref

/-- The parent, if the node names one and it is still there. -/
def parent? (site : Site m ρ S) (node : S → Node ρ) :
    ExceptT LayerError m (Option (Layer m)) := do
  let links ← ExceptT.mk (pure (node (← site.get)).linked)
  match links.parent with
  | none => return none
  | some ref => return if ← site.alive ref then some (site.layer ref) else none

/-- The parent, which must be there. -/
def parent (site : Site m ρ S) (node : S → Node ρ) : ExceptT LayerError m (Layer m) := do
  match ← site.parent? node with
  | some layer => return layer
  | none => throw (.unlinked (node (← site.get)).name .parent)

/-- Fails unless the node has its links. -/
def ensureInitialized (site : Site m ρ S) (node : S → Node ρ) : ExceptT LayerError m Unit := do
  let _ ← ExceptT.mk (pure (node (← site.get)).linked)

end Site

end LinkStack
