import LinkStack.Channel.Basic

/-!
A duplex link in memory, with two ends. What is written on one end waits in the
inbox of the other and is delivered, one write at a time, when that end is
polled. The inboxes belong to the link: what is in one stays there when the
other end is gone.
-/

namespace LinkStack.Channel

/-- The longest write of an end unless another one is chosen. -/
def Loopback.defaultMaxPacket : Nat := 8192

/-- One end of a link. -/
structure Loopback (ρ : Type) where
  node : Node ρ := { name := "loopback" }
  maxPacket : Nat
  stats : Stats := {}
  deriving DecidableEq, Repr

/-- The two inboxes of a link as one of its ends sees them. -/
structure Wire (m : Type → Type) where
  /-- Puts a write into the inbox of the other end. -/
  push : Bytes → m Unit
  /-- Takes the oldest write out of the own inbox. -/
  pop : m (Option Bytes)
  /-- The number of writes in the own inbox. -/
  pending : m Nat

namespace Loopback

variable {ρ : Type}

def init (l : Loopback ρ) (parent : Option ρ) : Except LayerError (Loopback ρ) :=
  (l.node.init none parent).map fun node => { l with node }

def count (l : Loopback ρ) (event : Traffic) : Loopback ρ :=
  { l with stats := l.stats.count event }

variable {m : Type → Type} [Monad m]

/-- Writes to the other end. -/
def write (site : Site m ρ (Loopback ρ)) (wire : Wire m) (bytes : Bytes) :
    ExceptT LayerError m Nat := do
  let max := (← site.get).maxPacket
  if max < bytes.length then
    site.modify (·.count .txDropped)
    throw (.packetTooLarge bytes.length max)
  wire.push bytes
  site.modify (·.count (.txPacket bytes.length))
  return bytes.length

/-- Delivers waiting writes, and adds their bytes to a count. -/
def drain (site : Site m ρ (Loopback ρ)) (wire : Wire m) : Nat → Nat → m Nat
  | 0, processed => return processed
  | turns + 1, processed => do
    match ← wire.pop with
    | none => return processed
    | some bytes =>
      deliver site Loopback.node (fun event => site.modify (·.count event)) bytes
      drain site wire turns (processed + bytes.length)

/-- Delivers every waiting write, and answers how many bytes there were. -/
def poll (site : Site m ρ (Loopback ρ)) (wire : Wire m) : ExceptT LayerError m Nat := do
  site.ensureInitialized Loopback.node
  let turns ← wire.pending
  (drain site wire (turns + site.limit) 0 : m Nat)

def layer (site : Site m ρ (Loopback ρ)) (wire : Wire m) : Layer m where
  name := return (← site.get).node.name
  recv _ := do throw (.unsupported (← site.get).node.name "recv")
  send := write site wire
  capacity := return (← site.get).maxPacket
  delivered _ := pure ()
  stats := return (← site.get).stats

end Loopback

end LinkStack.Channel
