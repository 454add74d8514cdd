import LinkStack.Layer.Basic

/-!
Two children presented as one. What is sent goes to both, the first one first;
what arrives from either goes to the parent, and the side it came from is
remembered. Each child has a branch of the duplicator as its parent, which is
how the sides are told apart.
-/

namespace LinkStack.Splice

/-- The two sides of a duplicator. -/
inductive Side where
  | first
  | second
  deriving DecidableEq, Repr

structure Duplicator (ρ : Type) where
  node : Node ρ := { name := "dup" }
  children : Option (ρ × ρ) := none
  /-- The side of the last packet received. -/
  lastOrigin : Option Side := none
  /-- The packets on which the sides disagreed; stops at its ceiling. -/
  disagreements : UInt32 := 0
  stats : Stats := {}
  deriving DecidableEq, Repr

/-- One side of a duplicator, as the parent of the child on that side. -/
structure Branch (ρ : Type) where
  duplicator : ρ
  side : Side
  deriving DecidableEq, Repr

namespace Duplicator

variable {ρ : Type}

def init (d : Duplicator ρ) (first second : ρ) (parent : Option ρ) :
    Except LayerError (Duplicator ρ) :=
  (d.node.init none parent).map fun node => { d with node, children := some (first, second) }

def count (d : Duplicator ρ) (event : Traffic) : Duplicator ρ :=
  { d with stats := d.stats.count event }

/-- Counts a packet on which the sides disagreed. -/
def disagree (d : Duplicator ρ) : Duplicator ρ :=
  { d with disagreements := Stats.bump d.disagreements 1 }

/-- Both children. -/
def linked (d : Duplicator ρ) : Except LayerError (ρ × ρ) :=
  match d.children with
  | none => .error (.notInitialized d.node.name)
  | some children => .ok children

/-- What two sides that were sent the same packet come to: the more that was
taken, and the first refusal only if both refuse. -/
def combine : Except LayerError Nat → Except LayerError Nat → Except LayerError Nat
  | .ok a, .ok b => .ok (max a b)
  | .ok n, .error _ => .ok n
  | .error _, .ok n => .ok n
  | .error error, .error _ => .error error

variable {m : Type → Type} [Monad m]

/-- Gives a packet from one side to the parent. -/
def forwardUp (site : Site m ρ (Duplicator ρ)) (origin : Option Side) (packet : Bytes) :
    ExceptT LayerError m Nat := do
  site.modify fun d => { d with lastOrigin := origin }
  match ← site.parent? Duplicator.node with
  | none =>
    site.modify (·.count .rxDropped)
    return 0
  | some parent =>
    site.modify (·.count (.rxPacket packet.length))
    parent.recv packet

/-- Counts a refusal by one side. -/
def countRefusal (site : Site m ρ (Duplicator ρ)) : Except LayerError Nat → m Unit
  | .ok _ => pure ()
  | .error _ => site.modify (·.count .txDropped)

/-- Sends to both sides. -/
def sendBoth (site : Site m ρ (Duplicator ρ)) (packet : Bytes)
    (send : Layer m → ExceptT LayerError m Nat) : ExceptT LayerError m Nat := do
  let (first, second) ← ExceptT.mk (pure (← site.get).linked)
  let a ← attempt (send (site.layer first))
  let b ← attempt (send (site.layer second))
  (countRefusal site a : m Unit)
  (countRefusal site b : m Unit)
  if a.toOption ≠ b.toOption then site.modify disagree
  let result := combine a b
  if result.toOption.isSome then site.modify (·.count (.txPacket packet.length))
  ExceptT.mk (pure result)

/-- The larger capacity: a side that cannot keep up loses packets on its own. -/
def capacity (site : Site m ρ (Duplicator ρ)) : m Nat := do
  match (← site.get).linked with
  | .ok (first, second) =>
    let a ← (site.layer first).capacity
    let b ← (site.layer second).capacity
    return max a b
  | .error _ => return 0

def delivered (site : Site m ρ (Duplicator ρ)) (report : Delivery) : m Unit := do
  match ← (site.parent? Duplicator.node).run with
  | .ok (some parent) => parent.delivered report
  | _ => pure ()

def layer (site : Site m ρ (Duplicator ρ)) : Layer m where
  name := return (← site.get).node.name
  recv := forwardUp site none
  send packet := sendBoth site packet (·.send packet)
  sendConfirmed packet := sendBoth site packet (·.sendConfirmed packet)
  capacity := capacity site
  delivered := delivered site
  stats := return (← site.get).stats

end Duplicator

namespace Branch

variable {ρ : Type} {m : Type → Type} [Monad m]

def name : String := "dup-branch"

/-- A branch as a layer; `duplicator` is where the duplicator runs. -/
def layer (site : Site m ρ (Branch ρ)) (duplicator : ρ → Site m ρ (Duplicator ρ)) :
    Layer m where
  name := pure name
  recv packet := do
    let branch ← site.get
    if ← site.alive branch.duplicator then
      Duplicator.forwardUp (duplicator branch.duplicator) (some branch.side) packet
    else throw (.unlinked name .parent)
  send _ := throw (.unsupported name "send")
  capacity := pure 0
  delivered report := do
    let branch ← site.get
    if ← site.alive branch.duplicator then
      Duplicator.delivered (duplicator branch.duplicator) report
  stats := pure {}

end Branch

end LinkStack.Splice
