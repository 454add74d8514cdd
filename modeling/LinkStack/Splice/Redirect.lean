import LinkStack.Layer.Basic

/-!
Forwarding between independent stacks. A redirect sends what it is given, from
either direction, into its target. Two of them bound crosswise, each the parent
of one stack and sending into the other, bridge the stacks.
-/

namespace LinkStack.Splice

structure Redirect (ρ : Type) where
  target : Option ρ := none
  /-- Whether a packet that does not fit is cut to what does. -/
  fragment : Bool := false
  stats : Stats := {}
  deriving DecidableEq, Repr

namespace Redirect

variable {ρ : Type}

def name : String := "redirect"

/-- Sets the target, once. -/
def init (r : Redirect ρ) (target : ρ) : Except LayerError (Redirect ρ) :=
  match r.target with
  | none => .ok { r with target := some target }
  | some _ => .error (.alreadyInitialized name)

def count (r : Redirect ρ) (event : Traffic) : Redirect ρ :=
  { r with stats := r.stats.count event }

/-- How much of a packet goes into the room there is: all of it, or what fits
if packets may be cut, or nothing. -/
def cut (r : Redirect ρ) (packet : Bytes) (room : Nat) : Option Bytes :=
  if packet.length ≤ room then some packet
  else if r.fragment ∧ 0 < room then some (packet.take room)
  else none

variable {m : Type → Type} [Monad m]

/-- Sends a packet into the target. What cannot be sent is dropped. -/
def forward (site : Site m ρ (Redirect ρ)) (packet : Bytes) : ExceptT LayerError m Nat := do
  match (← site.get).target with
  | none => throw (.notInitialized name)
  | some ref =>
    let target := site.layer ref
    site.modify (·.count (.rxPacket packet.length))
    let room ← target.capacity
    match (← site.get).cut packet room with
    | none =>
      site.modify (·.count .txDropped)
      site.modify (·.count .txRetry)
      return 0
    | some part =>
      match ← attempt (target.send part) with
      | .ok taken =>
        site.modify (·.count (.txPacket taken))
        return taken
      | .error _ =>
        site.modify (·.count .txDropped)
        return 0

def capacity (site : Site m ρ (Redirect ρ)) : m Nat := do
  match (← site.get).target with
  | none => return 0
  | some ref => (site.layer ref).capacity

def layer (site : Site m ρ (Redirect ρ)) : Layer m where
  name := pure name
  recv := forward site
  send := forward site
  capacity := capacity site
  delivered _ := pure ()
  stats := return (← site.get).stats

end Redirect

end LinkStack.Splice
