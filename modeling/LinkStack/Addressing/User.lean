import LinkStack.Addressing.Binding
import LinkStack.Addressing.Header
import LinkStack.Tag

/-!
Raw application traffic under one of the user tags. The tag is put in front of
what is sent and taken off what is received, so the application sees payloads.
-/

namespace LinkStack.Addressing

structure UserLayer (ρ : Type) where
  node : Node ρ := { name := "user" }
  user : UInt8
  stats : Stats := {}
  deriving DecidableEq, Repr

namespace UserLayer

variable {ρ : Type}

/-- A layer for one of the user tags. -/
def new (user : UInt8) : Except Error (UserLayer ρ) :=
  if Tag.isUser user then .ok { user } else .error (.invalidUser user)

def init (u : UserLayer ρ) (child parent : Option ρ) : Except LayerError (UserLayer ρ) :=
  (u.node.init child parent).map fun node => { u with node }

def count (u : UserLayer ρ) (event : Traffic) : UserLayer ρ :=
  { u with stats := u.stats.count event }

variable {m : Type → Type} [Monad m]

def recv (site : Site m ρ (UserLayer ρ)) (packet : Bytes) : ExceptT LayerError m Nat := do
  site.ensureInitialized UserLayer.node
  let user := (← site.get).user
  match packet with
  | [] =>
    site.modify (·.count .rxError)
    return 0
  | tag :: payload =>
    if tag = user then
      match ← site.parent? UserLayer.node with
      | none =>
        site.modify (·.count .rxDropped)
        return 0
      | some parent =>
        site.modify (·.count (.rxPacket payload.length))
        parent.recv payload
    else
      site.modify (·.count .rxError)
      return 0

def send (site : Site m ρ (UserLayer ρ)) (payload : Bytes) : ExceptT LayerError m Nat := do
  let child ← site.child UserLayer.node
  sendBehind (fun event => site.modify (·.count event)) child.send
    [(← site.get).user] payload

def capacity (site : Site m ρ (UserLayer ρ)) : m Nat := do
  match ← (site.child UserLayer.node).run with
  | .ok child => return (← child.capacity) - 1
  | .error _ => return 0

def layer (site : Site m ρ (UserLayer ρ)) : Layer m where
  name := return (← site.get).node.name
  recv := recv site
  send := send site
  capacity := capacity site
  delivered _ := pure ()
  stats := return (← site.get).stats

end UserLayer

end LinkStack.Addressing
