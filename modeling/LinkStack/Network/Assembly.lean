import LinkStack.Network.Calls

/-!
Building a network: new objects, and the links between them.

A new object has one holder, the caller. Framing layers and message layers run
timers and are registered with the clock when they are made. Links are given
once; a link to a layer below, or to the target of a redirect, holds it.
-/

namespace LinkStack

/-- The links to give to an object, which takes those it has. -/
structure Wiring where
  child : Option Ref := none
  parent : Option Ref := none
  /-- The layer for what a framing layer finds outside of frames. -/
  other : Option Ref := none
  /-- The two sides of a duplicator. -/
  first : Option Ref := none
  second : Option Ref := none
  /-- The target of a redirect. -/
  target : Option Ref := none
  deriving DecidableEq, Repr

/-- Gives an object its links. There is no answer if it has no links to give, or
if a side or a target that it needs is missing. -/
def Object.link (w : Wiring) : Object → Option (Except LayerError Object)
  | .node n => some ((n.init w.child w.parent).map .node)
  | .framer f => some ((f.init w.child w.other w.parent).map .framer)
  | .dispatch d => some ((d.init w.child).map .dispatch)
  | .transport t => some ((t.init w.child).map .transport)
  | .user u => some ((u.init w.child w.parent).map .user)
  | .duplicator d a b => do
    return (d.init (← w.first) (← w.second) w.parent).map (.duplicator · a b)
  | .redirect r => do return (r.init (← w.target)).map .redirect
  | .loopback l inbox outbox => some ((l.init w.parent).map (.loopback · inbox outbox))
  | .udp u address arrived => some ((u.init w.parent).map (.udp · address arrived))
  | .messenger g => some ((g.init w.child w.parent).map .messenger)
  | _ => none

namespace Network

variable {σ : Type}

/-- Gives the object in a slot its links. -/
def link (n : Network σ) (ref : Ref) (w : Wiring) : Option (Except LayerError (Network σ)) := do
  let object ← n.object? ref
  return (← object.link w).map (n.replace ref)

/-- Adds an object whose timer the clock runs. -/
def insertTimed (n : Network σ) (object : Object) : Ref × Network σ :=
  let (ref, n) := n.insert object
  (ref, { n with clock := n.clock.register ref })

def addFramer (n : Network σ) (config : Frame.Config) :
    Except Frame.Error (Ref × Network σ) :=
  (Frame.Framer.new config n.clock.now).map fun f => n.insertTimed (.framer f)

def addMessenger (n : Network σ) (table : Catalog.Table Key) (config : Exchange.Config) :
    Ref × Network σ :=
  n.insertTimed (.messenger (.new table config))

/-- Adds a timer of the application. -/
def addTimer (n : Network σ) (key : Key) : Ref × Network σ := n.insertTimed (.timer key)

def addUser (n : Network σ) (user : UInt8) : Except Addressing.Error (Ref × Network σ) :=
  (Addressing.UserLayer.new user).map fun u => n.insert (.user u)

/-- Adds a duplicator and its branches, which it holds. -/
def addDuplicator (n : Network σ) : Ref × Network σ :=
  let ref := n.slots.size + 2
  let (first, n) := n.insert (.branch { duplicator := ref, side := .first })
  let (second, n) := n.insert (.branch { duplicator := ref, side := .second })
  let (ref, n) := n.insert (.duplicator {} first second)
  (ref, (n.release first).release second)

/-- The branch of a duplicator on a side. -/
def branch? (n : Network σ) (ref : Ref) (side : Splice.Side) : Option Ref :=
  match n.object? ref with
  | some (.duplicator _ first second) =>
    match side with
    | .first => some first
    | .second => some second
  | _ => none

/-- Adds two redirects that splice two stacks: the first one sends into the
left stack and the second one into the right. -/
def addBridge (n : Network σ) (left right : Ref) : (Ref × Ref) × Network σ :=
  let (toLeft, n) := n.insert (.redirect { target := some left })
  let (toRight, n) := n.insert (.redirect { target := some right })
  ((toLeft, toRight), n)

/-- Adds the two ends of a link in memory. -/
def addLoopback (n : Network σ) (maxPacket : Nat) : (Ref × Ref) × Network σ :=
  let (a, n) := n.addMailbox
  let (b, n) := n.addMailbox
  let (left, n) := n.insert (.loopback { maxPacket } a b)
  let (right, n) := n.insert (.loopback { maxPacket } b a)
  ((left, right), n)

/-- Adds a datagram channel, bound as its settings say. -/
def addUdp (n : Network σ) (config : Channel.UdpConfig) :
    Except Channel.Error (Ref × Network σ) := do
  let udp ← Channel.Udp.new config
  match n.bindAddress config.bind with
  | none => throw (.bind config.bind.render)
  | some address => return n.insert (.udp udp address [])

end Network

end LinkStack
