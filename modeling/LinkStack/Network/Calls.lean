import LinkStack.Network.Datagram

/-!
How the objects of a network call each other.

Every call finds its object at the time it is made, and the object is held
while the call runs. What the application does in a call, in a layer, a
receiver, a handler or a timer of its own, may make calls again; so the calls
are built level by level, each level able to make the calls of the one below,
and a chain of calls that is longer than there are levels has no answer.
-/

namespace LinkStack

/-- A change of a network with an answer. There is none if a chain of calls is
too long, or if an object is used as what it is not. -/
abbrev Act (σ : Type) := StateT (Network σ) Option

/-- What can be called. -/
structure Calls (σ : Type) where
  layer : Ref → Layer (Act σ)
  /-- A handler of messages. -/
  handle : Key → Option Bytes → Act σ (Option Bytes)
  /-- A timer of the application. -/
  tick : Key → Tick → Act σ Unit

/-- The application: what the objects of its own do, given what they can
call. -/
structure App (σ : Type) where
  layer : Calls σ → Key → Layer (Act σ)
  /-- What a receiver does with a packet. -/
  receive : Calls σ → Key → Bytes → Act σ Nat
  handle : Calls σ → Key → Option Bytes → Act σ (Option Bytes)
  tick : Calls σ → Key → Tick → Act σ Unit

/-- A layer that is found anew for every call. -/
def Layer.found {m : Type → Type} [Monad m] (find : m (Layer m)) : Layer m where
  name := do (← find).name
  recv packet := do (← find).recv packet
  send packet := do (← find).send packet
  sendConfirmed packet := do (← find).sendConfirmed packet
  capacity := do (← find).capacity
  delivered report := do (← find).delivered report
  stats := do (← find).stats

/-- A layer whose calls run inside of another action. -/
def Layer.within {m : Type → Type} (around : {α : Type} → m α → m α) (layer : Layer m) :
    Layer m where
  name := around layer.name
  recv packet := ExceptT.mk (around (layer.recv packet).run)
  send packet := ExceptT.mk (around (layer.send packet).run)
  sendConfirmed packet := ExceptT.mk (around (layer.sendConfirmed packet).run)
  capacity := around layer.capacity
  delivered report := around (layer.delivered report)
  stats := around layer.stats

/-- How the state of one kind of layer is read from an object and put back. -/
structure View (S : Type) where
  get? : Object → Option S
  set : S → Object → Object

namespace View

def node : View (Node Ref) where
  get?
    | .node n => some n
    | _ => none
  set n _ := .node n

def framer : View (Frame.Framer Ref) where
  get?
    | .framer f => some f
    | _ => none
  set f _ := .framer f

def dispatch : View (Addressing.Dispatch Ref) where
  get?
    | .dispatch d => some d
    | _ => none
  set d _ := .dispatch d

def transport : View (Addressing.Transport Ref) where
  get?
    | .transport t => some t
    | _ => none
  set t _ := .transport t

def user : View (Addressing.UserLayer Ref) where
  get?
    | .user u => some u
    | _ => none
  set u _ := .user u

def duplicator : View (Splice.Duplicator Ref) where
  get?
    | .duplicator d _ _ => some d
    | _ => none
  set d
    | .duplicator _ first second => .duplicator d first second
    | object => object

def branch : View (Splice.Branch Ref) where
  get?
    | .branch b => some b
    | _ => none
  set b _ := .branch b

def redirect : View (Splice.Redirect Ref) where
  get?
    | .redirect r => some r
    | _ => none
  set r _ := .redirect r

def loopback : View (Channel.Loopback Ref) where
  get?
    | .loopback l _ _ => some l
    | _ => none
  set l
    | .loopback _ inbox outbox => .loopback l inbox outbox
    | object => object

def udp : View (Channel.Udp Ref) where
  get?
    | .udp u _ _ => some u
    | _ => none
  set u
    | .udp _ address arrived => .udp u address arrived
    | object => object

def messenger : View (Exchange.Messenger Ref Key) where
  get?
    | .messenger g => some g
    | _ => none
  set g _ := .messenger g

def receiver : View Receiver where
  get?
    | .receiver r _ => some r
    | _ => none
  set r
    | .receiver _ key => .receiver r key
    | object => object

end View

namespace Network

variable {σ : Type}

/-- The state that an object has in a view. -/
def read? {S : Type} (n : Network σ) (view : View S) (ref : Ref) : Option S :=
  (n.object? ref).bind view.get?

/-- Changes the state that an object has in a view. -/
def update {S : Type} (n : Network σ) (view : View S) (ref : Ref) (change : S → S) : Network σ :=
  match n.object? ref with
  | none => n
  | some object =>
    match view.get? object with
    | none => n
    | some state => n.setObject ref (view.set (change state) object)

/-- Runs an action with an object held. -/
def holding {α : Type} (ref : Ref) (act : Act σ α) : Act σ α := do
  modify (·.retain ref)
  let answer ← act
  modify (·.release ref)
  return answer

/-- The bound of the loops whose length the neighbours of a layer decide. -/
def turnLimit : Nat := 1000000

/-- Where an object runs. -/
def site {S : Type} (calls : Calls σ) (view : View S) (ref : Ref) : Site (Act σ) Ref S where
  get := do
    match (← get).read? view ref with
    | some state => return state
    | none => failure
  modify change := modify (·.update view ref change)
  layer := calls.layer
  alive other := return (← get).isAlive other
  now := return (← get).clock.now
  limit := turnLimit

/-- Changes an inbox. -/
def updateMailbox (n : Network σ) (mailbox : Mailbox) (change : List Bytes → List Bytes) :
    Network σ :=
  { n with mailboxes := n.mailboxes.modify mailbox change }

/-- The writes in an inbox. -/
def mailbox (n : Network σ) (mailbox : Mailbox) : List Bytes := n.mailboxes[mailbox]?.getD []

/-- The inboxes of a link as one of its ends sees them. -/
def wire (inbox outbox : Mailbox) : Channel.Wire (Act σ) where
  push bytes := modify (·.updateMailbox outbox (· ++ [bytes]))
  pop := do
    match (← get).mailbox inbox with
    | [] => return none
    | bytes :: _ =>
      modify (·.updateMailbox inbox List.tail)
      return some bytes
  pending := return ((← get).mailbox inbox).length

/-- The network as a datagram channel sees it. -/
def socket (ref : Ref) : Channel.Socket (Act σ) where
  time := return (← get).time
  transmit destination bytes := do
    match (← get).object? ref with
    | some (.udp _ own _) =>
      let (taken, n) := (← get).transmit own destination bytes
      set n
      return taken
    | _ => return false
  receive := do
    match (← get).object? ref with
    | some (.udp u own (datagram :: rest)) =>
      modify (·.setObject ref (.udp u own rest))
      return some datagram
    | _ => return none
  pending := do
    match (← get).object? ref with
    | some (.udp _ _ arrived) => return arrived.length
    | _ => return 0

/-- What an object does as a layer. -/
def layerOf (app : App σ) (calls : Calls σ) (ref : Ref) : Object → Option (Layer (Act σ))
  | .framer _ => some (Frame.Framer.layer (site calls .framer ref))
  | .dispatch _ => some (Addressing.Dispatch.layer (site calls .dispatch ref))
  | .transport _ => some (Addressing.Transport.layer (site calls .transport ref))
  | .port transport port =>
    some (Addressing.Transport.portLayer (site calls .transport transport) port)
  | .user _ => some (Addressing.UserLayer.layer (site calls .user ref))
  | .duplicator _ _ _ => some (Splice.Duplicator.layer (site calls .duplicator ref))
  | .branch b =>
    some ((Splice.Branch.layer (site calls .branch ref) (site calls .duplicator)).within
      (holding b.duplicator))
  | .redirect _ => some (Splice.Redirect.layer (site calls .redirect ref))
  | .loopback _ inbox outbox =>
    some (Channel.Loopback.layer (site calls .loopback ref) (wire inbox outbox))
  | .udp _ _ _ => some (Channel.Udp.layer (site calls .udp ref) (socket ref))
  | .messenger _ => some (Exchange.Messenger.layer (site calls .messenger ref))
  | .receiver _ key => some (Receiver.layer (site calls .receiver ref) (app.receive calls key))
  | .custom key => some (app.layer calls key)
  | .node _ => none
  | .timer _ => none

/-- Finds the layer that an object is now. -/
def findLayer (app : App σ) (calls : Calls σ) (ref : Ref) : Act σ (Layer (Act σ)) := do
  match ((← get).object? ref).bind (layerOf app calls ref) with
  | some layer => return layer
  | none => failure

/-- The calls of a level, given those of the one below. -/
def callsAbove (app : App σ) (below : Calls σ) : Calls σ where
  layer ref := (Layer.found (findLayer app below ref)).within (holding ref)
  handle := app.handle below
  tick := app.tick below

/-- No calls. -/
def noCalls : Calls σ where
  layer _ := Layer.found failure
  handle _ _ := failure
  tick _ _ := failure

/-- The calls through a number of levels. -/
def calls (app : App σ) : Nat → Calls σ
  | 0 => noCalls
  | levels + 1 => callsAbove app (calls app levels)

end Network

end LinkStack
