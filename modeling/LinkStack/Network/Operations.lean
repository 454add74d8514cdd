import LinkStack.Network.Assembly

/-!
What an application does with a network beside calling its layers: it moves the
clock, polls the channels, and uses what a layer offers to the application
alone. The object that is addressed is held until the operation ends.
-/

namespace LinkStack.Network

variable {σ : Type}

/-- The name of the layer behind a handler, if it is still there. -/
def handlerName? (calls : Calls σ) (handler : Addressing.Handler Ref) :
    Act σ (Option String) := do
  if (← get).isAlive handler.target then some <$> (calls.layer handler.target).name
  else return none

/-- Lets the timer of an object run. -/
def serve (calls : Calls σ) (now : Tick) (ref : Ref) : Act σ Unit := do
  match (← get).object? ref with
  | some (.framer _) => Frame.Framer.service (site calls .framer ref)
  | some (.messenger _) => Exchange.Messenger.service (site calls .messenger ref)
  | some (.timer key) => calls.tick key now
  | _ => pure ()

/-- Lets the timers run, in the order in which they were registered. All of
them are held at the start, and each until it has run. -/
def notify (calls : Calls σ) : Act σ Unit := do
  modify fun n => { n with clock := n.clock.prune n.isAlive }
  let clock := (← get).clock
  clock.timers.forM fun ref => modify (·.retain ref)
  clock.timers.forM fun ref => do
    serve calls clock.now ref
    modify (·.release ref)

/-- Moves the clock and lets the timers run. Answers the new reading. -/
def advance (calls : Calls σ) (ticks : Tick) : Act σ Tick := do
  let now := ((← get).clock.advance ticks).now
  modify fun n => { n with clock := n.clock.advance ticks }
  notify calls
  return now

/-- Sets a monotonic clock to its age in nanoseconds and lets the timers run.
Answers the new reading. -/
def refresh (calls : Calls σ) (age : Nat) : Act σ Tick := do
  modify fun n => { n with clock := n.clock.refresh age }
  let now := (← get).clock.now
  notify calls
  return now

/-- Delivers what waits at a channel. -/
def poll (calls : Calls σ) (ref : Ref) : ExceptT LayerError (Act σ) Nat :=
  ExceptT.mk (holding ref do
    match (← get).object? ref with
    | some (.loopback _ inbox outbox) =>
      (Channel.Loopback.poll (site calls .loopback ref) (wire inbox outbox)).run
    | some (.udp _ _ _) => (Channel.Udp.poll (site calls .udp ref) (socket ref)).run
    | _ => failure)

/-- Puts a write into the inbox of one end of a link, as if it came from the
other end. -/
def inject (n : Network σ) (ref : Ref) (bytes : Bytes) : Network σ :=
  match n.object? ref with
  | some (.loopback _ inbox _) => n.updateMailbox inbox (· ++ [bytes])
  | _ => n

/-- The number of writes that wait at one end of a link. -/
def pending (n : Network σ) (ref : Ref) : Nat :=
  match n.object? ref with
  | some (.loopback _ inbox _) => (n.mailbox inbox).length
  | _ => 0

/-- Registers a client of a datagram channel. -/
def addClient (n : Network σ) (ref : Ref) (address : Channel.SocketAddress) :
    Option (Except Channel.Error (Network σ)) := do
  let udp ← n.read? .udp ref
  return (udp.addClient n.time address).map fun udp => n.update .udp ref fun _ => udp

/-- The number of clients of a datagram channel. -/
def activeClients (calls : Calls σ) (ref : Ref) : Act σ Nat :=
  Channel.Udp.activeClients (site calls .udp ref) (socket ref)

/-- Runs the timers of a framing layer. -/
def service (calls : Calls σ) (ref : Ref) : Act σ Unit :=
  holding ref (Frame.Framer.service (site calls .framer ref))

/-- Sends a payload to one port. -/
def sendTo (calls : Calls σ) (ref : Ref) (port : UInt8) (payload : Bytes) :
    ExceptT LayerError (Act σ) Nat :=
  ExceptT.mk (holding ref (Addressing.Transport.sendTo (site calls .transport ref) port payload).run)

/-- Sends a payload to several ports at once. -/
def sendList (calls : Calls σ) (ref : Ref) (ports payload : Bytes) :
    ExceptT LayerError (Act σ) Nat :=
  ExceptT.mk
    (holding ref (Addressing.Transport.sendList (site calls .transport ref) ports payload).run)

/-- Queues a message of a message layer. -/
def post (n : Network σ) (ref : Ref) (number : Nat) (priority : Exchange.Priority) :
    Option (Except Catalog.Error (Network σ)) := do
  let messenger ← n.read? .messenger ref
  return (messenger.post number priority).map fun g => n.update .messenger ref fun _ => g

/-- Queues the first message of a message layer with a given handler, and
answers its number. -/
def postBy (n : Network σ) (ref : Ref) (handler : Key) (priority : Exchange.Priority) :
    Option (Except Catalog.Error (Option Nat × Network σ)) := do
  let messenger ← n.read? .messenger ref
  return (messenger.postBy handler priority).map fun (number, g) =>
    (number, n.update .messenger ref fun _ => g)

/-- Queues every unanswered request of a message layer again, and answers how
many. -/
def resend (n : Network σ) (ref : Ref) : Option (Nat × Network σ) := do
  let messenger ← n.read? .messenger ref
  let (count, g) := messenger.resend n.clock.now
  return (count, n.update .messenger ref fun _ => g)

/-- Sends what is queued in a message layer, and answers the number of
packets. -/
def schedule (calls : Calls σ) (ref : Ref) : ExceptT LayerError (Act σ) Nat :=
  ExceptT.mk
    (holding ref (Exchange.Messenger.schedule (site calls .messenger ref) calls.handle).run)

end LinkStack.Network
