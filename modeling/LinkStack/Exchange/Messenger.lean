import LinkStack.Catalog.Table
import LinkStack.Exchange.Outbound
import LinkStack.Layer.Basic
import LinkStack.Tag

/-!
The message layer: it sends the messages of a catalog by priority, and asks the
peer for theirs.

A packet is `Tag.message`, a number and the rest. With the top bit of the
number set the rest is the text of a descriptor, otherwise it is arguments, and
if there are none the packet asks for them. The number 127 asks for the whole
catalog, and numbers past the end stand for the terminator, which tells the
peer how many messages there are.

A message that was asked for, or that was sent in order to be echoed, is locked
until the reply is there: it takes no ordinary priority meanwhile. The request
is repeated when its time is up and given up after a number of retries. The
arguments of one received packet at a time are held until the handler of their
message takes them.

`schedule` sends what is queued, the most urgent first, until the queue is
empty or the child has no room. Handlers run inside of it and may call any
operation of the layer, so the state is read anew after each of them; while a
handler runs, its own message cannot be queued.
-/

namespace LinkStack.Exchange

open LinkStack.Catalog (Table Error)

/-- The settings: how long to wait for a reply, how often to ask again, and
whether the link is to confirm requests, so that a lost one is given up early. -/
structure Config where
  verbose : Bool := false
  queryTimeout : Tick := 1000
  queryRetries : UInt8 := 3
  confirmQueries : Bool := false
  deriving DecidableEq, Repr

/-- What a locked message waits for: arguments it asked for, or the echo of
arguments it sent. -/
inductive LockKind where
  | query
  | update
  deriving DecidableEq, Repr

/-- The priority at which a locked message tries again. -/
def LockKind.retryPriority : LockKind → Priority
  | .query => .queryArgs
  | .update => .updateArgs

structure Lock where
  kind : LockKind
  since : Tick
  retries : UInt8
  deriving DecidableEq, Repr

/-- Received arguments that wait for the handler of their message. -/
structure Held where
  number : Nat
  data : Bytes
  deriving DecidableEq, Repr

/-- The number that asks for the whole catalog. -/
def wholeCatalog : Nat := 127

/-- The bit of a number that marks a descriptor. -/
def descriptorFlag : Nat := 128

/-- The bytes in front of arguments. -/
def header : Nat := 2

/-- A packet of the message layer. -/
def packet (flags : Nat) (data : Bytes) : Bytes := Tag.message :: UInt8.ofNat flags :: data

structure Messenger (ρ η : Type) where
  node : Node ρ := { name := "msg" }
  table : Table η
  config : Config
  queue : Outbound
  locks : List (Option Lock)
  inbox : Option Held := none
  /-- The message whose handler runs. -/
  running : Option Nat := none
  /-- The priority of the handler that ran last. -/
  handlerPriority : Priority := .clear
  stats : Stats := {}
  deriving DecidableEq, Repr

/-- What became of an attempt to send. -/
inductive Step where
  | sent
  | quiet
  /-- The child has no room now. -/
  | stalled
  deriving DecidableEq, Repr

namespace Messenger

variable {ρ η : Type}

/-- A new layer, with every message queued at the priority the catalog gives
it. -/
def new (table : Table η) (config : Config) : Messenger ρ η :=
  let queue := table.messages.zipIdx.foldl
    (fun queue (message, number) => queue.push number message.priority) (Outbound.new table.size)
  { table, config, queue, locks := List.replicate table.size none }

def init (g : Messenger ρ η) (child parent : Option ρ) : Except LayerError (Messenger ρ η) :=
  (g.node.init child parent).map fun node => { g with node }

def count (g : Messenger ρ η) (event : Traffic) : Messenger ρ η :=
  { g with stats := g.stats.count event }

/-- The lock of a message. -/
def lock? (g : Messenger ρ η) (number : Nat) : Option Lock := (g.locks[number]?).join

def isLocked (g : Messenger ρ η) (number : Nat) : Bool := (g.lock? number).isSome

/-- The numbers of the messages that wait for a reply. -/
def lockedNumbers (g : Messenger ρ η) : List Nat :=
  (List.range g.locks.length).filter g.isLocked

/-- How many messages wait for a reply. -/
def pending (g : Messenger ρ η) : Nat := (g.locks.filter Option.isSome).length

/-- How many messages are queued. -/
def queued (g : Messenger ρ η) : Nat := g.queue.size

/-- Whether the handler that runs was called because the peer asked. -/
def isQuery (g : Messenger ρ η) : Bool := g.handlerPriority = .highest

/-- Whether the handler that runs was called with the reply to a query. -/
def isReply (g : Messenger ρ η) : Bool :=
  g.handlerPriority = .queryWait || g.handlerPriority = .queryArgs

/-- Whether received arguments of a message are held. -/
def holds (g : Messenger ρ η) (number : Nat) : Bool :=
  match g.inbox with
  | none => false
  | some held => held.number = number

def push (g : Messenger ρ η) (number : Nat) (priority : Priority) : Messenger ρ η :=
  { g with queue := g.queue.push number priority }

def unlock (g : Messenger ρ η) (number : Nat) : Messenger ρ η :=
  { g with locks := g.locks.set number none }

/-- Drops received arguments of a message. -/
def discard (g : Messenger ρ η) (number : Nat) : Messenger ρ η :=
  if g.holds number then { g with inbox := none } else g

/-- Locks a message, and keeps the count of its retries if it is locked in the
same way already. -/
def arm (g : Messenger ρ η) (now : Tick) (number : Nat) (kind : LockKind) : Messenger ρ η :=
  let retries :=
    match g.lock? number with
    | some lock => if lock.kind = kind then lock.retries else 0
    | none => 0
  { g with locks := g.locks.set number (some { kind, since := now, retries }) }

/-- Queues a message. `Priority.clear` takes it out of the queue and releases
it instead. A message whose handler runs stays as it is, and so does a locked
one unless the priority passes the lock. -/
def post (g : Messenger ρ η) (number : Nat) (priority : Priority) :
    Except Error (Messenger ρ η) :=
  if g.table.size ≤ number then .error (.unknownMessage number)
  else if Priority.max < priority then .error (.invalidPriority priority)
  else if g.running = some number then .ok g
  else if priority = .clear then
    .ok (({ g with queue := g.queue.remove number } : Messenger ρ η).unlock number |>.discard number)
  else if g.isLocked number ∧ ¬ Priority.passesLock priority then .ok g
  else .ok (g.push number priority)

/-- Queues the first message with a given handler, and answers its number. -/
def postBy [DecidableEq η] (g : Messenger ρ η) (handler : η) (priority : Priority) :
    Except Error (Option Nat × Messenger ρ η) :=
  match g.table.findHandler handler with
  | none => .ok (none, g)
  | some number => (g.post number priority).map fun g => (some number, g)

/-- Queues every unanswered request again now, and answers how many. -/
def resend (g : Messenger ρ η) (now : Tick) : Nat × Messenger ρ η :=
  let locked := g.lockedNumbers
  let again (g : Messenger ρ η) (number : Nat) : Messenger ρ η :=
    match g.lock? number with
    | none => g
    | some lock =>
      let locks := g.locks.set number (some { lock with since := now })
      (({ g with locks } : Messenger ρ η).push number lock.kind.retryPriority).count .txRetry
  (locked.length, locked.foldl again g)

/-- Tries a locked message again, or gives it up, if its time is up. A message
whose reply is held only waits for its turn. -/
def expireLock (now : Tick) (g : Messenger ρ η) (number : Nat) : Messenger ρ η :=
  match g.lock? number with
  | none => g
  | some lock =>
    if g.holds number ∨ now.since lock.since < g.config.queryTimeout then g
    else if lock.retries < g.config.queryRetries then
      let again := { lock with retries := lock.retries + 1, since := now }
      (({ g with locks := g.locks.set number (some again) } : Messenger ρ η).push number
        lock.kind.retryPriority).count .txRetry
    else (g.unlock number).count .txDropped

/-- Does so for every message. -/
def expire (g : Messenger ρ η) (now : Tick) : Messenger ρ η :=
  (List.range g.locks.length).foldl (expireLock now) g

/-- Queues the other messages of the catalog, save the first. -/
def fill (g : Messenger ρ η) (priority : Priority) : Messenger ρ η :=
  (List.range (g.table.terminator - 1)).foldl (fun g i => g.push (i + 1) priority) g

/-- Takes in received arguments; none are always taken. -/
def accept (g : Messenger ρ η) (number : Nat) (data : Bytes) : Except Traffic (Messenger ρ η) :=
  if data = [] then .ok g
  else if data.length ≠ ((g.table.get? number).map (·.size)).getD 0 then .error .rxError
  else if g.inbox.isSome ∧ ¬ g.holds number then .error .rxDropped
  else .ok { g with inbox := some { number, data } }

/-- Queues a message in answer to a packet. A request for a locked message is
ignored, and arguments of a locked message are its reply. -/
def answer (g : Messenger ρ η) (number : Nat) (describe hasData : Bool) : Messenger ρ η :=
  if describe then g.push number .description
  else if g.isLocked number then if hasData then g.push number .queryWait else g
  else g.push number .highest

/-- Acts on a received packet, and tells whether it was taken. -/
def onPacket (g : Messenger ρ η) (flags : UInt8) (data : Bytes) : Bool × Messenger ρ η :=
  let describe := descriptorFlag ≤ flags.toNat
  let number := flags.toNat % descriptorFlag
  let last := g.table.terminator
  let g :=
    if number = wholeCatalog then g.fill (if describe then .descriptionLow else .low) else g
  let (number, data) := if last < number then (last, []) else (number, data)
  match g.accept number data with
  | .error event => (false, g.count event)
  | .ok g => (true, g.answer number describe (data ≠ []))

variable {m : Type → Type} [Monad m]

/-- Sends a packet to the child if there is room for it. -/
def emit (site : Site m ρ (Messenger ρ η)) (child : Layer m) (flags : Nat) (data : Bytes)
    (confirmed : Bool) : m Step := do
  let packet := packet flags data
  let room ← child.capacity
  if room = 0 then return .stalled
  if room < packet.length then
    site.modify (·.count .txDropped)
    return .quiet
  match ← ((if confirmed then child.sendConfirmed else child.send) packet).run with
  | .ok taken =>
    if packet.length ≤ taken then
      site.modify (·.count (.txPacket packet.length))
      return .sent
    else return .stalled
  | .error (.busy _) => return .stalled
  | .error _ =>
    site.modify (·.count .txDropped)
    return .quiet

/-- Runs the handler of a message with the arguments that are held for it. A
message without a handler takes them and has arguments of zeros. -/
def invoke (site : Site m ρ (Messenger ρ η)) (call : η → Option Bytes → m (Option Bytes))
    (number : Nat) (priority : Priority) : m (Option Bytes) := do
  let g ← site.get
  match g.table.get? number with
  | none => return none
  | some message =>
    let input := if g.holds number then g.inbox.map (·.data) else none
    site.modify (·.discard number)
    match message.handler with
    | none => return some (List.replicate message.size 0)
    | some handler =>
      site.modify fun g => { g with running := some number, handlerPriority := priority }
      let output ← call handler input
      site.modify fun g => { g with running := none }
      return output

/-- Sends the descriptor of a message and queues its arguments after it. -/
def sendDescriptor (site : Site m ρ (Messenger ρ η)) (child : Layer m) (number : Nat)
    (text : Bytes) : m Step := do
  let step ← emit site child (number + descriptorFlag) text false
  if step ≠ .stalled then
    site.modify fun g =>
      let g := g.unlock number
      g.push number (if g.holds number then .highest else .low)
  return step

/-- Asks the peer for the arguments of a message, unless they are there. -/
def sendQuery (site : Site m ρ (Messenger ρ η)) (child : Layer m) (number : Nat) : m Step := do
  let g ← site.get
  if g.holds number then
    site.modify (·.push number (if g.isLocked number then .queryWait else .highest))
    return .quiet
  let step ← emit site child number [] g.config.confirmQueries
  if step = .sent then
    let now ← site.now
    site.modify (·.arm now number .query)
  return step

/-- Runs the handler of a message and sends the arguments it answers, which
must have the declared size. -/
def sendArgs (site : Site m ρ (Messenger ρ η)) (call : η → Option Bytes → m (Option Bytes))
    (child : Layer m) (number : Nat) (priority : Priority) (size : Nat) : m Step := do
  if priority = .unlockArgs then site.modify (·.unlock number)
  if (← child.capacity) < header + size then
    site.modify fun g => (g.count .txDropped).discard number
    return .quiet
  match ← invoke site call number priority with
  | none => return .quiet
  | some args =>
    if args.length ≠ size then
      site.modify (·.count .txDropped)
      return .quiet
    let step ← emit site child number args false
    if priority = .updateArgs ∧ step = .sent then
      let now ← site.now
      site.modify (·.arm now number .update)
    return step

/-- Does what a queued message asks for at its priority. -/
def perform (site : Site m ρ (Messenger ρ η)) (call : η → Option Bytes → m (Option Bytes))
    (child : Layer m) (entry : Entry) : m Step := do
  match (← site.get).table.get? entry.number with
  | none => return .quiet
  | some message =>
    if Priority.descriptionLow ≤ entry.priority then
      sendDescriptor site child entry.number message.descriptor.toUTF8
    else if entry.priority = .queryArgs then sendQuery site child entry.number
    else if entry.priority = .queryWait then
      site.modify (·.unlock entry.number)
      let _ ← invoke site call entry.number entry.priority
      return .quiet
    else sendArgs site call child entry.number entry.priority message.size

/-- Sends queued messages until the queue is empty, the child has no room, or
the turns are used up, and adds the packets sent to a count. -/
def sendQueued (site : Site m ρ (Messenger ρ η)) (call : η → Option Bytes → m (Option Bytes))
    (child : Layer m) : Nat → Nat → m Nat
  | 0, sent => return sent
  | turns + 1, sent => do
    if (← child.capacity) = 0 then return sent
    match (← site.get).queue.pop with
    | none => return sent
    | some (entry, queue) =>
      site.modify fun g => { g with queue }
      match ← perform site call child entry with
      | .sent => sendQueued site call child turns (sent + 1)
      | .quiet => sendQueued site call child turns sent
      | .stalled =>
        site.modify (·.push entry.number entry.priority)
        return sent

/-- Sends what is queued, and answers the number of packets sent. A message that
is put back by its own turn is put back at a lower priority, so that without
handlers `Priority.max + 1` turns a message are enough; the handlers are given
`site.limit` more. -/
def schedule (site : Site m ρ (Messenger ρ η)) (call : η → Option Bytes → m (Option Bytes)) :
    ExceptT LayerError m Nat := do
  let child ← site.child Messenger.node
  let now ← site.now
  site.modify (·.expire now)
  let turns := (Priority.max + 1) * (← site.get).table.size + site.limit
  (sendQueued site call child turns 0 : m Nat)

/-- Runs the timers of the locks. -/
def service (site : Site m ρ (Messenger ρ η)) : m Unit := do
  let now ← site.now
  site.modify (·.expire now)

/-- Receives a packet and shows it to the parent, if there is one. -/
def recv (site : Site m ρ (Messenger ρ η)) (packet : Bytes) : ExceptT LayerError m Nat := do
  site.ensureInitialized Messenger.node
  match packet with
  | tag :: flags :: data =>
    if tag = Tag.message then
      let (taken, g) := (← site.get).onPacket flags data
      site.modify fun _ => if taken then g.count (.rxPacket packet.length) else g
      match ← site.parent? Messenger.node with
      | some parent => let _ ← parent.recv packet
      | none => pure ()
      return packet.length
    else
      site.modify (·.count .rxError)
      return 0
  | _ =>
    site.modify (·.count .rxError)
    return 0

/-- Sends a packet from above as it is. -/
def send (site : Site m ρ (Messenger ρ η)) (packet : Bytes) : ExceptT LayerError m Nat := do
  if packet.head? = some Tag.message then
    (← site.child Messenger.node).send packet
  else
    site.modify (·.count .txDropped)
    throw (.unbound (packet.headD 0))

def capacity (site : Site m ρ (Messenger ρ η)) : m Nat := do
  match ← (site.child Messenger.node).run with
  | .ok child => child.capacity
  | .error _ => return 0

/-- Gives up a request that the link could not deliver. -/
def onDelivered (g : Messenger ρ η) (report : Delivery) : Messenger ρ η :=
  match report.packet with
  | [tag, number] =>
    if tag = Tag.message ∧ report.status = .dropped ∧ g.isLocked number.toNat then
      (g.unlock number.toNat).count .txDropped
    else g
  | _ => g

def layer (site : Site m ρ (Messenger ρ η)) : Layer m where
  name := return (← site.get).node.name
  recv := recv site
  send := send site
  capacity := capacity site
  delivered report := site.modify (·.onDelivered report)
  stats := return (← site.get).stats

end Messenger

end LinkStack.Exchange
