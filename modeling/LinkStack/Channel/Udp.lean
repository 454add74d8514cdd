import LinkStack.Channel.Basic
import LinkStack.Channel.Clients

/-!
A datagram channel. Every datagram is one packet. Those who send to the channel
become its clients, and what is written goes to all clients; a datagram that
the network does not take counts as dropped.
-/

namespace LinkStack.Channel

/-- The settings. A learned client is forgotten after a silence of
`clientTimeout` milliseconds. -/
structure UdpConfig where
  bind : SocketAddress := .v4 ⟨0, 0, 0, 0⟩ 0
  maxClients : Nat := 32
  clientTimeout : Nat := 5000
  maxPacket : Nat := 1024
  broadcast : Bool := false
  deriving DecidableEq, Repr

/-- Refuses settings without room for a packet or a client. -/
def UdpConfig.validate (c : UdpConfig) : Except Error Unit :=
  if c.maxPacket = 0 ∨ c.maxClients = 0 then .error (.invalidConfig .emptyLimits) else .ok ()

structure Udp (ρ : Type) where
  node : Node ρ := { name := "udp" }
  config : UdpConfig
  clients : Clients SocketAddress
  stats : Stats := {}
  deriving DecidableEq, Repr

/-- The network as one socket sees it. -/
structure Socket (m : Type → Type) where
  /-- The time in milliseconds. -/
  time : m Nat
  /-- Sends a datagram, and tells whether the network took it. -/
  transmit : SocketAddress → Bytes → m Bool
  /-- Takes the oldest datagram that has arrived. -/
  receive : m (Option (SocketAddress × Bytes))
  /-- The number of datagrams that have arrived. -/
  pending : m Nat

namespace Udp

variable {ρ : Type}

/-- A channel on a socket that has been bound. -/
def new (config : UdpConfig) : Except Error (Udp ρ) :=
  config.validate.map fun _ =>
    { config, clients := { maxClients := config.maxClients, timeout := config.clientTimeout } }

def init (u : Udp ρ) (parent : Option ρ) : Except LayerError (Udp ρ) :=
  (u.node.init none parent).map fun node => { u with node }

def count (u : Udp ρ) (event : Traffic) : Udp ρ := { u with stats := u.stats.count event }

def expire (u : Udp ρ) (now : Nat) : Udp ρ := { u with clients := u.clients.expire now }

/-- Registers a peer that receives every write. -/
def addClient (u : Udp ρ) (now : Nat) (address : SocketAddress) : Except Error (Udp ρ) :=
  (u.clients.register now address).map fun clients => { u with clients }

variable {m : Type → Type} [Monad m]

/-- The number of clients, after forgetting the silent ones. -/
def activeClients (site : Site m ρ (Udp ρ)) (socket : Socket m) : m Nat := do
  let now ← socket.time
  site.modify (·.expire now)
  return (← site.get).clients.size

/-- Sends a datagram to one client, and tells whether any was taken so far. -/
def transmitTo (site : Site m ρ (Udp ρ)) (socket : Socket m) (bytes : Bytes) (sent : Bool)
    (address : SocketAddress) : m Bool := do
  if ← socket.transmit address bytes then return true
  else
    site.modify (·.count .txDropped)
    return sent

/-- Sends a packet to every client. -/
def write (site : Site m ρ (Udp ρ)) (socket : Socket m) (bytes : Bytes) :
    ExceptT LayerError m Nat := do
  let max := (← site.get).config.maxPacket
  if max < bytes.length then
    site.modify (·.count .txDropped)
    throw (.packetTooLarge bytes.length max)
  let now ← socket.time
  site.modify (·.expire now)
  let targets := (← site.get).clients.addresses
  if targets.isEmpty then
    site.modify (·.count .txDropped)
    return 0
  let sent ← (targets.foldlM (transmitTo site socket bytes) false : m Bool)
  if sent then
    site.modify (·.count (.txPacket bytes.length))
    return bytes.length
  else return 0

/-- Hears from the sender of a datagram and delivers it unless it is too long.
Answers the bytes that were delivered. -/
def accept (site : Site m ρ (Udp ρ)) (socket : Socket m) (sender : SocketAddress)
    (bytes : Bytes) : m Nat := do
  let now ← socket.time
  site.modify fun u => { u with clients := u.clients.touch now sender }
  if (← site.get).config.maxPacket < bytes.length then
    site.modify (·.count .rxError)
    return 0
  else
    deliver site Udp.node (fun event => site.modify (·.count event)) bytes
    return bytes.length

/-- Takes in the datagrams that have arrived, and adds their bytes to a
count. -/
def drain (site : Site m ρ (Udp ρ)) (socket : Socket m) : Nat → Nat → m Nat
  | 0, processed => return processed
  | turns + 1, processed => do
    match ← socket.receive with
    | none => return processed
    | some (sender, bytes) =>
      let size ← accept site socket sender bytes
      drain site socket turns (processed + size)

/-- Takes in every datagram that has arrived, then forgets the silent
clients. -/
def poll (site : Site m ρ (Udp ρ)) (socket : Socket m) : ExceptT LayerError m Nat := do
  site.ensureInitialized Udp.node
  let turns ← socket.pending
  let processed ← (drain site socket (turns + site.limit) 0 : m Nat)
  let now ← socket.time
  site.modify (·.expire now)
  return processed

def layer (site : Site m ρ (Udp ρ)) (socket : Socket m) : Layer m where
  name := return (← site.get).node.name
  recv _ := do throw (.unsupported (← site.get).node.name "recv")
  send := write site socket
  capacity := return (← site.get).config.maxPacket
  delivered _ := pure ()
  stats := return (← site.get).stats

end Udp

end LinkStack.Channel
