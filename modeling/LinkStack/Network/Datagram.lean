import LinkStack.Network.Basic

/-!
Where datagrams go.

A datagram channel is bound to an address of its host, and no two of them to
the same one. A datagram for the host is appended to what has arrived at the
channel that is bound to its destination; if there is none, it is taken all the
same and lost. Without a network nothing arrives: the only destination that is
then taken at all is the unspecified one, and any IPv4 address can be bound.
-/

namespace LinkStack

namespace Channel

def IPv4.isUnspecified (host : IPv4) : Bool := host = ⟨0, 0, 0, 0⟩

def IPv4.isLoopback (host : IPv4) : Bool := host.a = 127

def IPv6.isUnspecified (host : IPv6) : Bool := host.groups = [0, 0, 0, 0, 0, 0, 0, 0]

def IPv6.isLoopback (host : IPv6) : Bool := host.groups = [0, 0, 0, 0, 0, 0, 0, 1]

namespace SocketAddress

def port : SocketAddress → UInt16
  | .v4 _ port => port
  | .v6 _ _ port => port

def withPort : SocketAddress → UInt16 → SocketAddress
  | .v4 host _, port => .v4 host port
  | .v6 host scope _, port => .v6 host scope port

def isV4 : SocketAddress → Bool
  | .v4 _ _ => true
  | .v6 _ _ _ => false

/-- Whether an address stands for every address of its host. -/
def isUnspecified : SocketAddress → Bool
  | .v4 host _ => host.isUnspecified
  | .v6 host _ _ => host.isUnspecified

/-- Whether the host can take an address as its own. -/
def isLocal (online : Bool) : SocketAddress → Bool
  | .v4 host _ => !online || host.isUnspecified || host.isLoopback
  | .v6 host _ _ =>
    match host.mapped? with
    | some host => !online || host.isUnspecified || host.isLoopback
    | none => host.isUnspecified || (online && host.isLoopback)

/-- Whether two addresses cannot both be bound: they have the same port and the
same host, or the host of one is unspecified and covers the other. -/
def clashes (a b : SocketAddress) : Bool :=
  a.port = b.port && (a = b ||
    (a.isUnspecified && (!a.isV4 || b.isV4)) || (b.isUnspecified && (!b.isV4 || a.isV4)))

/-- Whether a datagram for an address comes to a channel bound to another. -/
def reaches (destination bound : SocketAddress) : Bool :=
  destination = bound || (bound.isUnspecified && destination.port = bound.port)

end SocketAddress

end Channel

open Channel (SocketAddress)

/-- The address that an object is bound to. -/
def Object.address? : Object → Option SocketAddress
  | .udp _ address _ => some address
  | _ => none

/-- The address that the object in a slot is bound to. -/
def boundTo (slot : Option Slot) : Option SocketAddress := slot.bind (·.object.address?)

namespace Network

variable {σ : Type}

/-- The addresses of all datagram channels. -/
def boundAddresses (n : Network σ) : List SocketAddress := n.slots.toList.filterMap boundTo

/-- The first port from which channels without a port of their own are given
one. -/
def firstFreePort : Nat := 49152

/-- The address that a channel is bound to: a port of zero stands for any free
one. -/
def bindAddress (n : Network σ) (wanted : SocketAddress) : Option SocketAddress :=
  let free (address : SocketAddress) : Bool := !n.boundAddresses.any address.clashes
  if !wanted.isLocal n.online then none
  else if wanted.port ≠ 0 then if free wanted then some wanted else none
  else
    (List.range (n.boundAddresses.length + 1)).findSome? fun i =>
      let address := wanted.withPort (UInt16.ofNat (firstFreePort + i))
      if free address then some address else none

/-- The channel that takes datagrams for an address. -/
def channelAt? (n : Network σ) (destination : SocketAddress) : Option Ref :=
  n.slots.findIdx? fun slot => (boundTo slot).any destination.reaches

/-- The address that receivers see for a channel. -/
def senderAddress (own : SocketAddress) : SocketAddress :=
  match own with
  | .v4 host port => if host.isUnspecified then .v4 ⟨127, 0, 0, 1⟩ port else .v4 host port
  | address => address

/-- Puts a datagram into the arrivals of the channel it is for. -/
def arrive (n : Network σ) (sender destination : SocketAddress) (bytes : Bytes) : Network σ :=
  match n.channelAt? destination with
  | none => n
  | some ref =>
    match n.object? ref with
    | some (.udp udp address arrived) =>
      n.setObject ref (.udp udp address (arrived ++ [(senderAddress sender, bytes)]))
    | _ => n

/-- Sends a datagram from a channel bound to an address, and tells whether it
was taken. A channel bound to an IPv4 address cannot send to IPv6. -/
def transmit (n : Network σ) (own destination : SocketAddress) (bytes : Bytes) :
    Bool × Network σ :=
  if destination.port = 0 ∨ (own.isV4 ∧ ¬ destination.isV4) then (false, n)
  else if n.online then (true, n.arrive own destination bytes)
  else (destination.isV4 && destination.isUnspecified, n)

end Network

end LinkStack
