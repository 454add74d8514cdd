import LinkStack.Channel.Address
import LinkStack.Channel.Error

/-!
The clients of a datagram channel.

Peers that send are learned and forgotten after a silence; peers that are
registered are pinned and stay. The table is bounded, and no address is in it
twice. Time is a number of milliseconds that never decreases.
-/

namespace LinkStack.Channel

structure Client (α : Type) where
  address : α
  lastSeen : Nat
  pinned : Bool
  deriving DecidableEq, Repr

/-- The table, oldest client first. -/
structure Clients (α : Type) where
  list : List (Client α) := []
  maxClients : Nat
  timeout : Nat
  deriving DecidableEq, Repr

namespace Clients

variable {α : Type} [DecidableEq α]

def size (t : Clients α) : Nat := t.list.length

def addresses (t : Clients α) : List α := t.list.map (·.address)

/-- Changes the client with an address. -/
def update (t : Clients α) (address : α) (change : Client α → Client α) : Clients α :=
  { t with list := t.list.map fun c => if c.address = address then change c else c }

/-- Whether a client is kept: it is pinned or was heard from in time. -/
def keeps (t : Clients α) (now : Nat) (c : Client α) : Bool :=
  c.pinned || now - c.lastSeen < t.timeout

/-- Forgets the clients that have been silent for too long. -/
def expire (t : Clients α) (now : Nat) : Clients α :=
  { t with list := t.list.filter (t.keeps now) }

/-- Pins a client, which is added if there is room for it. -/
def register (t : Clients α) (now : Nat) (address : α) : Except Error (Clients α) :=
  if address ∈ t.addresses then .ok (t.update address fun c => { c with pinned := true })
  else if t.maxClients ≤ t.size then .error (.tooManyClients t.maxClients)
  else .ok { t with list := t.list ++ [{ address, lastSeen := now, pinned := true }] }

/-- Hears from an address, which is added if there is room for it. -/
def touch (t : Clients α) (now : Nat) (address : α) : Clients α :=
  if address ∈ t.addresses then t.update address fun c => { c with lastSeen := now }
  else if t.size < t.maxClients then
    { t with list := t.list ++ [{ address, lastSeen := now, pinned := false }] }
  else t

end Clients

end LinkStack.Channel
