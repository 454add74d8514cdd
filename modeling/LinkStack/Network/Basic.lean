import LinkStack.Addressing.Dispatch
import LinkStack.Addressing.Transport
import LinkStack.Addressing.User
import LinkStack.Channel.Loopback
import LinkStack.Channel.Udp
import LinkStack.Exchange.Messenger
import LinkStack.Frame.Framer
import LinkStack.Layer.Receiver
import LinkStack.Splice.Duplicator
import LinkStack.Splice.Redirect

/-!
The objects of an application: layers that refer to each other, and who keeps
them.

Objects stand in numbered slots, and a number is never used twice. A slot counts
its holders. A layer holds the layers below it, a bind table its receivers, a
redirect its target, a port its transport and a duplicator its branches; links
upwards and timers hold nothing. An object whose last holder lets go of it
disappears, and lets go of what it holds. Counting, rather than reachability, is
the rule: two redirects that target each other keep each other for ever.
-/

namespace LinkStack

/-- The number of a slot. -/
abbrev Ref := Nat

/-- The number under which the application knows an object of its own. -/
abbrev Key := Nat

/-- The number of an inbox of a link in memory. -/
abbrev Mailbox := Nat

inductive Object where
  | node (node : Node Ref)
  | framer (framer : Frame.Framer Ref)
  | dispatch (dispatch : Addressing.Dispatch Ref)
  | transport (transport : Addressing.Transport Ref)
  | port (transport : Ref) (port : UInt8)
  | user (user : Addressing.UserLayer Ref)
  | duplicator (duplicator : Splice.Duplicator Ref) (first second : Ref)
  | branch (branch : Splice.Branch Ref)
  | redirect (redirect : Splice.Redirect Ref)
  | loopback (loopback : Channel.Loopback Ref) (inbox outbox : Mailbox)
  | udp (udp : Channel.Udp Ref) (address : Channel.SocketAddress)
      (arrived : List (Channel.SocketAddress × Bytes))
  | messenger (messenger : Exchange.Messenger Ref Key)
  | receiver (receiver : Receiver) (key : Key)
  /-- A layer of the application. -/
  | custom (key : Key)
  /-- A timer of the application. -/
  | timer (key : Key)

/-- The objects that an object holds. -/
def Object.held : Object → List Ref
  | .node n => n.child?.toList
  | .framer f => f.node.child?.toList ++ f.other.toList
  | .dispatch d => d.node.child?.toList ++ d.table.owned
  | .transport t => t.node.child?.toList ++ t.ports.owned
  | .port t _ => [t]
  | .user u => u.node.child?.toList
  | .duplicator d first second =>
    first :: second :: (d.children.toList.flatMap fun (a, b) => [a, b])
  | .redirect r => r.target.toList
  | .messenger g => g.node.child?.toList
  | _ => []

structure Slot where
  object : Object
  holders : Nat

/-- Everything that is alive, the clock, and the state `σ` of the application. -/
structure Network (σ : Type) where
  slots : Array (Option Slot) := #[]
  mailboxes : Array (List Bytes) := #[]
  clock : Clock Ref := {}
  /-- The time of the datagram channels in milliseconds. -/
  time : Nat := 0
  /-- Whether there is a network that takes datagrams. -/
  online : Bool := true
  app : σ

namespace Network

variable {σ : Type}

def slot? (n : Network σ) (ref : Ref) : Option Slot := (n.slots[ref]?).join

def object? (n : Network σ) (ref : Ref) : Option Object := (n.slot? ref).map (·.object)

def isAlive (n : Network σ) (ref : Ref) : Bool := (n.slot? ref).isSome

def setSlot (n : Network σ) (ref : Ref) (slot : Option Slot) : Network σ :=
  { n with slots := n.slots.setIfInBounds ref slot }

def setObject (n : Network σ) (ref : Ref) (object : Object) : Network σ :=
  match n.slot? ref with
  | none => n
  | some slot => n.setSlot ref (some { slot with object })

/-- Adds a holder to an object. -/
def retain (n : Network σ) (ref : Ref) : Network σ :=
  match n.slot? ref with
  | none => n
  | some slot => n.setSlot ref (some { slot with holders := slot.holders + 1 })

/-- Takes one holder off each of the given objects, and off what those hold
that disappear. -/
def releaseAll : Nat → List Ref → Network σ → Network σ
  | 0, _, n => n
  | _, [], n => n
  | turns + 1, ref :: rest, n =>
    match n.slot? ref with
    | none => releaseAll turns rest n
    | some slot =>
      if slot.holders ≤ 1 then releaseAll turns (slot.object.held ++ rest) (n.setSlot ref none)
      else releaseAll turns rest (n.setSlot ref (some { slot with holders := slot.holders - 1 }))

/-- The number of holders of all objects. -/
def holderCount (n : Network σ) : Nat :=
  n.slots.foldl (fun count slot => count + (slot.map (·.holders)).getD 0) 0

/-- Takes one holder off an object. Every turn takes a holder off an object that
is there, so there are no more turns than holders. -/
def release (n : Network σ) (ref : Ref) : Network σ := releaseAll n.holderCount [ref] n

/-- Replaces an object. What the new one holds is held, and what the old one
held is let go. -/
def replace (n : Network σ) (ref : Ref) (object : Object) : Network σ :=
  match n.object? ref with
  | none => n
  | some old => old.held.foldl release ((object.held.foldl retain n).setObject ref object)

/-- Adds an object with one holder, and makes it hold what it refers to. -/
def insert (n : Network σ) (object : Object) : Ref × Network σ :=
  let ref := n.slots.size
  let n := object.held.foldl retain n
  (ref, { n with slots := n.slots.push (some { object, holders := 1 }) })

/-- Adds an inbox. -/
def addMailbox (n : Network σ) : Mailbox × Network σ :=
  (n.mailboxes.size, { n with mailboxes := n.mailboxes.push [] })

end Network

end LinkStack
