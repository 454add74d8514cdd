import LinkStack.Channel.Udp
import LinkStack.Proofs.Layer.Scene

/-!
Programs around a datagram channel.

A `Program` is code around a channel: an application, the network, or what stands above. It calls
operations of the channel and lets time pass. What the channel asks of the network and of its
parent on the way is answered by programs again, so time passes while a channel waits for
a datagram, and calls nest to any depth.

What comes in, what is registered and every change of the channel is put on record, with the time
and the tables before and after, and so are the polls, the counts and the writes. Whatever the
programs are, the table and the record change in a few ways (`Move`): that is shown here for every
operation, and so for every run (`steps_run`). Three of these ways forget the silent clients, and
each belongs to one operation.
-/

namespace LinkStack.Channel

open Relation (ReflTransGen)

variable {E α β : Type} {config : UdpConfig}

/-! ### Programs -/

/-- What a channel asks of the network and of its parent. -/
inductive Demand where
  | pending
  | receive
  | transmit (address : SocketAddress) (bytes : Bytes)
  | recv (who : Neighbour) (bytes : Bytes)
  deriving DecidableEq

abbrev Demand.Answer : Demand → Type
  | pending => Nat
  | receive => Option (SocketAddress × Bytes)
  | transmit .. => Bool
  | recv .. => Except LayerError Nat

/-- What is called on a channel. To let time pass is a request as well. -/
inductive Request where
  | init (parent : Option Neighbour)
  | addClient (address : SocketAddress)
  | poll
  | write (bytes : Bytes)
  | activeClients
  | wait (ms : Nat)
  deriving DecidableEq

abbrev Request.Answer : Request → Type
  | init _ => Except LayerError Unit
  | addClient _ => Except Error Unit
  | poll | write _ => Except LayerError Nat
  | activeClients => Nat
  | wait _ => Unit

/-- Code that looks at the channel and at the time, acts on its surroundings, and calls operations
of the channel. With each call comes what is done about the demands of the channel during it. -/
inductive Program (E : Type) : Type → Type 1 where
  | done {α : Type} (a : α) : Program E α
  | act {α β : Type} (own : Udp Neighbour → Nat → StateM E β) (next : β → Program E α) :
      Program E α
  | call {α : Type} (request : Request) (reply : (demand : Demand) → Program E demand.Answer)
      (next : request.Answer → Program E α) : Program E α

/-! ### The record -/

/-- What is put on record. -/
inductive Event where
  /-- A datagram of some length has come from an address. -/
  | heard (sender : SocketAddress) (length : Nat)
  | registered (address : SocketAddress) (answer : Except Error Unit)
      (before after : Clients SocketAddress)
  | changed (before after : Clients SocketAddress)
  /-- A poll has ended, and has delivered some bytes. -/
  | polled (processed : Nat)
  /-- The clients have been counted. -/
  | counted (clients : Nat)
  /-- A packet of some length is about to be written. -/
  | writes (length : Nat)

/-- Something on record, with its time. -/
abbrev Entry := Nat × Event

/-- What can happen to a table at a time, and what is put on record of it. -/
inductive Move (config : UdpConfig) (now : Nat) (t : Clients SocketAddress) :
    List Event → Clients SocketAddress → Prop
  /-- The channel changes in something else. -/
  | other : Move config now t [.changed t t] t
  | heard (sender : SocketAddress) (length : Nat) :
      Move config now t [.heard sender length, .changed t (t.touch now sender)] (t.touch now sender)
  | registered {address : SocketAddress} {t' : Clients SocketAddress}
      (h : t.register now address = .ok t') :
      Move config now t [.registered address (.ok ()) t t'] t'
  | refused {address : SocketAddress} {error : Error} (h : t.register now address = .error error) :
      Move config now t [.registered address (.error error) t t] t
  /-- The last thing a poll does is to forget the silent clients. -/
  | polled (processed : Nat) :
      Move config now t [.changed t (t.expire now), .polled processed] (t.expire now)
  /-- Those are counted who are left without the silent clients. -/
  | counted :
      Move config now t [.changed t (t.expire now), .counted (t.expire now).size] (t.expire now)
  /-- The first thing a write does is to forget the silent clients. -/
  | writes {length : Nat} (h : length ≤ config.maxPacket) :
      Move config now t [.writes length, .changed t (t.expire now)] (t.expire now)
  /-- A packet is too long to be written, and only counts as dropped. -/
  | tooLong {length : Nat} (h : config.maxPacket < length) :
      Move config now t [.writes length, .changed t t] t

/-- What can be told of the clients of a channel: the time, the table and the record. -/
structure Log where
  time : Nat
  table : Clients SocketAddress
  past : List Entry := []

def Log.extend (l : Log) (events : List Event) (table : Clients SocketAddress) : Log :=
  { l with table, past := l.past ++ events.map fun event => (l.time, event) }

inductive Log.Step (config : UdpConfig) (l : Log) : Log → Prop
  | wait (ms : Nat) : Step config l { l with time := l.time + ms }
  | move {events : List Event} {table : Clients SocketAddress}
      (h : Move config l.time l.table events table) : Step config l (l.extend events table)

/-- A channel among its surroundings. -/
structure Station (E : Type) where
  channel : Udp Neighbour
  around : E
  time : Nat
  past : List Entry := []

namespace Station

variable (s : Station E)

def log : Log := { time := s.time, table := s.channel.clients, past := s.past }

def note (event : Event) : Station E := { s with past := s.past ++ [(s.time, event)] }

def change (f : Udp Neighbour → Udp Neighbour) : Station E :=
  { s.note (.changed s.channel.clients (f s.channel).clients) with channel := f s.channel }

/-- Registers an address, which is put on record whatever the answer is. -/
def register (address : SocketAddress) : Except Error Unit × Station E :=
  match s.channel.addClient s.time address with
  | .ok u =>
    (.ok (), { s.note (.registered address (.ok ()) s.channel.clients u.clients) with
      channel := u })
  | .error error =>
    (.error error, s.note (.registered address (.error error) s.channel.clients s.channel.clients))

theorem log_change_note (event : Event) (f : Udp Neighbour → Udp Neighbour) :
    ((s.change f).note event).log = s.log.extend
      [.changed s.channel.clients (f s.channel).clients, event] (f s.channel).clients :=
  congrArg (Log.mk s.time (f s.channel).clients) (List.append_assoc s.past [_] [_])

theorem log_note_change (event : Event) (f : Udp Neighbour → Udp Neighbour) :
    ((s.note event).change f).log = s.log.extend
      [event, .changed s.channel.clients (f s.channel).clients] (f s.channel).clients :=
  congrArg (Log.mk s.time (f s.channel).clients) (List.append_assoc s.past [_] [_])

variable {s}

/-- Where a channel runs. Who is still there can be seen from the surroundings. -/
def among (alive : Neighbour → E → Bool) (limit : Nat)
    (reply : (demand : Demand) → StateM (Station E) demand.Answer) :
    Site (StateM (Station E)) Neighbour (Udp Neighbour) where
  get := fun s => (s.channel, s)
  modify f := fun s => ((), s.change f)
  layer who :=
    { name := pure "neighbour"
      recv bytes := ExceptT.mk (reply (.recv who bytes))
      send packet := pure packet.length
      capacity := pure 0
      delivered _ := pure ()
      stats := pure {} }
  alive who := fun s => (alive who s.around, s)
  now := pure 0
  limit := limit

/-- The socket of a channel. A datagram is put on record when it is taken. -/
def socket (reply : (demand : Demand) → StateM (Station E) demand.Answer) :
    Socket (StateM (Station E)) where
  time := fun s => (s.time, s)
  transmit address bytes := reply (.transmit address bytes)
  receive := do
    match ← reply .receive with
    | none => return none
    | some (sender, bytes) =>
      modify (·.note (.heard sender bytes.length))
      return some (sender, bytes)
  pending := reply .pending

end Station

open Station (among socket)

/-- A call of an operation. A write is put on record when it starts, a poll and a count when they
are done. -/
def Request.on (alive : Neighbour → E → Bool) (limit : Nat)
    (reply : (demand : Demand) → StateM (Station E) demand.Answer) :
    (request : Request) → StateM (Station E) request.Answer
  | init parent => fun s =>
    match s.channel.init parent with
    | .ok u => (.ok (), s.change fun _ => u)
    | .error error => (.error error, s)
  | addClient address => fun s => s.register address
  | poll => fun s =>
    match (Udp.poll (among alive limit reply) (socket reply)).run s with
    | (.ok processed, s) => (.ok processed, s.note (.polled processed))
    | (.error error, s) => (.error error, s)
  | write bytes => fun s =>
    (Udp.write (among alive limit reply) (socket reply) bytes).run (s.note (.writes bytes.length))
  | activeClients => fun s =>
    let (clients, s) := Udp.activeClients (among alive limit reply) (socket reply) s
    (clients, s.note (.counted clients))
  | wait ms => fun s => ((), { s with time := s.time + ms })

def Program.run (alive : Neighbour → E → Bool) (limit : Nat) :
    {α : Type} → Program E α → StateM (Station E) α
  | _, done a => pure a
  | _, act own next => do
    let found ← fun s =>
      let (found, around) := own s.channel s.time s.around
      (found, { s with around })
    (next found).run alive limit
  | _, call request reply next => do
    let answer ← request.on alive limit fun demand => (reply demand).run alive limit
    (next answer).run alive limit

/-! ### The steps of an operation -/

/-- An action does nothing to the clients but what steps do, and the settings stay the same. -/
abbrev Steps (config : UdpConfig) (act : StateM (Station E) α) : Prop :=
  Follows (fun s => s.channel.config = config) Station.log (Log.Step config) act

section Operations

variable {alive : Neighbour → E → Bool} {limit : Nat}
  {reply : (demand : Demand) → StateM (Station E) demand.Answer}

theorem get_run {s : Station E} : (among alive limit reply).get s = (s.channel, s) := rfl

theorem steps_get : Steps config (among alive limit reply).get := fun _ hs => ⟨hs, .refl⟩

theorem steps_count (event : Traffic) :
    Steps config ((among alive limit reply).modify (·.count event)) :=
  fun _ hs => ⟨hs, .single (.move .other)⟩

/-- The silent clients are forgotten at the time it is. -/
theorem forget_run (s : Station E) (k : ExceptT LayerError (StateM (Station E)) β) :
    (do
      let now ← (liftM (socket reply).time : ExceptT LayerError (StateM (Station E)) Nat)
      liftM ((among alive limit reply).modify (·.expire now))
      k).run s = k.run (s.change (·.expire s.time)) :=
  rfl

/-- The clients are counted when the silent ones have been forgotten. -/
theorem activeClients_run (s : Station E) :
    Udp.activeClients (among alive limit reply) (socket reply) s =
      ((s.channel.clients.expire s.time).size, s.change (·.expire s.time)) :=
  rfl

theorem steps_activeClients : Steps config (Request.activeClients.on alive limit reply) := by
  intro s hs
  dsimp only [Request.on]
  rw [activeClients_run, Station.log_change_note]
  exact ⟨hs, .single (.move .counted)⟩

/-- A packet that is too long only counts as dropped. -/
theorem write_tooLong (s : Station E) {bytes : Bytes}
    (hlong : s.channel.config.maxPacket < bytes.length) :
    (Udp.write (among alive limit reply) (socket reply) bytes).run s =
      (.error (.packetTooLarge bytes.length s.channel.config.maxPacket),
        s.change (·.count .txDropped)) := by
  rw [Udp.write, bind_run_ok (lift_run get_run)]
  dsimp only
  rw [if_pos hlong]
  rfl

variable (hreply : ∀ demand, Steps config (reply demand))

include hreply

theorem steps_deliver (bytes : Bytes) : Steps config (deliver (among alive limit reply) Udp.node
    (fun event => (among alive limit reply).modify (·.count event)) bytes) := by
  intro s hs
  rw [deliver, bind_run_eq (Site.parent?_run get_run fun who => rfl)]
  rcases (Udp.node s.channel).linked with error | links
  · exact steps_count _ s hs
  · rcases hparent : links.parent.filter (alive · s.around) with _ | who
    · simp only [Except.map, hparent]
      exact steps_count _ s hs
    · simp only [Except.map, hparent]
      refine Follows.bind (hreply (.recv who bytes)) (fun answer => ?_) s hs
      cases answer <;> exact steps_count _

/-- A datagram comes in: first its sender is heard, then the rest is done with it. -/
theorem steps_accept {sender : SocketAddress} {bytes : Bytes} {k : Nat → StateM (Station E) β}
    (hk : ∀ size, Steps config (k size)) :
    Steps config (do
      modify (·.note (.heard sender bytes.length))
      k (← Udp.accept (among alive limit reply) (socket reply) sender bytes)) := by
  have hrest : Steps config (do
      let size ← (do
        if (← (among alive limit reply).get).config.maxPacket < bytes.length then
          (among alive limit reply).modify (·.count .rxError)
          return 0
        else
          deliver (among alive limit reply) Udp.node
            (fun event => (among alive limit reply).modify (·.count event)) bytes
          return bytes.length)
      k size) := by
    refine Follows.bind (steps_get.bind fun u => ?_) hk
    split
    · exact (steps_count _).bind fun _ => .pure _
    · exact (steps_deliver hreply bytes).bind fun _ => .pure _
  intro s hs
  let touched := (s.note (.heard sender bytes.length)).change fun u =>
    { u with clients := u.clients.touch s.time sender }
  have htouched : s.log.Step config touched.log := by
    rw [Station.log_note_change]
    exact .move (.heard sender bytes.length)
  exact (hrest touched hs).imp_right (.head htouched)

theorem steps_drain (turns processed : Nat) :
    Steps config (Udp.drain (among alive limit reply) (socket reply) turns processed) := by
  induction turns generalizing processed with
  | zero => exact .pure _
  | succ turns ih =>
      intro s hs
      have hreceive := hreply .receive s hs
      rcases hfound : reply .receive s with ⟨_ | ⟨sender, bytes⟩, s'⟩
      · have hnone : (socket reply).receive s = (none, s') := bind_run_eq hfound _
        rw [hfound] at hreceive
        rw [Udp.drain, bind_run_eq hnone]
        exact hreceive
      · have hsome : (socket reply).receive s =
            (some (sender, bytes), s'.note (.heard sender bytes.length)) := bind_run_eq hfound _
        rw [hfound] at hreceive
        rw [Udp.drain, bind_run_eq hsome]
        exact (steps_accept hreply (fun size => ih (processed + size)) s' hreceive.1).imp_right
          hreceive.2.trans

variable (alive limit) in
/-- A poll fails at once if the channel is not linked. Else it takes its steps, and the last thing
it does is to forget the silent clients. -/
theorem poll_forgets (s : Station E) (hs : s.channel.config = config) :
    (∃ error, (Udp.poll (among alive limit reply) (socket reply)).run s = (.error error, s)) ∨
      ∃ (processed : Nat) (mid : Station E), mid.channel.config = config ∧
        ReflTransGen (Log.Step config) s.log mid.log ∧
        (Udp.poll (among alive limit reply) (socket reply)).run s =
          (.ok processed, mid.change (·.expire mid.time)) := by
  have hready : ((among alive limit reply).ensureInitialized Udp.node).run s =
      ((Udp.node s.channel).linked.map fun _ => (), s) :=
    Site.ensureInitialized_run get_run
  cases hlinked : (Udp.node s.channel).linked with
  | error error =>
      left
      exact ⟨error, by rw [Udp.poll, bind_run_error (hready.trans (by rw [hlinked]; rfl))]⟩
  | ok links =>
      right
      have hpending := hreply .pending s hs
      let arrived := (socket reply).pending s
      let drained :=
        Udp.drain (among alive limit reply) (socket reply) (arrived.1 + limit) 0 arrived.2
      have hdrained : drained.2.channel.config = config ∧
          ReflTransGen (Log.Step config) arrived.2.log drained.2.log :=
        steps_drain hreply _ _ _ hpending.1
      refine ⟨drained.1, drained.2, hdrained.1, hpending.2.trans hdrained.2, ?_⟩
      rw [Udp.poll, bind_run_ok (hready.trans (by rw [hlinked]; rfl))]
      rfl

theorem steps_poll : Steps config (Request.poll.on alive limit reply) := by
  intro s hs
  dsimp only [Request.on]
  rcases poll_forgets alive limit hreply s hs with
    ⟨error, hpoll⟩ | ⟨processed, mid, hmid, hsteps, hpoll⟩
  · rw [hpoll]
    exact ⟨hs, .refl⟩
  · rw [hpoll]
    refine ⟨hmid, hsteps.tail ?_⟩
    rw [Station.log_change_note]
    exact .move (.polled processed)

theorem steps_transmitTo (bytes : Bytes) (sent : Bool) (address : SocketAddress) :
    Steps config (Udp.transmitTo (among alive limit reply) (socket reply) bytes sent address) := by
  refine Follows.bind (hreply (.transmit address bytes)) fun taken => ?_
  split
  · exact .pure _
  · exact (steps_count _).bind fun _ => .pure _

variable (alive limit) in
/-- The first thing that is done about a packet that is not too long is to forget the silent
clients. -/
theorem write_forgets (s : Station E) {bytes : Bytes}
    (hshort : bytes.length ≤ s.channel.config.maxPacket) :
    ∃ rest : StateM (Station E) (Except LayerError Nat), Steps config rest ∧
      (Udp.write (among alive limit reply) (socket reply) bytes).run s =
        rest (s.change (·.expire s.time)) := by
  rw [Udp.write, bind_run_ok (lift_run get_run)]
  dsimp only
  rw [if_neg (Nat.not_lt.mpr hshort), forget_run]
  refine ⟨_, Follows.except_bind (.except_lift steps_get) fun u => ?_, rfl⟩
  split
  · exact (Follows.except_lift (steps_count _)).except_bind fun _ => .pure _
  · refine Follows.except_bind (.except_lift (.foldlM (steps_transmitTo hreply bytes) false))
      fun sent => ?_
    split
    · exact (Follows.except_lift (steps_count _)).except_bind fun _ => .pure _
    · exact .pure _

theorem steps_write (bytes : Bytes) :
    Steps config ((Request.write bytes).on alive limit reply) := by
  intro s hs
  subst hs
  dsimp only [Request.on]
  by_cases hlong : s.channel.config.maxPacket < bytes.length
  · rw [write_tooLong (s.note _) hlong, Station.log_note_change]
    exact ⟨rfl, .single (.move (.tooLong hlong))⟩
  · have hshort : bytes.length ≤ s.channel.config.maxPacket := Nat.not_lt.mp hlong
    obtain ⟨rest, hrest, hwrite⟩ :=
      write_forgets alive limit hreply (s.note (.writes bytes.length)) hshort
    rw [hwrite]
    have hfirst : s.log.Step s.channel.config
        ((s.note (.writes bytes.length)).change (·.expire s.time)).log := by
      rw [Station.log_note_change]
      exact .move (.writes hshort)
    exact (hrest (Station.change _ _) rfl).imp_right (.head hfirst)

theorem steps_request (request : Request) : Steps config (request.on alive limit reply) := by
  cases request with
  | init parent =>
      intro s hs
      dsimp only [Request.on, Udp.init]
      cases s.channel.node.init none parent with
      | error error => exact ⟨hs, .refl⟩
      | ok node => exact ⟨hs, .single (.move .other)⟩
  | addClient address =>
      intro s hs
      dsimp only [Request.on, Station.register, Udp.addClient]
      cases h : s.channel.clients.register s.time address with
      | error error => exact ⟨hs, .single (.move (.refused h))⟩
      | ok table => exact ⟨hs, .single (.move (.registered h))⟩
  | poll => exact steps_poll hreply
  | write bytes => exact steps_write hreply bytes
  | activeClients => exact steps_activeClients
  | wait ms => exact fun s hs => ⟨hs, .single (.wait ms)⟩

end Operations

/-- Whatever a program is, the clients only change in single steps. -/
theorem steps_run (alive : Neighbour → E → Bool) (limit : Nat) (p : Program E α) :
    Steps config (p.run alive limit) := by
  induction p with
  | done a => exact .pure a
  | act own next ih =>
      exact Follows.bind (fun s hs => ⟨hs, .refl⟩) ih
  | call request reply next ihreply ihnext =>
      exact (steps_request ihreply request).bind ihnext

/-! ### A network with datagrams that wait -/

namespace Mail

/-- The datagrams to come. In between there are moments when none has come yet. -/
abbrev Waiting := List (Option (SocketAddress × Bytes))

/-- Datagrams are received in turn, and everything that is sent is taken. -/
def reply : (demand : Demand) → Program Waiting demand.Answer
  | .pending => .act (fun _ _ => return (← get).length) .done
  | .receive => .act (fun _ _ waiting => (waiting.head?.join, waiting.tail)) .done
  | .transmit .. => .done true
  | .recv _ bytes => .done (.ok bytes.length)

/-- Requests, one after the other. -/
def requests : List Request → Program Waiting Unit
  | [] => .done ()
  | request :: rest => .call request reply fun _ => requests rest

def channel (config : UdpConfig) : Udp Neighbour where
  config
  clients := { maxClients := config.maxClients, timeout := config.clientTimeout }

/-- The record of requests to a new channel. -/
def log (config : UdpConfig) (waiting : Waiting) (script : List Request) : Log :=
  ((requests script).run (fun _ _ => true) 8
    { channel := channel config, around := waiting, time := 0 }).2.log

def peer (port : UInt16) : SocketAddress := .v4 ⟨127, 0, 0, 1⟩ port

end Mail

end LinkStack.Channel
