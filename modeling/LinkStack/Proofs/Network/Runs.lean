import LinkStack.Proofs.Network.Pair

/-!
Runs of a pair of framing layers: what the application does with them, one
operation after the other.

`framedLink` builds the network with the operations that an application uses,
and `Step` lists what happens in a run: the near end sends confirmed packets,
the clock moves, and either end is polled, all of it in any order. `Moves` says
what a step does to a pair, and `run_append` and `Moves.does` take it back to
the network.
-/

namespace LinkStack

open LinkStack.Frame (Framer Packet Codec dataBody)
open Channel (Loopback)
open Network (Does site wire)

namespace Pair

variable {levels : Nat} {p p' : Pair} {e : End}

/-! ### What an application does -/

theorem Wired.setInbox (hp : p.Wired) (writes : List Bytes) : (p.setInbox e writes).Wired :=
  ⟨hp.framer, hp.channel, hp.buffer⟩

/-- The oldest write at an end, the frame of a packet, is delivered. -/
def arrive (p : Pair) (e : End) (packet : Packet) : Pair :=
  ((p.setInbox e (p.inbox e).tail).recv e packet).countChannel e
    (.rxPacket ((p.framer e).codec.frame packet.body).length)

def arriveAll (p : Pair) (e : End) : List Packet → Pair
  | [] => p
  | packet :: packets => (p.arrive e packet).arriveAll e packets

theorem keeps_arrive (packet : Packet) :
    Keeps e (p.setInbox e (p.inbox e).tail) (p.arrive e packet) :=
  (keeps_recv packet).trans (.countChannel _)

theorem pop_inbox {bytes : Bytes} {rest : List Bytes} (h : p.inbox e = bytes :: rest) :
    Does (wire e.index e.other.index).pop p.network (some bytes)
      (p.setInbox e (p.inbox e).tail).network := by
  rw [← updateMailbox_inbox p e List.tail]
  have hmailbox : p.network.mailbox e.index = bytes :: rest := (mailbox_inbox p e).trans h
  exact Does.pop_cons hmailbox

abbrev channelPlace (levels : Nat) (e : End) : Site (Act (List Heard)) Ref (Loopback Ref) :=
  site (Network.calls recorder (levels + 2)) .loopback e.channel

theorem does_deliver_write (hp : p.Wired) (hack : 3 ≤ (p.framer e).bodyLimit) {packet : Packet}
    (hsize : packet.body.length ≤ (p.framer e).bodyLimit) :
    Does (Channel.deliver (channelPlace levels e) Loopback.node
      (fun event => (channelPlace levels e).modify (·.count event))
      ((p.framer e).codec.frame packet.body)) p.network ()
      ((p.recv e packet).countChannel e
        (.rxPacket ((p.framer e).codec.frame packet.body).length)).network := by
  refine Does.bind (Does.parent? (p.read?_channel e) (hp.channel e) rfl (isAlive_framer p e)) ?_
  exact (does_recv hp hack hsize).bind (channel_modify _)

theorem does_drain_inbox (hp : p.Wired) (hack : 3 ≤ (p.framer e).bodyLimit) {packets : List Packet}
    (hinbox : p.inbox e = packets.map fun packet => (p.framer e).codec.frame packet.body)
    (hsize : ∀ packet ∈ packets, packet.body.length ≤ (p.framer e).bodyLimit) {turns : Nat}
    (hturns : packets.length < turns) (processed : Nat) :
    ∃ total, Does (Loopback.drain (channelPlace levels e) (wire e.index e.other.index)
      turns processed) p.network total (p.arriveAll e packets).network := by
  induction packets generalizing p turns processed with
  | nil =>
      obtain ⟨turns, rfl⟩ : ∃ turns', turns = turns' + 1 :=
        Nat.exists_eq_add_one_of_ne_zero (by omega)
      refine ⟨processed, ?_⟩
      refine Does.bind (Does.pop_nil ?_) Does.pure
      rw [mailbox_inbox, hinbox]
      rfl
  | cons packet packets ih =>
      obtain ⟨turns, rfl⟩ : ∃ turns', turns = turns' + 1 :=
        Nat.exists_eq_add_one_of_ne_zero (by omega)
      have hkeeps := p.keeps_arrive (e := e) packet
      have hpopped := hp.setInbox (e := e) (p.inbox e).tail
      have hcodec : ((p.arrive e packet).framer e).codec = (p.framer e).codec := hkeeps.codec
      have hlimit : ((p.arrive e packet).framer e).bodyLimit = (p.framer e).bodyLimit :=
        hkeeps.bodyLimit
      have hrest : (p.arrive e packet).inbox e =
          packets.map fun packet => (p.framer e).codec.frame packet.body := by
        rw [hkeeps.inbox, inbox_setInbox, hinbox]
        rfl
      -- what an end does with a packet goes to the other inbox, not to its own
      have hdrain := @ih (p.arrive e packet) (hpopped.of_keeps hkeeps)
      rw [hcodec, hlimit] at hdrain
      obtain ⟨total, hdrain⟩ := hdrain hack hrest
        (fun packet hmem => hsize packet (List.mem_cons_of_mem _ hmem))
        (Nat.lt_of_succ_lt_succ hturns) (processed + ((p.framer e).codec.frame packet.body).length)
      refine ⟨total, Does.bind (pop_inbox hinbox) ?_⟩
      exact Does.bind (does_deliver_write hpopped hack (hsize _ List.mem_cons_self)) hdrain

theorem does_poll (hp : p.Wired) (hack : 3 ≤ (p.framer e).bodyLimit) {packets : List Packet}
    (hinbox : p.inbox e = packets.map fun packet => (p.framer e).codec.frame packet.body)
    (hsize : ∀ packet ∈ packets, packet.body.length ≤ (p.framer e).bodyLimit) :
    ∃ answer, Does (Network.poll (Network.calls recorder (levels + 2)) e.channel).run p.network
      answer (p.arriveAll e packets).network := by
  have hlength : p.network.mailbox e.index = p.inbox e := p.mailbox_inbox e
  have hturns : packets.length < (p.network.mailbox e.index).length + Network.turnLimit := by
    rw [hlength, hinbox, List.length_map]
    exact Nat.lt_add_of_pos_right (by decide)
  obtain ⟨total, hdrain⟩ := @does_drain_inbox levels p e hp hack packets hinbox hsize _
    hturns 0
  refine ⟨.ok total, Does.holding (isAlive_channel _ e) (Does.get_bind ?_ ?_)⟩
  · intro holders
    rw [Network.object?_withHolders]
  · rw [object?_channel]
    refine Does.bind_ok (Does.ensureInitialized (p.read?_channel e) (hp.channel e)) ?_
    exact Does.bind_ok (Does.lift Does.pending) (Does.lift hdrain)

theorem does_serve (hp : p.Wired) (now : Tick) :
    Does (Network.serve (Network.calls recorder (levels + 1)) now e.framer) p.network ()
      (p.retry e).network := by
  -- nothing has been received in part, so nothing expires
  have hwhole : (p.framer e).expirePartial p.now = p.framer e := by
    rw [Framer.expirePartial, if_neg (by simp [hp.buffer])]
  refine Does.get_bind (fun holders => by rw [Network.object?_withHolders]) ?_
  rw [object?_framer]
  refine framer_now.bind ((framer_modify _).bind ?_)
  rw [hwhole, setFramer_self]
  exact does_retry hp

def advance (p : Pair) (ticks : Tick) : Pair :=
  (({ p with now := p.now + ticks } : Pair).retry .near).retry .far

theorem does_advance (hp : p.Wired) (ticks : Tick) :
    Does (Network.advance (Network.calls recorder (levels + 1)) ticks) p.network (p.now + ticks)
      (p.advance ticks).network := by
  have hmoved : ({ p with now := p.now + ticks } : Pair).Wired :=
    ⟨hp.framer, hp.channel, hp.buffer⟩
  have hnear := hmoved.of_keeps (keeps_retry (e := .near))
  refine Does.advance (Does.notify ?_ ?_)
  · show ∀ timer ∈ [End.near.framer, End.far.framer], _
    intro timer hmem
    rcases List.mem_cons.mp hmem with rfl | hmem
    · rfl
    · rw [List.mem_singleton.mp hmem]
      rfl
  · exact .cons (does_serve hmoved _) (isAlive_framer _ .near)
      (.cons (does_serve hnear _) (isAlive_framer _ .far) .nil)

def sendConfirmed (p : Pair) (e : End) (packet : Bytes) : Except LayerError Nat × Pair :=
  let f := p.framer e
  match f.checkSize packet.length Frame.controlHeader with
  | .error error => (.error error, p)
  | .ok _ =>
    if f.outstanding.isSome then (.error (.busy f.node.name), p)
    else
      let p := p.setFramer e { f with nextSeq := f.nextSeq + 1 }
      match p.write e (dataBody f.nextSeq packet) with
      | (.error error, p) => (.error error, p)
      | (.ok wire, p) =>
        let outstanding := some { seq := f.nextSeq, sentAt := p.now, retries := 0, wire, packet }
        (.ok packet.length, p.setFramer e { p.framer e with outstanding })

theorem does_sendConfirmed (hp : p.Wired) (packet : Bytes) :
    Does (((Network.calls recorder (levels + 2)).layer e.framer).sendConfirmed packet).run p.network
      (p.sendConfirmed e packet).1 (p.sendConfirmed e packet).2.network := by
  refine Does.sendConfirmed (p.object?_framer e) rfl (isAlive_framer _ e) ?_
  refine Does.bind_ok (Does.ensureInitialized (p.read?_framer e) (hp.framer e)) ?_
  refine Does.bind_ok (Does.lift framer_get) ?_
  rw [sendConfirmed]
  cases hcheck : (p.framer e).checkSize packet.length Frame.controlHeader with
  | error error => exact Does.bind_error Does.pure
  | ok _ =>
      obtain ⟨hpacket, hsize⟩ := Framer.checkSize_eq_ok hcheck
      refine Does.bind_ok Does.pure ?_
      by_cases hbusy : (p.framer e).outstanding.isSome
      · simp only [if_pos hbusy]
        exact Does.bind_error Does.throw
      · simp only [if_neg hbusy]
        refine Does.bind_ok (Does.lift (framer_modify _)) ?_
        generalize hq : p.setFramer e _ = q
        have hkeeps : Keeps e p q := hq ▸ .setFramer rfl rfl rfl
        have hwrite := @does_write levels q e (hp.of_keeps hkeeps)
          (dataBody (p.framer e).nextSeq packet) (by simp [dataBody]) (by
            rw [hkeeps.bodyLimit]
            exact hsize)
        generalize q.write e (dataBody (p.framer e).nextSeq packet) = written at hwrite ⊢
        obtain ⟨answer, p'⟩ := written
        cases answer with
        | error error => exact Does.bind_error hwrite
        | ok wire =>
            refine Does.bind_ok hwrite ?_
            refine Does.bind_ok (Does.lift framer_now) ?_
            exact Does.bind_ok (Does.lift (framer_modify _)) Does.ok

end Pair

/-! ### Runs -/

/-- Two framing layers with the same settings on the ends of a link in memory,
each under a layer of the application. -/
def framedLink (config : Frame.Config) (maxPacket : Nat) (start : Tick) :
    Option (Network (List Heard)) := do
  let n : Network (List Heard) := { clock := { now := start }, app := [] }
  let ((near, far), n) := n.addLoopback maxPacket
  let (nearFramer, n) ← (n.addFramer config).toOption
  let (farFramer, n) ← (n.addFramer config).toOption
  let (nearParent, n) := n.insert (.custom 0)
  let (farParent, n) := n.insert (.custom 1)
  let n ← (← n.link near { parent := some nearFramer }).toOption
  let n ← (← n.link far { parent := some farFramer }).toOption
  let n ← (← n.link nearFramer { child := some near, parent := some nearParent }).toOption
  (← n.link farFramer { child := some far, parent := some farParent }).toOption

/-- The pair that is built, without the links and with them. -/
def Pair.unlinked (config : Frame.Config) (maxPacket : Nat) (now : Tick) : Pair where
  channel _ := { maxPacket }
  framer _ := { config, lastRx := now }
  inbox _ := []
  now := now
  heard := []

def Pair.linkChannel (p : Pair) (e : End) : Pair :=
  p.setChannel e { p.channel e with
    node := { p.channel e |>.node with links := some { child := none, parent := some e.framer } } }

def Pair.linkFramer (p : Pair) (e : End) : Pair :=
  p.setFramer e { p.framer e with
    node := { p.framer e |>.node with
      links := some { child := some e.channel, parent := some e.parent } }
    other := none }

def Pair.start (config : Frame.Config) (maxPacket : Nat) (now : Tick) : Pair :=
  ((((Pair.unlinked config maxPacket now).linkChannel .near).linkChannel .far).linkFramer
    .near).linkFramer .far

theorem Network.replace_of_held_eq_nil {σ : Type} {n : Network σ} {ref : Ref} {old : Object}
    (h : n.object? ref = some old) (hheld : old.held = []) (object : Object) :
    n.replace ref object = (object.held.foldl retain n).setObject ref object := by
  rw [replace, h]
  simp only [hheld]
  rfl

theorem Pair.link_channel {p : Pair} {e : End} (h : (p.channel e).node.links = none)
    (holders : Ref → Nat) :
    (p.network.withHolders holders).link e.channel { parent := some e.framer } =
      some (.ok ((p.linkChannel e).network.withHolders holders)) := by
  have hobject : (p.network.withHolders holders).object? e.channel = _ :=
    (Network.object?_withHolders ..).trans (p.object?_channel e)
  rw [Network.link, hobject]
  simp only [Option.bind_eq_bind, Option.bind_some, Object.link, Loopback.init, Node.init, h,
    Except.map]
  rw [Network.replace_of_held_eq_nil hobject rfl]
  show some (Except.ok ((p.network.withHolders holders).setObject e.channel _)) = _
  rw [Network.setObject_withHolders]
  cases e <;> rfl

theorem Pair.link_framer {p : Pair} {e : End} (h : (p.framer e).node.links = none)
    (hother : (p.framer e).other = none) (holders : Ref → Nat) :
    (p.network.withHolders holders).link e.framer
      { child := some e.channel, parent := some e.parent } =
      some (.ok ((p.linkFramer e).network.withHolders
        (Function.update holders e.channel (holders e.channel + 1)))) := by
  have hobject : (p.network.withHolders holders).object? e.framer = _ :=
    (Network.object?_withHolders ..).trans (p.object?_framer e)
  have hheld : (Object.framer (p.framer e)).held = [] := by
    simp [Object.held, Node.child?, h, hother]
  rw [Network.link, hobject]
  simp only [Option.bind_eq_bind, Option.bind_some, Object.link, Framer.init, Node.init, h,
    Except.map]
  rw [Network.replace_of_held_eq_nil hobject hheld]
  show some (Except.ok (((p.network.withHolders holders).retain e.channel).setObject e.framer _)) = _
  rw [Network.retain_withHolders, Network.setObject_withHolders]
  cases e <;> rfl

/-- How often each object is held: the channels also by the framing layers. -/
def Pair.holders (ref : Ref) : Nat := if ref < 2 then 2 else 1

theorem Pair.holders_pos (ref : Ref) : 0 < holders ref := by
  rw [holders]
  split <;> decide

/-- A network of objects that hold nothing, with two empty inboxes. -/
def Network.ofObjects (now : Tick) (timers : List Ref) (objects : List Object) :
    Network (List Heard) where
  slots := (objects.map fun object => some { object, holders := 1 }).toArray
  mailboxes := #[[], []]
  clock := { now, timers }
  app := []

theorem Network.insert_ofObjects {now : Tick} {timers : List Ref} {objects : List Object}
    {object : Object} (hheld : object.held = []) :
    (ofObjects now timers objects).insert object =
      (objects.length, ofObjects now timers (objects ++ [object])) := by
  simp [insert, hheld, ofObjects]

theorem Network.insertTimed_ofObjects {now : Tick} {timers : List Ref} {objects : List Object}
    {object : Object} (hheld : object.held = []) :
    (ofObjects now timers objects).insertTimed object =
      (objects.length, ofObjects now (timers ++ [objects.length]) (objects ++ [object])) := by
  rw [insertTimed, insert_ofObjects hheld]
  rfl

theorem framedLink_eq {config : Frame.Config} (hconfig : config.validate = .ok ())
    (maxPacket : Nat) (start : Tick) :
    framedLink config maxPacket start =
      some ((Pair.start config maxPacket start).network.withHolders Pair.holders) := by
  have hloopback : ({ clock := { now := start }, app := [] } : Network (List Heard)).addLoopback
      maxPacket = ((0, 1), Network.ofObjects start []
        [.loopback { maxPacket } 0 1, .loopback { maxPacket } 1 0]) := by
    rfl
  have hadd (timers : List Ref) (objects : List Object) :
      (Network.ofObjects start timers objects).addFramer config =
        .ok (objects.length, Network.ofObjects start (timers ++ [objects.length])
          (objects ++ [.framer { config, lastRx := start }])) := by
    rw [Network.addFramer, Framer.new, hconfig]
    exact congrArg Except.ok (Network.insertTimed_ofObjects rfl)
  have hcustom (timers : List Ref) (objects : List Object) (key : Key) :=
    @Network.insert_ofObjects start timers objects (.custom key) rfl
  have hbuilt : Network.ofObjects start [2, 3] [.loopback { maxPacket } 0 1,
      .loopback { maxPacket } 1 0, .framer { config, lastRx := start },
      .framer { config, lastRx := start }, .custom 0, .custom 1] =
      (Pair.unlinked config maxPacket start).network.withHolders fun _ => 1 := rfl
  simp only [framedLink, hloopback, hadd, hcustom, Except.toOption, Option.bind_eq_bind,
    Option.bind_some, List.length_cons, List.length_nil, List.cons_append, List.nil_append,
    Nat.reduceAdd, hbuilt]
  -- the numbers of the objects are those of the ends only by unfolding
  have hnear (p : Pair) (h : (p.channel .near).node.links = none) (holders : Ref → Nat) :
      (p.network.withHolders holders).link 0 { parent := some 2 } = _ := Pair.link_channel h holders
  have hfar (p : Pair) (h : (p.channel .far).node.links = none) (holders : Ref → Nat) :
      (p.network.withHolders holders).link 1 { parent := some 3 } = _ := Pair.link_channel h holders
  have hnearFramer (p : Pair) (h : (p.framer .near).node.links = none)
      (hother : (p.framer .near).other = none) (holders : Ref → Nat) :
      (p.network.withHolders holders).link 2 { child := some 0, parent := some 4 } = _ :=
    Pair.link_framer h hother holders
  have hfarFramer (p : Pair) (h : (p.framer .far).node.links = none)
      (hother : (p.framer .far).other = none) (holders : Ref → Nat) :
      (p.network.withHolders holders).link 3 { child := some 1, parent := some 5 } = _ :=
    Pair.link_framer h hother holders
  rw [hnear _ rfl]
  simp only [Option.bind_some]
  rw [hfar _ rfl]
  simp only [Option.bind_some]
  rw [hnearFramer _ rfl rfl]
  simp only [Option.bind_some]
  rw [hfarFramer _ rfl rfl]
  have hholders : Function.update (Function.update (fun _ => 1) End.near.channel 2)
      End.far.channel 2 = Pair.holders := by
    funext ref
    match ref with
    | 0 => rfl
    | 1 => rfl
    | ref + 2 => simp [Pair.holders, End.channel, End.index]
  exact congrArg (fun holders => some ((Pair.start config maxPacket start).network.withHolders
    holders)) hholders

inductive Step where
  /-- The near end sends a confirmed packet. -/
  | send (packet : Bytes)
  | poll (e : End)
  | advance (ticks : Tick)
  deriving DecidableEq, Repr

namespace Step

def packet? : Step → Option Bytes
  | send packet => some packet
  | _ => none

/-- A step on the network, with a number of levels for its calls. -/
def act (levels : Nat) : Step → Act (List Heard) Unit
  | send packet => do
    let _ ← (((Network.calls recorder levels).layer End.near.framer).sendConfirmed packet).run
  | poll e => do
    let _ ← (Network.poll (Network.calls recorder levels) e.channel).run
  | advance ticks => do
    let _ ← Network.advance (Network.calls recorder levels) ticks

end Step

def run (levels : Nat) (steps : List Step) : Act (List Heard) Unit := steps.forM (Step.act levels)

theorem run_cons {levels : Nat} {step : Step} {n n' : Network (List Heard)}
    (h : step.act levels n = some ((), n')) (steps : List Step) :
    run levels (step :: steps) n = run levels steps n' := by
  show (step.act levels n).bind (fun answer => run levels steps answer.2) = _
  rw [h, Option.bind_some]

theorem Step.filterMap_packet?_cons (step : Step) (steps : List Step) :
    (step :: steps).filterMap packet? = step.packet?.toList ++ steps.filterMap packet? := by
  cases step <;> rfl

/-- In a run, an end is polled while a condition holds of the network. -/
def PolledWhile (levels : Nat) (e : End) (condition : Network (List Heard) → Prop)
    (steps : List Step) (n : Network (List Heard)) : Prop :=
  ∃ before after m, steps = before ++ .poll e :: after ∧
    run levels before n = some ((), m) ∧ condition m

theorem not_polledWhile_nil {levels : Nat} {e : End} {condition : Network (List Heard) → Prop}
    {n : Network (List Heard)} : ¬ PolledWhile levels e condition [] n := by
  rintro ⟨before, after, m, heq, -⟩
  simp at heq

theorem polledWhile_cons {levels : Nat} {e : End} {condition : Network (List Heard) → Prop}
    {step : Step} {n n' : Network (List Heard)} (h : step.act levels n = some ((), n'))
    (steps : List Step) :
    PolledWhile levels e condition (step :: steps) n ↔
      (step = .poll e ∧ condition n) ∨ PolledWhile levels e condition steps n' := by
  constructor
  · rintro ⟨before, after, m, heq, hrun, hcondition⟩
    cases before with
    | nil =>
        obtain ⟨rfl, -⟩ := List.cons.inj heq
        obtain ⟨⟩ : some ((), n) = some ((), m) := hrun
        exact .inl ⟨rfl, hcondition⟩
    | cons first before =>
        obtain ⟨rfl, hrest⟩ := List.cons.inj heq
        rw [run_cons h] at hrun
        exact .inr ⟨before, after, m, hrest, hrun, hcondition⟩
  · rintro (⟨rfl, hcondition⟩ | ⟨before, after, m, rfl, hrun, hcondition⟩)
    · exact ⟨[], steps, n, rfl, rfl, hcondition⟩
    · exact ⟨step :: before, after, m, rfl, (run_cons h before).trans hrun, hcondition⟩

/-- What a step does to a pair. -/
inductive Moves : Step → Pair → Pair → Prop
  | send {p : Pair} {packet : Bytes} : Moves (.send packet) p (p.sendConfirmed .near packet).2
  | poll {p : Pair} {e : End} {packets : List Packet}
      (hinbox : p.inbox e = packets.map fun packet => (p.framer e).codec.frame packet.body)
      (hsize : ∀ packet ∈ packets, packet.body.length ≤ (p.framer e).bodyLimit) :
      Moves (.poll e) p (p.arriveAll e packets)
  | advance {p : Pair} {ticks : Tick} : Moves (.advance ticks) p (p.advance ticks)

theorem Moves.does {levels : Nat} {step : Step} {p p' : Pair} (h : Moves step p p') (hp : p.Wired)
    (hack : ∀ e, 3 ≤ (p.framer e).bodyLimit) :
    Does (step.act (levels + 2)) p.network () p'.network := by
  cases h with
  | @send _ packet => exact (Pair.does_sendConfirmed hp packet).bind Does.pure
  | @poll _ e packets hinbox hsize =>
      obtain ⟨answer, hpoll⟩ := Pair.does_poll hp (hack e) hinbox hsize
      exact hpoll.bind Does.pure
  | @advance _ ticks => exact (Pair.does_advance hp ticks).bind Does.pure

end LinkStack
