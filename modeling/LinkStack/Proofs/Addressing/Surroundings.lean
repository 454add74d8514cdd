import LinkStack.Addressing.Binding
import LinkStack.Proofs.Layer.Scene

/-!
A switch among layers that may call it back.

A switch hands what it receives to one of many layers, and any of them may call the switch
again before it answers. Once a switch has its links, nothing that is called changes more
of it than its counters; so the layers around it act on the counters and on a state of
their own, and that is all that is known about them. The history of a `Scene` has the
changes that the switch itself makes, and what it asks of its neighbours.

`Leads` describes a part of a run: what it adds to the history, what the switch counts
meanwhile, and that nothing but the counters changes. How a packet is given to the layer
that a table has for a number is the same for all switches (`BindTable.give_run`).
-/

namespace LinkStack.Addressing

variable {ρ S E α : Type}

/-- Where the counters of a layer are. -/
structure Counters (S : Type) where
  get : S → Stats
  set : S → Stats → S
  get_set : ∀ s stats, get (set s stats) = stats
  set_get : ∀ s, set s (get s) = s
  set_set : ∀ s stats stats', set (set s stats) stats' = set s stats'

def Counters.tally (c : Counters S) (s : S) (event : Traffic) : S :=
  c.set s ((c.get s).count event)

/-- The layers around a switch. -/
structure Surroundings (ρ E : Type) where
  layer : ρ → Layer (StateM (Stats × E))
  alive : ρ → StateM (Stats × E) Bool

/-- What is offered and asked leaves the counters of the switch alone. -/
structure Surroundings.Aloof (around : Surroundings ρ E) : Prop where
  recv : ∀ who packet s, (((around.layer who).recv packet).run s).2.1 = s.1
  send : ∀ who packet s, (((around.layer who).send packet).run s).2.1 = s.1
  alive : ∀ who s, (around.alive who s).2.1 = s.1

/-- Layers that are always there and take everything. -/
def Surroundings.ample (room : Nat) : Surroundings ρ E where
  layer _ := .ample room
  alive _ := pure true

theorem Surroundings.aloof_ample (room : Nat) : (ample room : Surroundings ρ E).Aloof where
  recv _ _ _ := rfl
  send _ _ _ := rfl
  alive _ _ := rfl

/-- What a switch does with its neighbours. -/
inductive Deed (ρ : Type) where
  | alive (who : ρ) (answer : Bool)
  | contact (who : ρ) (what : Contact)

namespace Surroundings

/-- The neighbours act, and what they did is noted together with their answer. -/
def noting (c : Counters S) (what : α → Deed ρ) (act : StateM (Stats × E) α) :
    StateM (Scene S E (Deed ρ)) α := fun s =>
  let (answer, stats, around) := act (c.get s.layer, s.around)
  (answer, { s.meet around (what answer) with layer := c.set s.layer stats })

/-- The neighbours act, and nothing is noted. -/
def outside (c : Counters S) (act : StateM (Stats × E) α) :
    StateM (Scene S E (Deed ρ)) α := fun s =>
  let (answer, stats, around) := act (c.get s.layer, s.around)
  (answer, { s with layer := c.set s.layer stats, around })

/-- Where a switch runs. -/
def site (c : Counters S) (around : Surroundings ρ E) (limit : Nat) :
    Site (StateM (Scene S E (Deed ρ))) ρ S where
  get := fun s => (s.layer, s)
  modify f := fun s => ((), s.change f)
  layer who :=
    { name := outside c (around.layer who).name
      recv packet := ExceptT.mk (noting c (fun answer => .contact who (.recv packet answer))
        ((around.layer who).recv packet).run)
      send packet := ExceptT.mk (noting c (fun answer => .contact who (.send packet answer))
        ((around.layer who).send packet).run)
      sendConfirmed packet :=
        ExceptT.mk (noting c (fun answer => .contact who (.sendConfirmed packet answer))
          ((around.layer who).sendConfirmed packet).run)
      capacity := noting c (fun room => .contact who (.capacity room)) (around.layer who).capacity
      delivered report := noting c (fun _ => .contact who (.delivered report))
        ((around.layer who).delivered report)
      stats := outside c (around.layer who).stats }
  alive who := noting c (.alive who) (around.alive who)
  now := fun s => (s.now, s)
  limit := limit

end Surroundings

/-! ### Parts of a run -/

section Runs

variable {c : Counters S} {around : Surroundings ρ E} {limit : Nat}
  {s s' s'' : Scene S E (Deed ρ)} {traffic traffic' : List Traffic}
  {events events' : List (Moment S (Deed ρ))}

/-- From one scene to another, the switch has counted the traffic, and the events have happened.
What the neighbours did to the counters in between is not known, unless they are aloof. -/
structure Leads (c : Counters S) (around : Surroundings ρ E) (s s' : Scene S E (Deed ρ))
    (traffic : List Traffic) (events : List (Moment S (Deed ρ))) : Prop where
  layer : ∃ stats, s'.layer = c.set s.layer stats
  history : s'.history = s.history ++ events
  counted : around.Aloof → s'.layer = traffic.foldl c.tally s.layer

namespace Leads

theorem refl (s : Scene S E (Deed ρ)) : Leads c around s s [] [] where
  layer := ⟨c.get s.layer, (c.set_get s.layer).symm⟩
  history := (List.append_nil _).symm
  counted _ := rfl

theorem trans (h : Leads c around s s' traffic events)
    (h' : Leads c around s' s'' traffic' events') :
    Leads c around s s'' (traffic ++ traffic') (events ++ events') where
  layer := by
    obtain ⟨stats, hstats⟩ := h.layer
    obtain ⟨stats', hstats'⟩ := h'.layer
    exact ⟨stats', by rw [hstats', hstats, c.set_set]⟩
  history := by rw [h'.history, h.history, List.append_assoc]
  counted haloof := by rw [h'.counted haloof, h.counted haloof, List.foldl_append]

theorem tally (s : Scene S E (Deed ρ)) (event : Traffic) :
    Leads c around s (s.change (c.tally · event)) [event]
      [.changed s.layer (c.tally s.layer event)] where
  layer := ⟨_, rfl⟩
  history := rfl
  counted _ := rfl

variable (around) in
theorem noting (what : α → Deed ρ) {act : StateM (Stats × E) α}
    (haloof : around.Aloof → ∀ s, (act s).2.1 = s.1) (s : Scene S E (Deed ρ)) :
    ∃ answer s', Surroundings.noting c what act s = (answer, s') ∧
      Leads c around s s' [] [.noted (what answer)] := by
  refine ⟨_, _, rfl, ⟨_, rfl⟩, rfl, fun h => ?_⟩
  show c.set s.layer (act (c.get s.layer, s.around)).2.1 = s.layer
  rw [haloof h, c.set_get]

end Leads

theorem Surroundings.get_run : (around.site c limit).get s = (s.layer, s) := rfl

/-! ### Giving a packet to the layer behind a number -/

/-- What is asked before a packet is given to a handler that is there. -/
def Handler.inquiry : Handler ρ → List (Moment S (Deed ρ))
  | .layer target => [.noted (.alive target true)]
  | .receiver _ => []

/-- A packet is given to a handler that is there, and the switch changes before. -/
def Handler.handover (handler : Handler ρ) (before after : S) (packet : Bytes)
    (answer : Except LayerError Nat) : List (Moment S (Deed ρ)) :=
  handler.inquiry ++
    [.changed before after, .noted (.contact handler.target (.recv packet answer))]

/-- One delivery: its answer, what the switch counts for it, and what happens. -/
structure Round (ρ S : Type) where
  answer : Except LayerError Nat
  traffic : List Traffic
  events : List (Moment S (Deed ρ))

/-- A packet is given to the layer that a table has for a number, if there is one and it is
still there. -/
inductive Given (c : Counters S) (t : BindTable ρ) (id : UInt8) (packet : Bytes) :
    Round ρ S → Prop
  | unbound (before : S) : t.lookup id = none →
      Given c t id packet ⟨.ok 0, [.rxError], [.changed before (c.tally before .rxError)]⟩
  | gone (target : ρ) (before : S) : t.lookup id = some (.layer target) →
      Given c t id packet ⟨.ok 0, [.rxDropped],
        [.noted (.alive target false), .changed before (c.tally before .rxDropped)]⟩
  | handed (handler : Handler ρ) (before : S) (answer : Except LayerError Nat) :
      t.lookup id = some handler →
      Given c t id packet ⟨answer, [.rxPacket packet.length],
        handler.handover before (c.tally before (.rxPacket packet.length)) packet answer⟩

/-- Gives a packet to the layer that a table has for a number. -/
def BindTable.give {m : Type → Type} [Monad m] (site : Site m ρ S) (count : S → Traffic → S)
    (t : BindTable ρ) (id : UInt8) (packet : Bytes) : ExceptT LayerError m Nat := do
  match t.lookup id with
  | none =>
    site.modify (count · .rxError)
    return 0
  | some handler =>
    match ← (handler.resolve site : m _) with
    | none =>
      site.modify (count · .rxDropped)
      return 0
    | some layer =>
      site.modify (count · (.rxPacket packet.length))
      layer.recv packet

variable (around limit) in
/-- A handler is there, or it is a layer that has gone. -/
theorem Handler.resolve_run (handler : Handler ρ) (s : Scene S E (Deed ρ)) :
    (∃ target s', handler = .layer target ∧
      handler.resolve (around.site c limit) s = (none, s') ∧
      Leads c around s s' [] [.noted (.alive target false)]) ∨
    ∃ s', handler.resolve (around.site c limit) s =
        (some ((around.site c limit).layer handler.target), s') ∧
      Leads c around s s' [] handler.inquiry := by
  cases handler with
  | receiver target => exact .inr ⟨s, rfl, .refl s⟩
  | layer target =>
      obtain ⟨answer, s', hanswer, hleads⟩ := Leads.noting (c := c) around
        (Deed.alive target) (fun h => h.alive target) s
      have halive : (around.site c limit).alive target s = (answer, s') := hanswer
      cases answer with
      | false => exact .inl ⟨target, s', rfl, by rw [resolve, bind_run_eq halive]; rfl, hleads⟩
      | true => exact .inr ⟨s', by rw [resolve, bind_run_eq halive]; rfl, hleads⟩

variable (around limit) in
/-- Giving a packet away comes to one of the three ends, from any scene. -/
theorem BindTable.give_run (t : BindTable ρ) (id : UInt8) (packet : Bytes)
    (s : Scene S E (Deed ρ)) :
    ∃ round s', (t.give (around.site c limit) c.tally id packet).run s = (round.answer, s') ∧
      Given c t id packet round ∧ Leads c around s s' round.traffic round.events := by
  rw [give]
  cases hlookup : t.lookup id with
  | none => exact ⟨_, _, rfl, .unbound s.layer hlookup, .tally s .rxError⟩
  | some handler =>
      rcases handler.resolve_run (c := c) around limit s with
        ⟨target, s', rfl, hresolve, hleads⟩ | ⟨s', hresolve, hleads⟩
      · refine ⟨_, s'.change (c.tally · .rxDropped), ?_, .gone target s'.layer hlookup,
          hleads.trans (.tally s' .rxDropped)⟩
        rw [bind_run_ok (lift_run hresolve)]
        rfl
      · obtain ⟨answer, s'', hanswer, hrecv⟩ := Leads.noting (c := c) around
          (fun answer => Deed.contact handler.target (.recv packet answer))
          (fun h => h.recv handler.target packet) (s'.change (c.tally · (.rxPacket packet.length)))
        refine ⟨⟨answer, [.rxPacket packet.length], _⟩, s'', ?_,
          .handed handler s'.layer answer hlookup, hleads.trans ((Leads.tally s' _).trans hrecv)⟩
        rw [bind_run_ok (lift_run hresolve)]
        exact hanswer

end Runs

end LinkStack.Addressing
