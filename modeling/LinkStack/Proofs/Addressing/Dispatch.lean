import LinkStack.Addressing.Dispatch
import LinkStack.Proofs.Addressing.Binding
import LinkStack.Proofs.Addressing.Surroundings

/-!
What a dispatcher does with packets.

Every packet that a dispatcher receives is counted once, and given whole to the one layer
that its table has for it, if there is one (`Dispatch.Turn`). Together with what is known
of finished tables (`BindTable.Exclusive`) this says where packets go
(`Dispatch.routes_exclusively`).
-/

namespace LinkStack.Addressing

variable {ρ S E : Type}

/-! ### Counters of received packets -/

/-- The counters of which each received packet advances one. -/
def received (s : Stats) : List Nat :=
  [s.rxPackets.toNat, s.rxErrors.toNat, s.rxDropped.toNat]

/-- One of these counters has grown by one, unless it was at the ceiling, and the others are
as they were. -/
def CountedOnce (s s' : Stats) : Prop :=
  ∃ i < 3, received s' = (received s).modify i fun n => min Stats.ceiling (n + 1)

/-- What is counted for a received packet. -/
inductive Reception : Traffic → Prop
  | packet (length : Nat) : Reception (.rxPacket length)
  | error : Reception .rxError
  | dropped : Reception .rxDropped

theorem Reception.countedOnce {event : Traffic} (h : Reception event) (s : Stats) :
    CountedOnce s (s.count event) := by
  cases h with
  | packet length => exact ⟨0, by decide, by simp [received, Stats.count, Stats.toNat_bump]⟩
  | error => exact ⟨1, by decide, by simp [received, Stats.count, Stats.toNat_bump]⟩
  | dropped => exact ⟨2, by decide, by simp [received, Stats.count, Stats.toNat_bump]⟩

/-! ### Histories -/

/-- A packet that was given to a layer. -/
def given? : Moment S (Deed ρ) → Option (ρ × Bytes)
  | .noted (.contact who (.recv packet _)) => some (who, packet)
  | _ => none

/-- A change of the switch. -/
def changed? : Moment S (Deed ρ) → Option (S × S)
  | .changed before after => some (before, after)
  | .noted _ => none

section Handed

variable (handler : Handler ρ) (before after : S) (packet : Bytes) (answer : Except LayerError Nat)

theorem filterMap_given?_handed :
    (handler.handover before after packet answer).filterMap given? =
      [(handler.target, packet)] := by
  cases handler <;> rfl

theorem filterMap_changed?_handed :
    (handler.handover before after packet answer).filterMap changed? = [(before, after)] := by
  cases handler <;> rfl

end Handed

/-! ### Turns of a dispatcher -/

/-- The handler that a table has for a packet. -/
def BindTable.forPacket (t : BindTable ρ) : Bytes → Option (Handler ρ)
  | [] => none
  | tag :: _ => t.lookup (Tag.fold tag)

namespace Dispatch

def counters : Counters (Dispatch ρ) where
  get := Dispatch.stats
  set d stats := { d with stats }
  get_set _ _ := rfl
  set_get _ := rfl
  set_set _ _ _ := rfl

/-- What happens when a packet is received: it is given whole to the layer behind its tag or to
nobody, and to nobody only if no layer is there; and it is counted once. -/
structure Turn (t : BindTable ρ) (packet : Bytes)
    (events : List (Moment (Dispatch ρ) (Deed ρ))) : Prop where
  given : events.filterMap given? = [] ∨ ∃ handler, t.forPacket packet = some handler ∧
    events.filterMap given? = [(handler.target, packet)]
  reached : ∀ handler, t.forPacket packet = some handler →
    .noted (.alive handler.target false) ∉ events →
    events.filterMap given? = [(handler.target, packet)]
  counted : ∃ before after, events.filterMap changed? = [(before, after)] ∧
    CountedOnce before.stats after.stats

/-- The deliveries that can become of a packet. -/
inductive Receives (t : BindTable ρ) : Bytes → Round ρ (Dispatch ρ) → Prop
  | empty (before : Dispatch ρ) :
      Receives t [] ⟨.ok 0, [.rxError], [.changed before (before.count .rxError)]⟩
  | tagged (tag : UInt8) (payload : Bytes) (round : Round ρ (Dispatch ρ)) :
      Given counters t (Tag.fold tag) (tag :: payload) round → Receives t (tag :: payload) round

variable {t : BindTable ρ} {packet : Bytes} {round : Round ρ (Dispatch ρ)}

theorem Receives.traffic (h : Receives t packet round) :
    ∃ event, Reception event ∧ round.traffic = [event] := by
  cases h with
  | empty before => exact ⟨_, .error, rfl⟩
  | tagged tag payload round hgiven =>
      cases hgiven with
      | unbound before hlookup => exact ⟨_, .error, rfl⟩
      | gone target before hlookup => exact ⟨_, .dropped, rfl⟩
      | handed handler before answer hlookup => exact ⟨_, .packet _, rfl⟩

theorem Receives.turn (h : Receives t packet round) : Turn t packet round.events := by
  cases h with
  | empty before =>
      exact ⟨.inl rfl, nofun, before, _, rfl, Reception.error.countedOnce before.stats⟩
  | tagged tag payload round hgiven =>
      cases hgiven with
      | unbound before hlookup =>
          refine ⟨.inl rfl, fun handler hhandler => ?_, before, _, rfl,
            Reception.error.countedOnce before.stats⟩
          cases hlookup.symm.trans hhandler
      | gone target before hlookup =>
          refine ⟨.inl rfl, fun handler hhandler hthere => ?_, before, _, rfl,
            Reception.dropped.countedOnce before.stats⟩
          cases hlookup.symm.trans hhandler
          exact absurd List.mem_cons_self hthere
      | handed handler before answer hlookup =>
          have hgiven := filterMap_given?_handed handler before
            (counters.tally before (.rxPacket (tag :: payload).length)) (tag :: payload) answer
          refine ⟨.inr ⟨handler, hlookup, hgiven⟩, fun handler' hhandler' _ => ?_,
            before, _, filterMap_changed?_handed handler before _ _ answer,
            (Reception.packet _).countedOnce before.stats⟩
          cases hlookup.symm.trans hhandler'
          exact hgiven

/-! ### Runs -/

/-- A dispatcher that has its links, with a given table. -/
structure Sealed (t : BindTable ρ) (d : Dispatch ρ) : Prop where
  initialized : d.node.isInitialized
  table : d.table = t

section Runs

variable {around : Surroundings ρ E} {limit : Nat} {s s' : Scene (Dispatch ρ) E (Deed ρ)}

variable (around limit) in
theorem recv_run (hs : Sealed t s.layer) (packet : Bytes) :
    ∃ round s', (recv (around.site counters limit) packet).run s = (round.answer, s') ∧
      Receives t packet round ∧ Leads counters around s s' round.traffic round.events := by
  cases packet with
  | nil =>
      rw [recv, bind_run_ok (Site.ensureInitialized_run_ok Surroundings.get_run hs.initialized)]
      exact ⟨_, _, rfl, .empty s.layer, .tally s .rxError⟩
  | cons tag payload =>
      obtain ⟨round, s', hrun, hgiven, hleads⟩ := t.give_run (c := counters) around
        limit (Tag.fold tag) (tag :: payload) s
      refine ⟨round, s', ?_, .tagged tag payload round hgiven, hleads⟩
      rw [recv, bind_run_ok (Site.ensureInitialized_run_ok Surroundings.get_run hs.initialized),
        ← hrun, ← hs.table]
      rfl

theorem Sealed.leads {traffic : List Traffic} {events : List (Moment (Dispatch ρ) (Deed ρ))}
    (hs : Sealed t s.layer) (h : Leads counters around s s' traffic events) :
    Sealed t s'.layer := by
  obtain ⟨stats, hlayer⟩ := h.layer
  rw [hlayer]
  exact ⟨hs.initialized, hs.table⟩

/-- The scene after packets have been received. -/
def afterPackets (around : Surroundings ρ E) (limit : Nat) (packets : List Bytes)
    (s : Scene (Dispatch ρ) E (Deed ρ)) : Scene (Dispatch ρ) E (Deed ρ) :=
  packets.foldl (fun s packet => ((recv (around.site counters limit) packet).run s).2) s

variable (around limit) in
theorem sealed_afterPackets (hs : Sealed t s.layer) (packets : List Bytes) :
    Sealed t (afterPackets around limit packets s).layer := by
  induction packets generalizing s with
  | nil => exact hs
  | cons packet packets ih =>
      obtain ⟨round, s', hrun, -, hleads⟩ :=
        recv_run around limit hs packet
      have hnext : ((recv (around.site counters limit) packet).run s).2 = s' := by rw [hrun]
      rw [afterPackets, List.foldl_cons, hnext]
      exact ih (hs.leads hleads)

/-- Each packet of a sequence has its turn. -/
theorem turn_afterPackets (hs : Sealed t s.layer) (earlier : List Bytes) (packet : Bytes) :
    let before := afterPackets around limit earlier s
    let after := afterPackets around limit (earlier ++ [packet]) s
    ∃ events, after.history = before.history ++ events ∧ Turn t packet events ∧
      (around.Aloof → CountedOnce before.layer.stats after.layer.stats) := by
  intro before after
  obtain ⟨round, s', hrun, hreceives, hleads⟩ := recv_run around limit
    (sealed_afterPackets around limit hs earlier) packet
  have hafter : after = s' := by
    show afterPackets around limit (earlier ++ [packet]) s = s'
    rw [afterPackets, List.foldl_append]
    exact congrArg Prod.snd hrun
  obtain ⟨event, hevent, htraffic⟩ := hreceives.traffic
  rw [hafter]
  refine ⟨round.events, hleads.history, hreceives.turn, fun haloof => ?_⟩
  rw [hleads.counted haloof, htraffic]
  exact hevent.countedOnce before.layer.stats

end Runs

/-- In a table that has been filled by any calls and could be finished, every number is matched by
its own binding or else by the catch-all, in whatever order the bindings stand. Hence a dispatcher
with such a table gives each packet whole to the one layer behind its tag, and counts it once,
whatever the layers around it do. -/
theorem routes_exclusively {capacity : Nat} {calls : List (Slots.Call (Binding ρ))}
    {t : BindTable ρ} (h : (Draft.build (Slots.ofCapacity capacity) calls).finish = .ok t) :
    t.Exclusive ∧
    (∀ (capacity' : Nat) (calls' : List (Slots.Call (Binding ρ))) (t' : BindTable ρ),
      (Draft.build (Slots.ofCapacity capacity') calls').finish = .ok t' →
      t.bindings.Perm t'.bindings → ∀ id, t.lookup id = t'.lookup id) ∧
    ∀ (E : Type) (around : Surroundings ρ E) (limit : Nat) (s : Scene (Dispatch ρ) E (Deed ρ)),
      s.layer.node.isInitialized → s.layer.table = t → ∀ (earlier : List Bytes) (packet : Bytes),
      let before := afterPackets around limit earlier s
      let after := afterPackets around limit (earlier ++ [packet]) s
      ∃ events, after.history = before.history ++ events ∧ Turn t packet events ∧
        (around.Aloof → CountedOnce before.layer.stats after.layer.stats) := by
  refine ⟨exclusive_of_finish h, fun capacity' calls' t' h' hperm => ?_, ?_⟩
  · exact (exclusive_of_finish h).lookup_eq (exclusive_of_finish h') fun b => hperm.mem_iff
  · intro E around limit s hinitialized htable
    exact turn_afterPackets ⟨hinitialized, htable⟩

/-! ### A catch-all bound first -/

namespace CatchAllFirst

/-- The catch-all is bound first, a route is refused since it is taken, and one is replaced. -/
def calls : List (Slots.Call (Binding Nat)) :=
  [.assign 2 ⟨.any, .receiver 2⟩, .add ⟨.number 0x7E, .layer 0⟩, .assign 0 ⟨.number 0x7E, .layer 0⟩,
    .assign 1 ⟨.number 0x7E, .layer 1⟩, .assign 1 ⟨.number 0x01, .layer 1⟩,
    .assign 1 ⟨.number 0x80, .layer 1⟩]

def table : BindTable Nat :=
  ⟨[⟨.number 0x7E, .layer 0⟩, ⟨.number 0x80, .layer 1⟩, ⟨.any, .receiver 2⟩]⟩

def reordered : BindTable Nat :=
  ⟨[⟨.number 0x80, .layer 1⟩, ⟨.number 0x7E, .layer 0⟩, ⟨.any, .receiver 2⟩]⟩

def dispatch : Dispatch Nat := { node := { name := "dispatch", links := some ⟨none, none⟩ }, table }

/-- A frame tag goes to the layer of the first one, a tag without a route to the catch-all. -/
theorem routes_exclusively_calls :
    table.Exclusive ∧ table.lookup 0x80 = reordered.lookup 0x80 ∧
    ∃ events, Turn table [0x95, 7] events ∧ CountedOnce
      (afterPackets (Surroundings.ample 256) 0 [[0x02]] ⟨dispatch, (), 0, []⟩).layer.stats
      (afterPackets (Surroundings.ample 256) 0 [[0x02], [0x95, 7]]
        ⟨dispatch, (), 0, []⟩).layer.stats := by
  have hfinish : (Draft.build (Slots.ofCapacity 3) calls).finish = .ok table := rfl
  have hroutes := routes_exclusively hfinish
  refine ⟨hroutes.1, hroutes.2.1 3 (reordered.bindings.map .add) reordered rfl
    (.swap _ _ _) 0x80, ?_⟩
  obtain ⟨events, -, hturn, hcounted⟩ := hroutes.2.2 Unit (.ample 256) 0 ⟨dispatch, (), 0, []⟩
    rfl rfl [[0x02]] [0x95, 7]
  exact ⟨events, hturn, hcounted (Surroundings.aloof_ample 256)⟩

end CatchAllFirst

end Dispatch

end LinkStack.Addressing
