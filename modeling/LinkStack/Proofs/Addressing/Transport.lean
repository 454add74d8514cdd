import Mathlib.Data.List.Forall2
import LinkStack.Addressing.Transport
import LinkStack.Proofs.Addressing.Surroundings

/-!
Payloads for lists of ports.

What is sent to a list of ports is read back as the same list and the same payload, if the
list fits its length byte (`PortPacket.read_list`). A received list is worked off port by
port, and what one port does with the payload has no influence on whether the next one is
given it (`Transport.listed_run`). The answer of the whole is a function of the answers of
the ports (`verdict`).
-/

namespace LinkStack.Addressing

variable {ρ E : Type}

/-! ### The packet of a port list -/

/-- The header of a packet for a list of ports. -/
def listHeader (ports : Bytes) : Bytes := Tag.portList :: UInt8.ofNat ports.length :: ports

theorem PortPacket.read_list {ports : Bytes} (h : ports.length ≤ 255) (payload : Bytes) :
    read (listHeader ports ++ payload) = .list ports payload := by
  have hcount : (UInt8.ofNat ports.length).toNat = ports.length := by
    rw [UInt8.toNat_ofNat']
    exact Nat.mod_eq_of_lt (by omega)
  have hthere : ¬ (ports ++ payload).length < ports.length := by
    rw [List.length_append]
    omega
  rw [listHeader, List.cons_append, List.cons_append, read, if_neg (by decide), if_pos rfl, hcount,
    if_neg hthere, List.take_left, List.drop_left]

theorem PortPacket.read_short {count : UInt8} {rest : Bytes} (h : rest.length < count.toNat) :
    read (Tag.portList :: count :: rest) = .malformed := by
  rw [read, if_neg (by decide), if_pos rfl, if_pos h]

/-! ### The answer to a port list -/

/-- The lengths that were accepted. -/
def accepted (answers : List (Except LayerError Nat)) : List Nat :=
  answers.filterMap Except.toOption

/-- What a list of answers comes to: the first refusal if there was nothing else, and otherwise
the largest length that was accepted, zero if there was none. -/
def verdict (answers : List (Except LayerError Nat)) : Except LayerError Nat :=
  match answers, accepted answers with
  | .error error :: _, [] => .error error
  | _, lengths => .ok (lengths.foldr max 0)

theorem accepted_cons_ok (n : Nat) (answers : List (Except LayerError Nat)) :
    accepted (.ok n :: answers) = n :: accepted answers :=
  rfl

theorem accepted_cons_error (error : LayerError) (answers : List (Except LayerError Nat)) :
    accepted (.error error :: answers) = accepted answers :=
  rfl

namespace Tally

open Transport (Tally)

theorem refusal_foldl {t : Tally} {error : LayerError} (h : t.refusal = some error)
    (answers : List (Except LayerError Nat)) :
    (answers.foldl Tally.add t).refusal = some error := by
  induction answers generalizing t with
  | nil => exact h
  | cons answer answers ih =>
      refine ih ?_
      cases answer with
      | ok n => exact h
      | error error' => rw [Tally.add, h, Option.some_or]

theorem taken_foldl (t : Tally) (answers : List (Except LayerError Nat)) :
    (answers.foldl Tally.add t).taken = if accepted answers = [] then t.taken
      else some (max (t.taken.getD 0) ((accepted answers).foldr max 0)) := by
  induction answers generalizing t with
  | nil => rfl
  | cons answer answers ih =>
      rw [List.foldl_cons, ih]
      cases answer with
      | error error => rfl
      | ok n =>
          rw [accepted_cons_ok, if_neg (List.cons_ne_nil _ _), List.foldr_cons, ← Nat.max_assoc]
          split
          · rename_i hnone
            rw [hnone, List.foldr_nil, Nat.max_zero]
            rfl
          · rfl

theorem result_foldl (answers : List (Except LayerError Nat)) :
    (answers.foldl Tally.add {}).result = verdict answers := by
  cases answers with
  | nil => rfl
  | cons answer answers =>
      have htaken := taken_foldl {} (answer :: answers)
      cases answer with
      | ok n =>
          rw [accepted_cons_ok, if_neg (List.cons_ne_nil _ _)] at htaken
          rw [Tally.result, htaken]
          simp [verdict, accepted_cons_ok]
      | error error =>
          have hrefusal :
              ((Except.error error :: answers).foldl Tally.add {}).refusal = some error :=
            refusal_foldl rfl answers
          rw [accepted_cons_error] at htaken
          rw [Tally.result, htaken, hrefusal, verdict.eq_def, accepted_cons_error]
          cases accepted answers with
          | nil => rfl
          | cons n lengths => rfl

end Tally

/-! ### Lists of ports -/

namespace Transport

def counters : Counters (Transport ρ) where
  get := Transport.stats
  set t stats := { t with stats }
  get_set _ _ := rfl
  set_get _ := rfl
  set_set _ _ _ := rfl

/-- One entry of a port list: the payload is given to its port, and if it is refused there, that
is counted. -/
inductive Listed (t : BindTable ρ) (payload : Bytes) (port : UInt8) : Round ρ (Transport ρ) → Prop
  | accepted (n : Nat) (traffic : List Traffic) (events : List (Moment (Transport ρ) (Deed ρ))) :
      Given counters t port payload ⟨.ok n, traffic, events⟩ →
      Listed t payload port ⟨.ok n, traffic, events⟩
  | refused (error : LayerError) (traffic : List Traffic)
      (events : List (Moment (Transport ρ) (Deed ρ))) (before : Transport ρ) :
      Given counters t port payload ⟨.error error, traffic, events⟩ →
      Listed t payload port ⟨.error error, traffic ++ [.rxDropped],
        events ++ [.changed before (before.count .rxDropped)]⟩

section Runs

variable {around : Surroundings ρ E} {limit : Nat} {t : BindTable ρ} {payload : Bytes}
  {s : Scene (Transport ρ) E (Deed ρ)}

variable (around limit payload) in
theorem routeListed_run (hs : s.layer.ports = t) (tally : Tally) (port : UInt8) :
    ∃ round s', routeListed (around.site counters limit) payload tally port s =
        (tally.add round.answer, s') ∧
      Listed t payload port round ∧ Leads counters around s s' round.traffic round.events := by
  obtain ⟨⟨answer, traffic, events⟩, s', hrun, hgiven, hleads⟩ := t.give_run (c := counters)
    around limit port payload s
  have hroute : (route (around.site counters limit) payload port).run s = (answer, s') := by
    rw [← hrun, ← hs]
    rfl
  rw [routeListed, bind_run_eq hroute]
  cases answer with
  | ok n => exact ⟨_, s', rfl, .accepted n traffic events hgiven, hleads⟩
  | error error =>
      exact ⟨_, _, rfl, .refused error traffic events s'.layer hgiven,
        hleads.trans (.tally s' .rxDropped)⟩

theorem ports_leads {s' : Scene (Transport ρ) E (Deed ρ)} {traffic : List Traffic}
    {events : List (Moment (Transport ρ) (Deed ρ))}
    (h : Leads counters around s s' traffic events) : s'.layer.ports = s.layer.ports := by
  obtain ⟨stats, hlayer⟩ := h.layer
  rw [hlayer]
  rfl

variable (around limit payload) in
/-- Every port of a list has its round, in order, whatever has become of those before it. -/
theorem listed_run (hs : s.layer.ports = t) (tally : Tally) (ports : Bytes) :
    ∃ (rounds : List (Round ρ (Transport ρ))) (s' : Scene (Transport ρ) E (Deed ρ)),
      (ports.foldlM (routeListed (around.site counters limit) payload) tally :
        StateM (Scene (Transport ρ) E (Deed ρ)) Tally) s =
        ((rounds.map (·.answer)).foldl Tally.add tally, s') ∧
      List.Forall₂ (Listed t payload) ports rounds ∧
      Leads counters around s s' (rounds.flatMap (·.traffic)) (rounds.flatMap (·.events)) := by
  induction ports generalizing s tally with
  | nil => exact ⟨[], s, rfl, .nil, .refl s⟩
  | cons port ports ih =>
      obtain ⟨round, s', hrun, hlisted, hleads⟩ := routeListed_run around limit
        payload hs tally port
      obtain ⟨rounds, s'', hruns, hall, hlater⟩ := ih ((ports_leads hleads).trans hs)
        (tally.add round.answer)
      refine ⟨round :: rounds, s'', ?_, .cons hlisted hall, hleads.trans hlater⟩
      rw [List.foldlM_cons, bind_run_eq hrun]
      exact hruns

/-- A packet that is received gives a payload to every port of a list. -/
def Distributes (around : Surroundings ρ E) (limit : Nat) (packet payload ports : Bytes)
    (s : Scene (Transport ρ) E (Deed ρ)) : Prop :=
  ∃ rounds s', (recv (around.site counters limit) packet).run s =
      (verdict (rounds.map (·.answer)), s') ∧
    List.Forall₂ (Listed s.layer.ports payload) ports rounds ∧
    Leads counters around s s' (rounds.flatMap (·.traffic)) (rounds.flatMap (·.events))

theorem distributes_of_read {packet payload ports : Bytes} (hs : s.layer.node.isInitialized)
    (h : PortPacket.read packet = .list ports payload) :
    Distributes around limit packet payload ports s := by
  obtain ⟨rounds, s', hrun, hall, hleads⟩ := listed_run around limit payload
    (s := s) rfl {} ports
  refine ⟨rounds, s', ?_, hall, hleads⟩
  rw [recv, bind_run_ok (Site.ensureInitialized_run_ok Surroundings.get_run hs), h,
    ← Tally.result_foldl]
  exact bind_run_ok (lift_run hrun) _

variable (around limit) in
/-- What is handed to the child when a payload is sent to a list of ports is one packet. -/
theorem sendList_run {ports : Bytes} (hports : ports.length ≤ 255) {who : ρ}
    (hchild : s.layer.node.child = .ok who) (payload : Bytes) :
    ∃ answer answer' before event s',
      (sendList (around.site counters limit) ports payload).run s = (answer', s') ∧
      Leads counters around s s' [event]
        [.noted (.contact who (.send (listHeader ports ++ payload) answer)),
          .changed before (before.count event)] := by
  have hfits : ¬ 255 < ports.length := Nat.not_lt.mpr hports
  obtain ⟨answer, s', hanswer, hleads⟩ := Leads.noting (c := counters) around
    (fun answer => Deed.contact who (.send (listHeader ports ++ payload) answer))
    (fun h => h.send who (listHeader ports ++ payload)) s
  have hsend : (((around.site counters limit).layer who).send (listHeader ports ++ payload)).run s =
      (answer, s') := hanswer
  rw [sendList, if_neg hfits, emit, bind_run_ok (Site.child_run_ok Surroundings.get_run hchild),
    if_neg nofun, sendBehind, ← listHeader, bind_run_ok (attempt_run hsend)]
  have htally (event : Traffic) := hleads.trans (Leads.tally s' event)
  cases answer with
  | error error => exact ⟨_, _, s'.layer, .txDropped, _, rfl, htally _⟩
  | ok taken =>
      by_cases hall : (listHeader ports ++ payload).length ≤ taken
      · refine ⟨.ok taken, .ok payload.length, s'.layer, .txPacket payload.length, _, ?_, htally _⟩
        simp only [if_pos hall]
        rfl
      · refine ⟨.ok taken, .ok 0, s'.layer, .txDropped, _, ?_, htally _⟩
        simp only [if_neg hall]
        rfl

/-- A list of more than 255 ports is refused, and nothing happens. -/
theorem sendList_refused {ports : Bytes} (h : 255 < ports.length) (payload : Bytes) :
    (sendList (around.site counters limit) ports payload).run s =
      (.error (.packetTooLarge ports.length 255), s) := by
  rw [sendList, if_pos h]
  rfl

/-- A list that is not there in full is counted as an error, and nothing else happens. -/
theorem recv_short (hs : s.layer.node.isInitialized) {count : UInt8} {rest : Bytes}
    (h : rest.length < count.toNat) :
    (recv (around.site counters limit) (Tag.portList :: count :: rest)).run s =
      (.ok 0, s.change (·.count .rxError)) := by
  rw [recv, bind_run_ok (Site.ensureInitialized_run_ok Surroundings.get_run hs),
    PortPacket.read_short h]
  rfl

end Runs

/-- A payload for at most 255 ports goes down as one packet, and whoever receives that packet gives
the payload to each port of the list in turn, whatever the others do with it. A longer list does not
go down, and a list that does not arrive in full goes nowhere. -/
theorem list_reaches_ports :
    (∀ (ρ E : Type) (around : Surroundings ρ E) (limit : Nat)
        (sender : Scene (Transport ρ) E (Deed ρ)) (ports payload : Bytes) (who : ρ),
      ports.length ≤ 255 → sender.layer.node.child = .ok who →
      ∃ packet answer answer' before event s',
        (sendList (around.site counters limit) ports payload).run sender = (answer', s') ∧
        Leads counters around sender s' [event]
          [.noted (.contact who (.send packet answer)), .changed before (before.count event)] ∧
        ∀ (ρ' E' : Type) (around' : Surroundings ρ' E') (limit' : Nat)
          (receiver : Scene (Transport ρ') E' (Deed ρ')), receiver.layer.node.isInitialized →
          Distributes around' limit' packet payload ports receiver) ∧
    (∀ (ρ E : Type) (around : Surroundings ρ E) (limit : Nat)
        (sender : Scene (Transport ρ) E (Deed ρ)) (ports payload : Bytes), 255 < ports.length →
      (sendList (around.site counters limit) ports payload).run sender =
        (.error (.packetTooLarge ports.length 255), sender)) ∧
    ∀ (ρ E : Type) (around : Surroundings ρ E) (limit : Nat)
        (receiver : Scene (Transport ρ) E (Deed ρ)) (count : UInt8) (rest : Bytes),
      receiver.layer.node.isInitialized → rest.length < count.toNat →
      (recv (around.site counters limit) (Tag.portList :: count :: rest)).run receiver =
        (.ok 0, receiver.change (·.count .rxError)) := by
  refine ⟨?_, ?_, ?_⟩
  · intro ρ E around limit sender ports payload who hports hchild
    obtain ⟨answer, answer', before, event, s', hrun, hleads⟩ :=
      sendList_run around limit hports hchild payload
    refine ⟨_, answer, answer', before, event, s', hrun, hleads, ?_⟩
    intro ρ' E' around' limit' receiver hreceiver
    exact distributes_of_read hreceiver (PortPacket.read_list hports payload)
  · intro ρ E around limit sender ports payload hports
    exact sendList_refused hports payload
  · intro ρ E around limit receiver count rest hreceiver hshort
    exact recv_short hreceiver hshort

/-! ### A list of four ports -/

namespace FourPorts

/-- The layer behind port 2 has gone, and the one behind port 3 refuses. -/
def around : Surroundings Nat Unit where
  layer who := { Layer.ample 256 with
    recv packet := if who = 3 then throw (.busy "port") else pure packet.length }
  alive who := pure (who ≠ 2)

def receiver : Scene (Transport Nat) Unit (Deed Nat) where
  layer := { node := { name := "transport", links := some ⟨none, none⟩ }
             ports := ⟨[⟨.number 1, .receiver 1⟩, ⟨.number 2, .layer 2⟩, ⟨.number 3, .layer 3⟩]⟩ }
  around := ()
  now := 0
  history := []

def sender : Scene (Transport Nat) Unit (Deed Nat) where
  layer := { node := { name := "transport", links := some ⟨some 0, none⟩ }, ports := ⟨[]⟩ }
  around := ()
  now := 0
  history := []

theorem list_reaches_fourPorts :
    (∃ packet answer before event s', Leads counters around sender s' [event]
        [.noted (.contact 0 (.send packet answer)), .changed before (before.count event)] ∧
      Distributes around 0 packet [7] [3, 2, 9, 1] receiver) ∧
    (sendList (around.site counters 0) (List.replicate 256 1) [7]).run sender =
      (.error (.packetTooLarge 256 255), sender) ∧
    (recv (around.site counters 0) [Tag.portList, 3, 1, 1]).run receiver =
      (.ok 0, receiver.change (·.count .rxError)) := by
  obtain ⟨hsent, hlong, hshort⟩ := list_reaches_ports
  refine ⟨?_, ?_, hshort Nat Unit around 0 receiver 3 [1, 1] rfl (by decide)⟩
  · obtain ⟨packet, answer, -, before, event, s', -, hleads, hall⟩ :=
      hsent Nat Unit around 0 sender [3, 2, 9, 1] [7] 0 (by decide) rfl
    exact ⟨packet, answer, before, event, s', hleads, hall Nat Unit around 0 receiver rfl⟩
  · have hlength : (List.replicate 256 (1 : UInt8)).length = 256 := List.length_replicate
    have hrefused := hlong Nat Unit around 0 sender (List.replicate 256 1) [7] (by omega)
    rwa [hlength] at hrefused

/-- The first port refuses, the second has gone, the third is not bound, the last takes the
payload. -/
example :
    let call := (recv (around.site counters 0) (listHeader [3, 2, 9, 1] ++ [7])).run receiver
    call.1 = .ok 1 ∧ call.2.layer.stats =
      { rxPackets := 2, rxCounter := 2, rxErrors := 1, rxDropped := 2 } :=
  ⟨rfl, rfl⟩

end FourPorts

end Transport

end LinkStack.Addressing
