import LinkStack.Proofs.Exchange.Ample

/-!
Descriptors that pass for arguments.

A packet that is marked as a descriptor carries a text. The layer that receives it
tells text from arguments by its length alone: a text as long as the arguments of the
message is taken in, and given to the handler when the message has its turn.

What two layers send each other are descriptors and arguments of their common catalog
(`Emission`), so whether that can happen is a property of the catalog. The blocks that
a layer has taken in meet their fates in the order in which they came, and so every
fate has its packet (`Withheld`).
-/

namespace LinkStack.Exchange

open LinkStack.Catalog (Table Message)

/-- A message has a handler, and a descriptor as long as its arguments. -/
def Ambiguous {η : Type} (table : Table η) : Prop :=
  ∃ message ∈ table.messages, message.handler.isSome ∧ message.descriptor.toUTF8 ≠ [] ∧
    message.descriptor.toUTF8.length = message.size

instance {η : Type} (table : Table η) : Decidable (Ambiguous table) :=
  inferInstanceAs (Decidable (∃ message ∈ table.messages, _))

variable {η E : Type}

/-- A packet that is marked as a descriptor was received. -/
def Call.Marked (call : Call η) : Prop :=
  ∃ tag flags data, call.op = .recv (tag :: flags :: data) ∧ descriptorFlag ≤ flags.toNat

/-- The calls that have taken in arguments, with the arguments. -/
def takers (calls : List (Call η)) : List (Call η × Held) :=
  calls.filterMap fun call => call.accepted?.map (call, ·)

/-- What was taken in from a packet that is marked as a descriptor has not been given to
a handler. -/
def Withheld (calls : List (Call η)) : Prop :=
  ∀ taker held fate, (taker, held, fate) ∈ (takers calls).zip (settled calls) →
    taker.1.Marked → ∀ handler, fate ≠ .given handler

/-- A packet that a layer sends: a descriptor, which is marked, or a request or arguments. -/
inductive Emission (table : Table η) : Bytes → Prop
  | description {number : Nat} {message : Message η}
      (hmessage : table.get? number = some message) :
      Emission table (packet (number + descriptorFlag) message.descriptor.toUTF8)
  | plain {number : Nat} {data : Bytes} (hlt : number < table.size) :
      Emission table (packet number data)

namespace Messenger

/-! ### What a call sends -/

section Sending

variable {n : Neighbours E} {limit : Nat} {handle : η → Option Bytes → StateM E (Option Bytes)}
  {table : Table η} {s s' : Stage η E} {entry : Entry} {step : Step} {message : Message η}

/-- All that was sent are descriptors, requests and arguments of the catalog. -/
structure Honest (table : Table η) (s : Stage η E) : Prop where
  catalog : s.layer.table = table
  sent : ∀ packet ∈ handed s.history, Emission table packet

namespace Honest

theorem change (h : Honest table s) {f : Messenger Neighbour η → Messenger Neighbour η}
    (htable : (f s.layer).table = s.layer.table) : Honest table (s.change f) :=
  ⟨htable.trans h.catalog, by simpa [handed] using h.sent⟩

/-- Something is noted that is not handed to the child. -/
theorem meet (h : Honest table s) (around : E) {what : Event η}
    (hquiet : handed [(.noted what : Instant η)] = []) : Honest table (s.meet around what) := by
  refine ⟨h.catalog, ?_⟩
  rw [Scene.history_meet, handed_append, hquiet, List.append_nil]
  exact h.sent

theorem transmit (h : Honest table s) (around : E) {confirmed : Bool} {bytes : Bytes}
    {answer : Except LayerError Nat} (hbytes : Emission table bytes) :
    Honest table (s.meet around (transmission confirmed bytes answer)) := by
  refine ⟨h.catalog, ?_⟩
  have hhanded : handed [(.noted (transmission confirmed bytes answer) : Instant η)] = [bytes] := by
    simp [handed, Notice.packet?]
  rw [Scene.history_meet, handed_append, hhanded]
  intro packet hmem
  rcases List.mem_append.mp hmem with hmem | hmem
  · exact h.sent packet hmem
  · rwa [List.mem_singleton.mp hmem]

theorem probe (h : Honest table s) (around : E) (room : Nat) :
    Honest table (probed s around room) :=
  h.meet around rfl

theorem emits (h : Honest table s) {flags : Nat} {data : Bytes} {confirmed : Bool}
    (hpacket : Emission table (packet flags data))
    (hemits : Emits n flags data confirmed s step s') : Honest table s' := by
  cases hemits with
  | full => exact h.probe _ _
  | tooLong => exact (h.probe _ _).change rfl
  | sent => exact ((h.probe _ _).transmit _ hpacket).change rfl
  | refused => exact (h.probe _ _).transmit _ hpacket
  | failed => exact ((h.probe _ _).transmit _ hpacket).change rfl

theorem invokes (h : Honest table s) {number : Nat} {priority : Priority} {output : Option Bytes}
    (hinvokes : Invokes (.noted handle) number priority s output s') : Honest table s' := by
  have hdiscarded : Honest table (s.change (·.discard number)) := h.change table_discard
  cases hinvokes with
  | unknown => exact h
  | unhandled => exact hdiscarded
  | handled _ _ hcall =>
      obtain ⟨-, rfl⟩ := Prod.mk.inj hcall
      have hserving : Honest table (serving number priority s) := hdiscarded.change rfl
      exact (hserving.meet _ rfl).change rfl

theorem supplies (h : Honest table s) (hlt : entry.number < table.size)
    (hsupplies : Supplies n (.noted handle) entry message (released entry s) step s') :
    Honest table s' := by
  have hreleased : Honest table (released entry s) := by
    rw [released]
    split
    · exact h.change rfl
    · exact h
  cases hsupplies with
  | crowded => exact (hreleased.probe _ _).change table_discard
  | silent _ _ hinvokes => exact (hreleased.probe _ _).invokes hinvokes
  | misfit _ _ hinvokes => exact ((hreleased.probe _ _).invokes hinvokes).change rfl
  | answered _ _ hinvokes hemits =>
      exact ((hreleased.probe _ _).invokes hinvokes).emits (.plain hlt) hemits
  | updated _ _ hinvokes hemits =>
      exact (((hreleased.probe _ _).invokes hinvokes).emits (.plain hlt) hemits).change rfl

theorem visits (h : Honest table s) (hvisits : Visits n (.noted handle) entry s step s') :
    Honest table s' := by
  have hlt : ∀ {message}, s.layer.table.get? entry.number = some message →
      entry.number < table.size := fun hmessage => h.catalog ▸ lt_size_of_get? hmessage
  cases hvisits with
  | unknown => exact h
  | describes hmessage _ hdescribes =>
      have hpacket := Emission.description (h.catalog ▸ hmessage)
      cases hdescribes with
      | stalled hemits => exact h.emits hpacket hemits
      | done hemits => exact (h.emits hpacket hemits).change rfl
  | queries hmessage _ hqueries =>
      have hpacket : Emission table (packet entry.number []) := .plain (hlt hmessage)
      cases hqueries with
      | held => exact h.change rfl
      | sent _ hemits => exact (h.emits hpacket hemits).change rfl
      | unsent _ hemits => exact h.emits hpacket hemits
  | replied _ _ hinvokes => exact (h.change (f := (·.unlock entry.number)) rfl).invokes hinvokes
  | supplies hmessage _ hsupplies => exact h.supplies (hlt hmessage) hsupplies

theorem turn (h : Honest table s) (hturn : Turn n (.noted handle) s s') : Honest table s' := by
  cases hturn with
  | full => exact h.probe _ _
  | idle => exact h.probe _ _
  | visit _ _ hvisits => exact ((h.probe _ _).change rfl).visits hvisits
  | putBack _ _ hvisits => exact (((h.probe _ _).change rfl).visits hvisits).change rfl

end Honest

variable (n limit handle) in
theorem honest_run {g₀ : Messenger Neighbour η} {links : Links Neighbour}
    (hlinks : g₀.node.links = some links) (hchild : g₀.node.child = .ok .child)
    (hstands : Stands g₀ none s.layer) (h : Honest g₀.table s) (op : Op) :
    Honest g₀.table (op.run n limit (Handlers.noted handle) s).2 := by
  cases op with
  | recv packet =>
      have hreceives := receives_recv n limit hlinks hstands packet
      change Honest g₀.table ((recv (place n limit) packet).run s).2
      generalize ((recv (place n limit) packet).run s).2 = s' at hreceives ⊢
      have htaken : ∀ flags data, Honest g₀.table (s.change (·.taken packet flags data)) :=
        fun flags data => h.change ((hstands.taken packet flags data).table.trans h.catalog.symm)
      cases hreceives with
      | malformed => exact h.change rfl
      | unseen => exact ⟨(htaken _ _).catalog, (htaken _ _).sent⟩
      | seen _ who => exact (htaken _ _).meet _ (by cases who <;> rfl)
  | post number priority =>
      simp only [Op.run]
      split
      · next hpost =>
          exact h.change (f := fun _ => _) ((hstands.post hpost).table.trans h.catalog.symm)
      · exact h
  | resend => exact h.change (f := fun g => (g.resend s.now).2) (Minor.resend _).table
  | schedule =>
      have hturns := turns_schedule n limit (Handlers.noted handle) (hstands.node ▸ hchild)
      change Honest g₀.table ((schedule (place n limit) (Handlers.noted handle)).run s).2
      generalize ((schedule (place n limit) (Handlers.noted handle)).run s).2 = s' at hturns ⊢
      induction hturns with
      | refl => exact h.change (Minor.expire _).table
      | tail _ hturn ih => exact ih.turn hturn
  | delivered report => exact h.change (f := (·.onDelivered report)) (Minor.onDelivered _).table
  | advance ticks =>
      have hlater : Honest g₀.table { s with now := s.now + ticks } := ⟨h.catalog, h.sent⟩
      exact hlater.change (f := (·.expire (s.now + ticks))) (Minor.expire _).table

end Sending

/-! ### What a dialogue keeps -/

section Talking

variable {table : Table η} {calls : List (Call η)} {call : Call η}

theorem takers_append (calls calls' : List (Call η)) :
    takers (calls ++ calls') = takers calls ++ takers calls' :=
  List.filterMap_append

theorem map_snd_takers (calls : List (Call η)) : (takers calls).map Prod.snd = accepted calls := by
  rw [takers, accepted, List.map_filterMap]
  congr 1
  funext call
  cases call.accepted? <;> rfl

theorem accepted_append (calls calls' : List (Call η)) :
    accepted (calls ++ calls') = accepted calls ++ accepted calls' :=
  List.filterMap_append

theorem settled_append (calls calls' : List (Call η)) :
    settled (calls ++ calls') = settled calls ++ settled calls' :=
  List.flatMap_append

/-- What is taken in came with the packet that was received. -/
theorem accepted?_of_recv {tag flags : UInt8} {data : Bytes} {held : Held}
    (hop : call.op = .recv (tag :: flags :: data)) (haccepted : call.accepted? = some held) :
    held = { number := asked flags, data } ∧ data ≠ [] ∧ call.after.inbox = some held := by
  simp only [Call.accepted?, hop] at haccepted
  split at haccepted
  · next htaken =>
      obtain rfl := Option.some.inj haccepted
      exact ⟨rfl, htaken.2.1, htaken.2.2⟩
  · simp at haccepted

/-- The calls of one layer in a dialogue: received packets are ones that the other layer
sends, what was taken in had the declared size, and it has met its fate or is held. -/
structure Sound (table : Table η) (inbox : Option Held) (calls : List (Call η)) : Prop where
  received : ∀ call ∈ calls, ∀ packet, call.op = .recv packet → Emission table packet
  size : ∀ call ∈ calls, ∀ held, call.accepted? = some held →
    ∃ message, table.get? held.number = some message ∧ held.data.length = message.size
  sum : accepted calls = (settled calls).map Prod.fst ++ inbox.toList
  fits : ∀ held fate, (held, fate) ∈ settled calls → fate.Fits table held

theorem Sound.concat {inbox : Option Held} (h : Sound table inbox calls)
    (hinbox : call.before.inbox = inbox) (hbalances : Balances table call)
    (hreceived : ∀ packet, call.op = .recv packet → Emission table packet)
    (hwaits : call.after.Waits none) (htable : call.after.table = table) :
    Sound table call.after.inbox (calls ++ [call]) := by
  have haccepted : accepted [call] = call.accepted?.toList :=
    (accepted_cons call []).trans (List.append_nil _)
  have hsettled : settled [call] = call.settled := List.append_nil _
  refine ⟨?_, ?_, ?_, ?_⟩
  · rw [List.forall_mem_append, List.forall_mem_singleton]
    exact ⟨h.received, hreceived⟩
  · rw [List.forall_mem_append, List.forall_mem_singleton]
    refine ⟨h.size, fun held haccepted => ?_⟩
    rw [← htable]
    have hheld : call.after.inbox = some held := by
      cases hop : call.op with
      | recv packet =>
          rcases packet with _ | ⟨tag, _ | ⟨flags, data⟩⟩
          · simp [Call.accepted?, hop] at haccepted
          · simp [Call.accepted?, hop] at haccepted
          · exact (accepted?_of_recv hop haccepted).2.2
      | _ => simp [Call.accepted?, hop] at haccepted
    exact (hwaits held hheld).1
  · have hsum := hbalances.sum
    rw [hinbox] at hsum
    rw [accepted_append, settled_append, List.map_append, haccepted, hsettled, h.sum,
      List.append_assoc, List.append_assoc, hsum]
  · rw [settled_append, hsettled]
    intro held fate hmem
    rcases List.mem_append.mp hmem with hmem | hmem
    · exact h.fits held fate hmem
    · exact hbalances.fits held fate hmem

/-- A text is given to a handler only if it is as long as the arguments of its message. -/
theorem Sound.withheld {inbox : Option Held} (h : Sound table inbox calls)
    (hsize : table.size ≤ Catalog.maxMessages) (hclear : ¬ Ambiguous table) : Withheld calls := by
  rintro ⟨call, held⟩ held' fate hmem ⟨tag, flags, data, hop, hmarked⟩ handler rfl
  obtain ⟨hcall, haccepted⟩ : call ∈ calls ∧ call.accepted? = some held := by
    have htaker := (List.of_mem_zip hmem).1
    rw [takers, List.mem_filterMap] at htaker
    obtain ⟨call', hcall', htaker⟩ := htaker
    obtain ⟨held', haccepted, hpair⟩ := Option.map_eq_some_iff.mp htaker
    obtain ⟨rfl, rfl⟩ := Prod.mk.inj hpair
    exact ⟨hcall', haccepted⟩
  -- the fate is that of the block itself: both lists are in the order of arrival
  obtain rfl : held = held' := by
    obtain ⟨i, hi, hget⟩ := List.mem_iff_getElem.mp hmem
    rw [List.getElem_zip, Prod.mk.injEq] at hget
    have hfst : ((takers calls).map Prod.snd)[i]? = some held := by
      rw [List.length_zip] at hi
      rw [List.getElem?_map, List.getElem?_eq_getElem (by omega), hget.1]
      rfl
    have hsnd : ((settled calls).map Prod.fst)[i]? = some held' := by
      rw [List.length_zip] at hi
      rw [List.getElem?_map, List.getElem?_eq_getElem (by omega), hget.2]
      rfl
    rw [map_snd_takers, h.sum, List.getElem?_append_left (by
      rw [List.length_zip] at hi
      rw [List.length_map]
      omega), hsnd] at hfst
    exact (Option.some.inj hfst).symm
  obtain ⟨message, hmessage, hlength⟩ := h.size call hcall held haccepted
  obtain ⟨message', hmessage', hhandler⟩ := h.fits _ _ (List.of_mem_zip hmem).2
  obtain rfl : message = message' := Option.some.inj (hmessage.symm.trans hmessage')
  obtain ⟨rfl, hdata, -⟩ := accepted?_of_recv hop haccepted
  have hemission := h.received call hcall _ hop
  generalize hpacket : (tag :: flags :: data) = bytes at hemission
  cases hemission with
  | @description number described hdescribed =>
      obtain ⟨-, rfl, rfl⟩ : tag = Tag.message ∧
          flags = UInt8.ofNat (number + descriptorFlag) ∧ data = described.descriptor.toUTF8 := by
        simpa [packet] using hpacket
      rw [(asked_flags (lt_descriptorFlag hsize (lt_size_of_get? hdescribed))).2] at hmessage
      obtain rfl : described = message := Option.some.inj (hdescribed.symm.trans hmessage)
      exact hclear ⟨described, List.mem_of_getElem? hdescribed, by simp [hhandler], hdata, hlength⟩
  | @plain number data' hlt =>
      obtain ⟨-, rfl, -⟩ : tag = Tag.message ∧ flags = UInt8.ofNat number ∧ data = data' := by
        simpa [packet] using hpacket
      rw [(toNat_flags (lt_descriptorFlag hsize hlt)).1] at hmarked
      exact absurd hmarked (Nat.not_le.mpr (lt_descriptorFlag hsize hlt))

variable {config : Peer → Config} {parent : Peer → Option Neighbour} {w : Surroundings η E}
  {handle : Peer → η → Option Bytes → StateM E (Option Bytes)} {d : Dialogue η E}

/-- What two layers with a common catalog keep, whatever they are told to do. -/
structure Conversing (table : Table η) (config : Peer → Config) (parent : Peer → Option Neighbour)
    (d : Dialogue η E) : Prop where
  stands : ∀ who, Stands (begun table (config who) (parent who)) none (d.layer who)
  sent : ∀ who, ∀ packet ∈ d.sent who, Emission table packet
  calls : ∀ who, Sound table (d.layer who).inbox (d.calls who)

theorem Conversing.perform (h : Conversing table config parent d)
    (hw : w.handlers = fun who => .noted (handle who)) {who : Peer} {op : Op}
    (hop : ∀ packet, op = .recv packet → Emission table packet) :
    Conversing table config parent (d.perform w who op) := by
  have hcall : ∀ handler input, Keeps (E := E) (begun table (config who) (parent who))
      (w.handlers who handler input) := by
    rw [hw]
    exact fun handler input s hs => hs
  have hstands : Stands (begun table (config who) (parent who)) none
      (d.performed w who op).layer :=
    keeps_run (w.neighbours who) (w.limit who) rfl rfl hcall op (d.stage who) (h.stands who)
  have hbalances : Balances table
      ⟨op, d.layer who, (d.performed w who op).history, (d.performed w who op).layer⟩ := by
    rw [Dialogue.performed, hw]
    exact balances_call (w.neighbours who) (w.limit who) (handle who) (s := d.stage who)
      (h.stands who) rfl rfl op
  have hhonest : Honest table (d.performed w who op) := by
    rw [Dialogue.performed, hw]
    exact honest_run (w.neighbours who) (w.limit who) (handle who) (s := d.stage who) rfl rfl
      (h.stands who) ⟨(h.stands who).table, List.forall_mem_nil _⟩ op
  refine ⟨fun m => ?_, fun m => ?_, fun m => ?_⟩ <;> by_cases hm : m = who
  · subst hm
    rwa [Dialogue.layer_perform_self]
  · rw [Dialogue.layer_perform_of_ne w who op d hm]
    exact h.stands m
  · subst hm
    rw [Dialogue.sent_perform_self]
    intro packet hmem
    rcases List.mem_append.mp hmem with hmem | hmem
    · exact h.sent m packet hmem
    · exact hhonest.sent packet hmem
  · rw [Dialogue.sent_perform_of_ne w who op d hm]
    exact h.sent m
  · subst hm
    rw [Dialogue.layer_perform_self, Dialogue.calls_perform_self]
    exact (h.calls m).concat rfl hbalances hop hstands.waits hstands.table
  · rw [Dialogue.layer_perform_of_ne w who op d hm, Dialogue.calls_perform_of_ne w who op d hm]
    exact h.calls m

theorem Conversing.talks (h : Conversing table config parent d)
    (hw : w.handlers = fun who => .noted (handle who)) {d' : Dialogue η E}
    (htalks : Relation.ReflTransGen (Dialogue.Talks w) d d') :
    Conversing table config parent d' := by
  induction htalks with
  | refl => exact h
  | tail _ htalk ih =>
      cases htalk with
      | perform who op hfed =>
          exact ih.perform hw fun packet hop => ih.sent _ _ (hfed packet hop)

theorem conversing_begun (table : Table η) (config : Peer → Config)
    (parent : Peer → Option Neighbour) (around : E) (now : Peer → Tick) :
    Conversing table config parent (.begun table config parent around now) where
  stands who := stands_begun table (config who) (parent who)
  sent _ := List.forall_mem_nil _
  calls _ := ⟨List.forall_mem_nil _, List.forall_mem_nil _, rfl, fun _ _ hmem => by cases hmem⟩

end Talking

/-! ### A text that is given to a handler -/

section Mistaking

variable {table : Table η} {g₀ g : Messenger Neighbour η} {now : Tick} {number : Nat}
  {message : Message η} {handler : η}

/-- The layer once the messages below a number have been taken out of the queue. -/
structure Emptied (g₀ : Messenger Neighbour η) (below : Nat) (g : Messenger Neighbour η) :
    Prop where
  stands : Stands g₀ none g
  inbox : g.inbox = none
  running : g.running = none
  unlocked : ∀ m, g.lock? m = none
  level : ∀ m < below, g.queue.level m = .clear

theorem Emptied.post (h : Emptied g₀ number g) (hlt : number < g₀.table.size) :
    ∃ g', g.post number .clear = .ok g' ∧ Emptied g₀ (number + 1) g' := by
  have hholds : ¬ (({ g with queue := g.queue.remove number } : Messenger Neighbour η).unlock
      number).holds number := by
    rw [holds_iff]
    rintro ⟨data, hheld⟩
    exact absurd (h.inbox.symm.trans hheld) (by simp)
  have hpost : g.post number .clear =
      .ok (({ g with queue := g.queue.remove number } : Messenger Neighbour η).unlock number) := by
    rw [Messenger.post, if_neg (Nat.not_le.mpr (h.stands.table.symm ▸ hlt)), if_neg (by decide),
      if_neg (by simp [h.running]), if_pos rfl, discard, if_neg hholds]
  refine ⟨_, hpost, h.stands.post hpost, h.inbox, h.running, fun m => ?_, fun m hm => ?_⟩
  · rw [lock?_unlock]
    split
    · rfl
    · exact h.unlocked m
  · refine Outbound.level_remove.trans ?_
    split
    · rfl
    · exact h.level m (by omega)

/-- The queue of a new layer can be emptied. -/
theorem Emptied.posts (h : Emptied g₀ 0 g) (below : Nat) (hle : below ≤ g₀.table.size) :
    ∃ g', (List.range below).foldlM (fun g number => g.post number .clear) g = .ok g' ∧
      Emptied g₀ below g' := by
  induction below with
  | zero => exact ⟨g, rfl, h⟩
  | succ below ih =>
      obtain ⟨g₁, hposts, h₁⟩ := ih (Nat.le_of_succ_le hle)
      obtain ⟨g₂, hpost, h₂⟩ := h₁.post hle
      refine ⟨g₂, ?_, h₂⟩
      rw [List.range_succ, List.foldlM_append, hposts]
      change [below].foldlM (fun g number => g.post number .clear) g₁ = .ok g₂
      rw [List.foldlM_cons, hpost]
      rfl

theorem Emptied.poised (h : Emptied g₀ g₀.table.size g) (now : Tick) :
    Poised g₀ now [] none (fun _ => False) g := by
  refine ⟨h.stands.node, h.stands.table, h.stands.config, h.stands.tidy, ?_, h.inbox, h.running,
    fun m => ?_, fun m lock hlock => ?_⟩
  · refine List.eq_nil_iff_forall_not_mem.mpr fun entry hmem => ?_
    have hqueued := (h.stands.tidy.queue.exists_mem_iff entry.number).mp ⟨entry, hmem, rfl⟩
    have hlt := Outbound.lt_length_of_level hqueued
    rw [h.stands.tidy.levels, h.stands.table] at hlt
    exact hqueued (h.level _ hlt)
  · simp [isLocked, h.unlocked m]
  · simp [h.unlocked m] at hlock

theorem emptied_begun (table : Table η) (config : Config) (parent : Option Neighbour) :
    Emptied (begun table config parent) 0 (begun table config parent) := by
  exact ⟨stands_begun _ _ _, rfl, rfl, lock?_begun _ _ _, by simp⟩

/-- Handlers that have nothing to send. -/
def silent : Handlers η Unit := .noted fun _ _ => pure none

theorem answers_silent (g : Messenger Neighbour η) (around : Unit) (handler : η)
    (input : Option Bytes) : Answers silent g around handler input none around :=
  answers_noted _ g around handler input

/-- A message that is to send its descriptor sends it, and then has its handler called with
the arguments that are held. -/
theorem drains_description (hmessage : g₀.table.get? number = some message)
    (hhandler : message.handler = some handler) {room : Nat}
    (hroom : header + message.descriptor.toUTF8.length ≤ room)
    (hspace : header + message.size ≤ room) {inbox : Option Held}
    (hinbox : ∀ held, inbox = some held → held.number = number) :
    Drains room 0 silent now fun k g _ notices =>
      match k with
      | 0 => Poised g₀ now [] none (fun _ => False) g ∧
          Notice.handed (packet (number + descriptorFlag) message.descriptor.toUTF8) ∈ notices ∧
          Notice.called (some number) handler (inbox.map Held.data) ∈ notices
      | 1 => ∃ priority, (priority = .highest ∨ priority = .low) ∧
          Poised g₀ now [⟨priority, number⟩] inbox (fun _ => False) g ∧
          Notice.handed (packet (number + descriptorFlag) message.descriptor.toUTF8) ∈ notices
      | 2 => Poised g₀ now [⟨.description, number⟩] inbox (fun _ => False) g
      | _ => False where
  idle g around notices h := h.1.pop_nil
  turn k g around notices h := by
    match k with
    | 0 =>
        obtain ⟨priority, hpriority, hpoised, hhanded⟩ := h
        obtain ⟨queue, hpop, hpopped⟩ := hpoised.pop
        have hargs : Entry.IsArgs ⟨priority, number⟩ ∧ priority ≠ .unlockArgs := by
          rcases hpriority with rfl | rfl <;> simp [Entry.IsArgs] <;> decide
        refine ⟨_, queue, _, (), _, hpop, ?_, hpopped.served number priority hinbox,
          List.mem_append_left _ hhanded, List.mem_append_right _ (List.mem_singleton_self _)⟩
        intro s hlayer _ _
        rw [← hlayer] at hpopped ⊢
        obtain ⟨s', hperform, hleads⟩ := perform_silent 0 ⟨priority, number⟩
          (hpopped.table ▸ hmessage) hargs.1 hargs.2 hhandler hspace (answers_silent _ _ _ _)
        rw [hpopped.input hinbox] at hleads
        exact ⟨_, s', hperform, by simp, hleads⟩
    | 1 =>
        obtain ⟨queue, hpop, hpopped⟩ := Poised.pop h
        have hcounted := hpopped.count (.txPacket (header + message.descriptor.toUTF8.length))
        have hunlocked : Poised g₀ now [] inbox (fun _ => False) _ :=
          (hcounted.unlock number).congr_locked (by simp)
        refine ⟨_, queue, _, (), _, hpop, ?_,
          if ({ g with queue } : Messenger Neighbour η).holds number then .highest else .low, ?_,
          hunlocked.push (lt_size_of_get? hmessage) ?_,
          List.mem_append_right _ (List.mem_singleton_self _)⟩
        · intro s hlayer _ _
          rw [← hlayer] at hpopped ⊢
          obtain ⟨s', hperform, hleads⟩ := perform_description room 0 silent
            ⟨.description, number⟩ (s := s) (hpopped.table ▸ hmessage)
            (show Priority.descriptionLow ≤ Priority.description by decide) hroom
          exact ⟨_, s', hperform, by simp, hleads⟩
        · split <;> simp
        · split <;> decide
    | k + 2 => exact h.elim

theorem schedule_description {s : Stage η Unit} (hmessage : g₀.table.get? number = some message)
    (hhandler : message.handler = some handler) {room : Nat}
    (hroom : header + message.descriptor.toUTF8.length ≤ room)
    (hspace : header + message.size ≤ room) {inbox : Option Held}
    (hinbox : ∀ held, inbox = some held → held.number = number)
    (hchild : g₀.node.child = .ok .child)
    (h : Poised g₀ s.now [⟨.description, number⟩] inbox (fun _ => False) s.layer) :
    ∃ s', ((schedule (place (.ample room) 0) silent).run s).2 = s' ∧ s'.now = s.now ∧
      Poised g₀ s.now [] none (fun _ => False) s'.layer ∧
      Notice.handed (packet (number + descriptorFlag) message.descriptor.toUTF8) ∈
        seen s'.history ∧
      Notice.called (some number) handler (inbox.map Held.data) ∈ seen s'.history := by
  have hlt := lt_size_of_get? hmessage
  have hexpired := h.expire fun hlocked => hlocked.elim fun _ => False.elim
  refine (drains_description hmessage hhandler hroom hspace hinbox).schedule (k := 2) ?_
    (h.node ▸ hchild) ?_ ?_
  · rw [header] at hspace
    omega
  · rw [h.table, Priority.max]
    omega
  · rw [hexpired]
    exact h

/-- The two layers over children with room for the packets of one message, without arguments
to send. -/
def mute (room : Nat) : Surroundings η Unit where
  neighbours _ := .ample room
  limit _ := 0
  handlers _ := silent

/-- What a handler was called with has been given to it. -/
theorem given_of_called {history : List (Instant η)} {data : Bytes}
    (h : Notice.called (some number) handler (some data) ∈ seen history)
    (previous : Option (Instant η)) :
    ({ number, data }, Fate.given handler) ∈ fates previous history := by
  induction history generalizing previous with
  | nil => simp at h
  | cons moment history ih =>
      rw [seen, List.filterMap_cons] at h
      rw [fates, List.mem_append]
      cases hnotice : notice? moment with
      | none =>
          rw [hnotice] at h
          exact .inr (ih h _)
      | some notice =>
          rw [hnotice] at h
          rcases List.mem_cons.mp h with rfl | hmem
          · left
            obtain rfl : moment = .noted (.called (some number) handler (some data)) := by
              unfold notice? at hnotice
              split at hnotice <;> simp_all
            exact List.mem_singleton_self _
          · exact .inr (ih hmem _)

theorem takers_posts (w : Surroundings η E) (who : Peer) (numbers : List Nat)
    (priority : Priority) (d : Dialogue η E) :
    takers ((d.performAll w who (numbers.map (.post · priority))).calls who) =
      takers (d.calls who) := by
  induction numbers generalizing d with
  | nil => rfl
  | cons number numbers ih =>
      refine (ih (d.perform w who (.post number priority))).trans ?_
      rw [Dialogue.calls_perform_self, takers_append]
      exact List.append_nil _

section Run

variable (hmessage : table.get? number = some message) (hhandler : message.handler = some handler)
  (hlength : message.descriptor.toUTF8.length = message.size)

/-- Two new layers whose clocks stand still. -/
def newPair (table : Table η) : Dialogue η Unit :=
  .begun table (fun _ => {}) (fun _ => none) () (fun _ => 0)

/-- The queue of a layer is emptied. -/
def clears (table : Table η) : List Op := (List.range table.size).map (.post · .clear)

theorem exists_cleared (w : Surroundings η E) (who : Peer) {d : Dialogue η E}
    (hnew : d.layer who = begun table {} none) :
    ∃ g, Dialogue.Changes who d g d.around [] (d.performAll w who (clears table)) ∧
      ∀ now, Poised (begun table {} none) now [] none (fun _ => False) g := by
  obtain ⟨g, hposts, hemptied⟩ := (emptied_begun table {} none).posts table.size (Nat.le_refl _)
  exact ⟨g, Dialogue.changes_posts (hnew ▸ hposts), hemptied.poised⟩

theorem talks_clears (table : Table η) (w : Surroundings η E) (who : Peer) (d : Dialogue η E) :
    Relation.ReflTransGen (Dialogue.Talks w) d (d.performAll w who (clears table)) :=
  Dialogue.talks_performAll (by simp [clears])

include hmessage hhandler hlength

/-- A layer that is to send a descriptor sends it and calls the handler with what it holds. -/
theorem changes_description {who : Peer} {inbox : Option Held} {d : Dialogue η Unit}
    (hinbox : ∀ held, inbox = some held → held.number = number)
    (h : Poised (begun table {} none) (d.now who) [⟨.description, number⟩] inbox (fun _ => False)
      (d.layer who)) :
    ∃ s, d.performed (mute (header + message.size)) who .schedule = s ∧
      Dialogue.Changes who d s.layer s.around (handed s.history)
        (d.perform (mute (header + message.size)) who .schedule) ∧
      packet (number + descriptorFlag) message.descriptor.toUTF8 ∈ handed s.history ∧
      Notice.called (some number) handler (inbox.map Held.data) ∈ seen s.history := by
  have hroom : header + message.descriptor.toUTF8.length ≤ header + message.size :=
    Nat.le_of_eq (congrArg _ hlength)
  have hchild : (begun table {} none).node.child = .ok .child := rfl
  obtain ⟨s, hs, hnow, -, hhanded, hcalled⟩ := schedule_description (s := d.stage who)
    hmessage hhandler hroom (Nat.le_refl _) hinbox hchild h
  exact ⟨s, hs, Dialogue.changes_perform who .schedule hs hnow,
    List.mem_filterMap.mpr ⟨_, hhanded, rfl⟩, hcalled⟩

/-- One layer empties its queue and sends the descriptor. -/
theorem exists_sent : ∃ d, Relation.ReflTransGen (Dialogue.Talks (mute (header + message.size)))
      (newPair table) d ∧
    packet (number + descriptorFlag) message.descriptor.toUTF8 ∈ d.sent .left ∧
    d.layer .right = begun table {} none ∧ d.calls .right = [] := by
  have hlt : number < table.size := lt_size_of_get? hmessage
  obtain ⟨g, hd₁, hpoised⟩ :=
    exists_cleared (mute (header + message.size)) .left (d := newPair table) rfl
  have hpath₁ := talks_clears table (mute (header + message.size)) .left (newPair table)
  generalize (newPair table).performAll _ .left (clears table) = d₁ at hd₁ hpath₁
  have hd₂ : Dialogue.Changes .left d₁ (g.push number .description) d₁.around []
      (d₁.perform (mute (header + message.size)) .left (.post number .description)) :=
    Dialogue.changes_post (hd₁.layer ▸ (hpoised 0).post hlt (by decide) (by decide) id)
  have hpath₂ := hpath₁.tail (.perform .left (.post number .description) (by simp))
  generalize d₁.perform _ .left (.post number .description) = d₂ at hd₂ hpath₂
  have hpoised₂ : Poised (begun table {} none) (d₂.now .left) [⟨.description, number⟩] none
      (fun _ => False) (d₂.layer .left) := by
    rw [hd₂.layer]
    exact (hpoised _).push hlt (by decide)
  obtain ⟨s, -, hd₃, hhanded, -⟩ :=
    changes_description hmessage hhandler hlength (by simp) hpoised₂
  have hd := (hd₁.trans hd₂).trans hd₃
  refine ⟨_, hpath₂.tail (.perform .left .schedule (by simp)), ?_, hd.layer_of_ne _ (by decide),
    hd.calls_of_ne _ (by decide)⟩
  rw [hd.sent]
  exact List.mem_append_right _ (List.mem_append_right _ hhanded)

omit hhandler in
/-- A layer takes in the descriptor, and is to send it itself. -/
theorem exists_taker (hsize : table.size ≤ Catalog.maxMessages)
    (htext : message.descriptor.toUTF8 ≠ []) {d : Dialogue η Unit}
    (h : Poised (begun table {} none) (d.now .right) [] none (fun _ => False) (d.layer .right))
    (htakers : takers (d.calls .right) = []) :
    ∃ d', d.perform (mute (header + message.size)) .right
        (.recv (packet (number + descriptorFlag) message.descriptor.toUTF8)) = d' ∧
      Poised (begun table {} none) (d'.now .right) [⟨.description, number⟩]
        (some { number, data := message.descriptor.toUTF8 }) (fun _ => False) (d'.layer .right) ∧
      ∃ call, call.Marked ∧
        takers (d'.calls .right) = [(call, { number, data := message.descriptor.toUTF8 })] := by
  let flags := UInt8.ofNat (number + descriptorFlag)
  have hlt := lt_descriptorFlag hsize (lt_size_of_get? hmessage)
  have hflags : flags.toNat = number + descriptorFlag := (toNat_flags hlt).2
  have hasked : asked flags = number := (asked_flags hlt).2
  have hmarked : descriptorFlag ≤ flags.toNat := hflags ▸ Nat.le_add_left _ _
  have hlinks : (d.layer .right).node.links = some ⟨some .child, none⟩ := by
    rw [h.node]
    rfl
  have hd := Dialogue.changes_recv (w := mute (header + message.size)) rfl hlinks flags
    message.descriptor.toUTF8
  have hmessage' : table.get? (asked flags) = some message := hasked.symm ▸ hmessage
  obtain ⟨priority, hpriority, htaken⟩ := h.taken hsize hmessage' htext hlength
    (packet (number + descriptorFlag) message.descriptor.toUTF8)
  rw [if_pos hmarked] at hpriority
  rw [hpriority, hasked] at htaken
  let op : Op := .recv (Tag.message :: flags :: message.descriptor.toUTF8)
  let s := d.performed (mute (header + message.size)) .right op
  refine ⟨_, rfl, ?_, ⟨op, d.layer .right, s.history, s.layer⟩, ⟨_, flags, _, rfl, hmarked⟩, ?_⟩
  · rw [packet, hd.now, hd.layer]
    exact htaken
  · have hinbox : s.layer.inbox = some { number, data := message.descriptor.toUTF8 } := by
      have hlayer : s.layer = _ := (Dialogue.layer_perform_self _ _ _ _).symm.trans hd.layer
      rw [hlayer]
      exact htaken.inbox
    have haccepted : Call.accepted? ⟨op, d.layer .right, s.history, s.layer⟩ =
        some { number, data := message.descriptor.toUTF8 } := by
      rw [← hasked] at hinbox ⊢
      exact if_pos ⟨rfl, htext, hinbox⟩
    rw [packet, Dialogue.calls_perform_self, takers_append, htakers, List.nil_append]
    exact List.filterMap_cons_some (congrArg (Option.map _) haccepted)

/-- The other layer empties its queue, is fed the descriptor, and gives it to the handler. -/
theorem exists_given (hsize : table.size ≤ Catalog.maxMessages)
    (htext : message.descriptor.toUTF8 ≠ []) {d : Dialogue η Unit}
    (hsent : packet (number + descriptorFlag) message.descriptor.toUTF8 ∈ d.sent .left)
    (hlayer : d.layer .right = begun table {} none) (hcalls : d.calls .right = []) :
    ∃ d', Relation.ReflTransGen (Dialogue.Talks (mute (header + message.size))) d d' ∧
      ∃ call held, call.Marked ∧ takers (d'.calls .right) = [(call, held)] ∧
        (held, .given handler) ∈ settled (d'.calls .right) := by
  obtain ⟨g, hd₁, hpoised⟩ := exists_cleared (mute (header + message.size)) .right hlayer
  have htakers :=
    takers_posts (mute (header + message.size)) .right (List.range table.size) .clear d
  rw [hcalls, ← clears] at htakers
  have hpath₁ := talks_clears table (mute (header + message.size)) .right d
  generalize d.performAll _ .right (clears table) = d₁ at hd₁ htakers hpath₁
  have hpath₂ := hpath₁.tail (.perform .right
    (.recv (packet (number + descriptorFlag) message.descriptor.toUTF8)) (by
      rintro _ ⟨⟩
      rw [Peer.other, hd₁.sent_of_ne (by decide)]
      exact hsent))
  obtain ⟨d₂, rfl, hpoised₂, call, hmarked, htakers₂⟩ :=
    exists_taker hmessage hlength hsize htext (hd₁.layer.symm ▸ hpoised _) htakers
  generalize d₁.perform _ .right (.recv _) = d₂ at hpath₂ hpoised₂ htakers₂
  obtain ⟨s, hs, -, -, hcalled⟩ :=
    changes_description hmessage hhandler hlength (by simp) hpoised₂
  refine ⟨_, hpath₂.tail (.perform .right .schedule (by simp)), call,
    { number, data := message.descriptor.toUTF8 }, hmarked, ?_, ?_⟩
  · rw [Dialogue.calls_perform_self, takers_append, htakers₂]
    rfl
  · rw [Dialogue.calls_perform_self, hs, settled_append]
    refine List.mem_append_right _ ?_
    have hfates : settled [⟨.schedule, d₂.layer .right, s.history, s.layer⟩] =
        fates none s.history := List.append_nil _
    rw [hfates]
    exact given_of_called hcalled none

end Run

theorem not_withheld_of_given {table : Table η} {inbox : Option Held} {calls : List (Call η)}
    (h : Sound table inbox calls) {call : Call η} {held : Held} (hmarked : call.Marked)
    (htakers : takers calls = [(call, held)]) (hgiven : (held, .given handler) ∈ settled calls) :
    ¬ Withheld calls := by
  have hsum := h.sum
  rw [← map_snd_takers, htakers] at hsum
  obtain ⟨before, after, hsettled⟩ := List.append_of_mem hgiven
  obtain ⟨rfl, rfl⟩ : before = [] ∧ after = [] := by
    have hlength := congrArg List.length hsum
    simp only [hsettled, List.map_append, List.map_cons, List.length_append, List.length_cons,
      List.length_map, List.length_nil] at hlength
    constructor <;> rw [← List.length_eq_zero_iff] <;> omega
  refine fun hwithheld => hwithheld (call, held) held (.given handler) ?_ hmarked handler rfl
  rw [htakers, hsettled]
  exact List.mem_singleton_self _

/-- A text that is as long as the arguments of its message may be given to the handler. -/
theorem exists_not_withheld (hsize : table.size ≤ Catalog.maxMessages) (h : Ambiguous table) :
    ∃ room d, Relation.ReflTransGen (Dialogue.Talks (mute room)) (newPair table) d ∧
      ¬ Withheld (d.calls .right) := by
  obtain ⟨message, hmem, hsome, htext, hlength⟩ := h
  obtain ⟨number, hmessage⟩ := List.mem_iff_getElem?.mp hmem
  obtain ⟨handler, hhandler⟩ := Option.isSome_iff_exists.mp hsome
  obtain ⟨d, hpath, hsent, hlayer, hcalls⟩ := exists_sent hmessage hhandler hlength
  obtain ⟨d', hpath', call, held, hmarked, htakers, hgiven⟩ :=
    exists_given hmessage hhandler hlength hsize htext hsent hlayer hcalls
  have hhandlers : (mute (η := η) (header + message.size)).handlers =
      fun _ => .noted fun _ _ => pure none := rfl
  have hconversing := (conversing_begun table (fun _ => {}) (fun _ => none) () fun _ => 0).talks
    hhandlers (hpath.trans hpath')
  exact ⟨_, d', hpath.trans hpath',
    not_withheld_of_given (hconversing.calls .right) hmarked htakers hgiven⟩

end Mistaking

end Messenger

/-- What two layers with a common catalog say to each other may make one of them pass the
text of a descriptor to a handler exactly if the catalog has a message with a handler
whose descriptor is as long as its arguments. -/
theorem withheld_iff_not_ambiguous {table : Table η} (hsize : table.size ≤ Catalog.maxMessages) :
    (∀ (E : Type) (n : Peer → Neighbours E) (limit : Peer → Nat)
      (handle : Peer → η → Option Bytes → StateM E (Option Bytes)) (config : Peer → Config)
      (parent : Peer → Option Neighbour) (around : E) (now : Peer → Tick) (d : Dialogue η E),
      Relation.ReflTransGen (Dialogue.Talks ⟨n, limit, fun who => .noted (handle who)⟩)
        (.begun table config parent around now) d →
      ∀ who, Withheld (d.calls who)) ↔ ¬ Ambiguous table := by
  constructor
  · intro hall hambiguous
    obtain ⟨room, d, hpath, hnot⟩ := Messenger.exists_not_withheld hsize hambiguous
    exact hnot (hall Unit _ _ _ _ _ _ _ d hpath .right)
  · intro hclear E n limit handle config parent around now d hpath who
    exact (((Messenger.conversing_begun table config parent around now).talks rfl hpath).calls
      who).withheld hsize hclear

/-! ### A text of one byte -/

section Named

theorem withheld_level : (namedTable "level" 1).size ≤ Catalog.maxMessages ∧
    ¬ Ambiguous (namedTable "level" 1) ∧
    ∀ (E : Type) (n : Peer → Neighbours E) (limit : Peer → Nat)
      (handle : Peer → Unit → Option Bytes → StateM E (Option Bytes)) (config : Peer → Config)
      (parent : Peer → Option Neighbour) (around : E) (now : Peer → Tick) (d : Dialogue Unit E),
    Relation.ReflTransGen (Dialogue.Talks ⟨n, limit, fun who => .noted (handle who)⟩)
      (.begun (namedTable "level" 1) config parent around now) d →
    ∀ who, Withheld (d.calls who) := by
  have hsize : (namedTable "level" 1).size ≤ Catalog.maxMessages := by decide
  have hclear : ¬ Ambiguous (namedTable "level" 1) := by decide +kernel
  exact ⟨hsize, hclear, (withheld_iff_not_ambiguous hsize).mpr hclear⟩

theorem not_forall_withheld :
    ¬ ∀ (draft : Catalog.Draft Unit) (table : Table Unit), draft.finish = .ok table →
      ∀ (n : Peer → Neighbours Unit) (limit : Peer → Nat)
        (handle : Peer → Unit → Option Bytes → StateM Unit (Option Bytes))
        (config : Peer → Config) (parent : Peer → Option Neighbour) (now : Peer → Tick)
        (d : Dialogue Unit Unit),
      Relation.ReflTransGen (Dialogue.Talks ⟨n, limit, fun who => .noted (handle who)⟩)
        (.begun table config parent () now) d →
      ∀ who, Withheld (d.calls who) := by
  intro hall
  have hsize : (namedTable "v" 1).size ≤ Catalog.maxMessages := by decide
  obtain ⟨room, d, hpath, hnot⟩ := Messenger.exists_not_withheld hsize (by decide +kernel)
  exact hnot (hall _ _ finish_named _ _ _ _ _ _ d hpath .right)

end Named

end LinkStack.Exchange
