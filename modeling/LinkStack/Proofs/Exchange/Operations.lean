import LinkStack.Proofs.Exchange.Turns

/-!
The operations of a message layer, and what all of them keep.

An application uses a layer by calling its operations, and its handlers do the same
from inside `schedule`. `Uses` says of an action that all it does with the layer is
to look at it and to call some of the operations, however deep in handlers. Whatever
is called, the layer `Stands`: its links, catalog and settings stay, its parts fit
together, and received arguments belong to a queued message.
-/

namespace LinkStack.Exchange

/-- What can be done with a message layer. -/
inductive Op where
  | recv (packet : Bytes)
  | post (number : Nat) (priority : Priority)
  | resend
  | schedule
  | delivered (report : Delivery)
  | advance (ticks : Tick)
  deriving DecidableEq, Repr

/-- The type of the answer of an operation. -/
abbrev Op.Answer : Op → Type
  | recv _ | schedule => Except LayerError Nat
  | post .. => Except Catalog.Error Unit
  | resend => Nat
  | delivered _ | advance _ => Unit

namespace Messenger

variable {η E : Type}

/-- A layer that has been made and linked to a child. -/
def begun (table : Catalog.Table η) (config : Config) (parent : Option Neighbour) :
    Messenger Neighbour η :=
  { (new table config : Messenger Neighbour η) with
    node := { name := "msg", links := some { child := some .child, parent } } }

/-- This is what linking a new layer makes of it. -/
theorem init_new (table : Catalog.Table η) (config : Config) (parent : Option Neighbour) :
    (new table config).init (some .child) parent = .ok (begun table config parent) :=
  rfl

end Messenger

open Messenger

variable {η E : Type}

/-- An operation on the layer of a scene, with given handlers. -/
def Op.run (n : Neighbours E) (limit : Nat) (call : Handlers η E) :
    (op : Op) → StateM (Stage η E) op.Answer
  | recv packet => (Messenger.recv (place n limit) packet).run
  | post number priority => fun s =>
    match s.layer.post number priority with
    | .ok g => (.ok (), s.change fun _ => g)
    | .error error => (.error error, s)
  | resend => fun s =>
    ((s.layer.resend s.now).1, s.change fun g => (g.resend s.now).2)
  | schedule => (Messenger.schedule (place n limit) call).run
  | delivered report => (layer (place n limit)).delivered report
  | advance ticks => fun s => service (place n limit) { s with now := s.now + ticks }

/-- An action that looks at a message layer, calls operations that are allowed, with
handlers that do no more, and acts on its surroundings as it likes. -/
inductive Uses (n : Neighbours E) (limit : Nat) (allowed : Op → Prop) :
    {α : Type} → StateM (Stage η E) α → Prop where
  | pure {α : Type} (a : α) : Uses n limit allowed (pure a : StateM (Stage η E) α)
  | bind {α β : Type} {x : StateM (Stage η E) α} {f : α → StateM (Stage η E) β}
      (hx : Uses n limit allowed x) (hf : ∀ a, Uses n limit allowed (f a)) :
      Uses n limit allowed (x >>= f)
  | look {α : Type} (view : Messenger Neighbour η → Tick → α) :
      Uses n limit allowed fun s : Stage η E => (view s.layer s.now, s)
  | outside {α : Type} (act : StateM E α) :
      Uses n limit allowed (Scene.outside act : StateM (Stage η E) α)
  | op {op : Op} {call : Handlers η E} (hallowed : allowed op)
      (hcall : ∀ handler input, Uses n limit allowed (call handler input)) :
      Uses n limit allowed (op.run n limit call)

namespace Messenger

/-! ### What all operations keep -/

/-- What holds of a layer all the time. The message whose turn it is may have been
taken out of the queue with arguments still waiting for it. -/
structure Stands (g₀ : Messenger Neighbour η) (turn : Option Nat) (g : Messenger Neighbour η) :
    Prop where
  node : g.node = g₀.node
  table : g.table = g₀.table
  config : g.config = g₀.config
  tidy : g.Tidy
  waits : g.Waits turn

namespace Stands

variable {g₀ g g' : Messenger Neighbour η} {turn : Option Nat} {number : Nat}

theorem minor (h : Stands g₀ turn g) (hminor : Minor g g') : Stands g₀ turn g' where
  node := hminor.node.trans h.node
  table := hminor.table.trans h.table
  config := hminor.config.trans h.config
  tidy := hminor.tidy h.tidy
  waits := hminor.waits h.waits

/-- Any message may have its turn. -/
theorem giveTurn (h : Stands g₀ none g) (turn : Option Nat) : Stands g₀ turn g :=
  { h with
    waits := fun held hheld => ⟨(h.waits held hheld).1, fun _ => (h.waits held hheld).2 nofun⟩ }

/-- Without arguments the turn of a message is over. -/
theorem settle (h : Stands g₀ turn g) (hturn : ∀ m, turn = some m → m = number)
    (hholds : ¬ g.holds number) : Stands g₀ none g := by
  refine { h with waits := fun held hheld => ⟨(h.waits held hheld).1, fun _ => ?_⟩ }
  refine (h.waits held hheld).2 fun hsome => hholds (holds_iff.mpr ⟨held.data, ?_⟩)
  rw [hheld, ← hturn _ hsome]

theorem discard (h : Stands g₀ turn g) (hturn : ∀ m, turn = some m → m = number) :
    Stands g₀ none (g.discard number) := by
  by_cases hholds : g.holds number
  · have hinbox : (g.discard number).inbox = none := by rw [inbox_discard, if_pos hholds]
    refine ⟨?_, ?_, ?_, ?_, fun held hheld => by simp [hinbox] at hheld⟩ <;>
      rw [Messenger.discard, if_pos hholds]
    · exact h.node
    · exact h.table
    · exact h.config
    · exact ⟨h.tidy.queue, h.tidy.levels, h.tidy.locks⟩
  · rw [Messenger.discard, if_neg hholds]
    exact h.settle hturn hholds

/-- So it is once the message is queued again. -/
theorem push (h : Stands g₀ turn g) (hturn : ∀ m, turn = some m → m = number)
    (hlt : number < g₀.table.size) {priority : Priority} (hpriority : priority ≠ .clear) :
    Stands g₀ none (g.push number priority) := by
  have hstands := h.minor (Minor.push number priority)
  refine { hstands with waits := fun held hheld => ⟨(hstands.waits held hheld).1, fun _ => ?_⟩ }
  by_cases hnumber : held.number = number
  · have hlevels : number < g.queue.levels.length := by rwa [h.tidy.levels, h.table]
    rw [Messenger.push, Outbound.level_push hlevels, if_pos hnumber]
    exact Nat.ne_zero_of_lt
      (Nat.lt_of_lt_of_le (Nat.pos_of_ne_zero hpriority) (Nat.le_max_right _ _))
  · exact (hstands.waits held hheld).2 fun hsome => hnumber (hturn _ hsome)

theorem pop (h : Stands g₀ none g) {entry : Entry} {queue : Outbound}
    (hpop : g.queue.pop = some (entry, queue)) :
    Stands g₀ (some entry.number) { g with queue } ∧ entry.number < g₀.table.size := by
  obtain ⟨hqueue, hpriority, hlevel, hlength, hlevels⟩ := h.tidy.queue.pop hpop
  constructor
  · refine ⟨h.node, h.table, h.config, ⟨hqueue, hlength.trans h.tidy.levels, h.tidy.locks⟩, ?_⟩
    refine fun held hheld => ⟨(h.waits held hheld).1, fun hother => ?_⟩
    rw [hlevels, if_neg fun hsame => hother (congrArg some hsame.symm)]
    exact (h.waits held hheld).2 nofun
  · rw [← h.table, ← h.tidy.levels]
    exact Outbound.lt_length_of_level (hlevel ▸ hpriority)

theorem taken (h : Stands g₀ none g) (packet : Bytes) (flags : UInt8) (data : Bytes) :
    Stands g₀ none (g.taken packet flags data) := by
  have hfilled := h.minor (Minor.filled flags)
  rw [Messenger.taken]
  by_cases hadmits : g.Admits flags data
  · rw [onPacket_of_admits hadmits, if_pos rfl]
    refine minor ?_ (Minor.count _)
    obtain ⟨-, ⟨message, hmessage, hsize⟩, -⟩ := hadmits
    -- the arguments are in their place before their message is queued
    obtain ⟨priority, hpriority, hanswer⟩ := answer_data (g := { g.filled flags with
      inbox := some { number := asked flags, data } }) (asked flags) (descriptorFlag ≤ flags.toNat)
    have hlt : asked flags < g₀.table.size := h.table ▸ lt_size_of_get? hmessage
    have hstands : Stands g₀ (some (asked flags)) { g.filled flags with
        inbox := some { number := asked flags, data } } := by
      refine ⟨hfilled.node, hfilled.table, hfilled.config,
        ⟨hfilled.tidy.queue, hfilled.tidy.levels, hfilled.tidy.locks⟩, ?_⟩
      rintro held ⟨⟩
      refine ⟨⟨message, ?_, hsize⟩, fun hother => absurd rfl hother⟩
      show (g.filled flags).table.get? (asked flags) = some message
      rw [hfilled.table, ← h.table, hmessage]
    rw [hanswer]
    exact hstands.push (by simp) hlt hpriority
  · rcases onPacket_of_not_admits hadmits with ⟨event, hpacket⟩ | hpacket <;> rw [hpacket]
    · exact hfilled.minor (Minor.count _)
    · exact (hfilled.minor (Minor.answer _ _ _)).minor (Minor.count _)

theorem post (h : Stands g₀ none g) {priority : Priority}
    (hpost : g.post number priority = .ok g') : Stands g₀ none g' := by
  rcases post_cases hpost with rfl | ⟨-, rfl⟩ | ⟨hpriority, hlt, rfl⟩
  · exact h
  · have hremoved : Stands g₀ (some number) { g with queue := g.queue.remove number } := by
      refine ⟨h.node, h.table, h.config, ⟨h.tidy.queue.remove number, ?_, h.tidy.locks⟩, ?_⟩
      · rw [Outbound.length_levels_remove, h.tidy.levels]
      · refine fun held hheld => ⟨(h.waits held hheld).1, fun hother => ?_⟩
        rw [Outbound.level_remove, if_neg fun hsame => hother (congrArg some hsame.symm)]
        exact (h.waits held hheld).2 nofun
    exact (hremoved.minor (Minor.unlock number)).discard (by simp)
  · exact h.push nofun (h.table ▸ hlt) hpriority

end Stands

/-! ### What an operation does -/

section Shapes

variable {n : Neighbours E} {limit : Nat} {call : Handlers η E} {s : Stage η E}

/-- What can happen when a packet is received. -/
inductive Receives (packet : Bytes) (s : Stage η E) : Stage η E → Prop where
  | malformed (hpacket : ∀ flags data, packet ≠ Tag.message :: flags :: data) :
      Receives packet s (s.change (·.count .rxError))
  | unseen {flags : UInt8} {data : Bytes} {around : E}
      (hpacket : packet = Tag.message :: flags :: data) :
      Receives packet s { s.change (·.taken packet flags data) with around }
  | seen {flags : UInt8} {data : Bytes} {around : E} {answer : Except LayerError Nat}
      (hpacket : packet = Tag.message :: flags :: data) (who : Neighbour) :
      Receives packet s ((s.change (·.taken packet flags data)).meet around
        (.contact who (.recv packet answer)))

theorem ensureInitialized_run {links : Links Neighbour} (hlinks : s.layer.node.links = some links) :
    ((place n limit).ensureInitialized Messenger.node).run s = (.ok (), s) := by
  refine Site.ensureInitialized_run_ok (get_run n limit s) ?_
  rw [Node.isInitialized, hlinks]
  rfl

variable (n limit s) in
/-- Looking for the parent only asks whether it is alive. -/
theorem parent?_run {links : Links Neighbour} (hlinks : s.layer.node.links = some links) :
    ∃ (around : E) (found : Option Neighbour), ((place n limit).parent? Messenger.node).run s =
      (.ok (found.map (place n limit).layer), { s with around }) := by
  have hlinked : s.layer.node.linked = .ok links := by rw [Node.linked, hlinks]
  rw [Site.parent?, bind_run_ok (lift_run (get_run n limit s)), bind_run_ok (answer_run hlinked)]
  cases hparent : links.parent with
  | none => exact ⟨s.around, none, rfl⟩
  | some who =>
      simp only
      rw [bind_run_ok (lift_run (x := (place n limit).alive who) rfl)]
      cases ((n.alive who) s.around).1 with
      | false => exact ⟨_, none, rfl⟩
      | true => exact ⟨_, some who, rfl⟩

variable (n limit) in
theorem receives_recv {g₀ : Messenger Neighbour η} {links : Links Neighbour}
    (hlinks : g₀.node.links = some links) (h : Stands g₀ none s.layer) (packet : Bytes) :
    Receives packet s ((recv (place n limit) packet).run s).2 := by
  unfold recv
  rw [bind_run_ok (ensureInitialized_run (h.node ▸ hlinks))]
  rcases packet with _ | ⟨tag, _ | ⟨flags, data⟩⟩
  · exact .malformed (by simp)
  · exact .malformed (by simp)
  simp only
  by_cases htag : tag = Tag.message
  · subst htag
    rw [if_pos rfl, bind_run_ok (lift_run (get_run n limit s)),
      bind_run_ok (lift_run (modify_run n limit _ s))]
    have htaken := h.taken (Tag.message :: flags :: data) flags data
    obtain ⟨around, found, hparent⟩ := parent?_run n limit
      (s.change (·.taken (Tag.message :: flags :: data) flags data)) (htaken.node ▸ hlinks)
    change Receives _ s (ExceptT.run (_ >>= _ : ExceptT LayerError (StateM (Stage η E)) Nat)
      (s.change (·.taken (Tag.message :: flags :: data) flags data))).2
    rw [bind_run_ok hparent]
    cases found with
    | none => exact .unseen rfl
    | some who =>
        simp only [Option.map_some]
        generalize hanswer : ((n.layer who).recv (Tag.message :: flags :: data)).run around = found
        obtain ⟨answer, around'⟩ := found
        have hcall : (((place n limit).layer who).recv (Tag.message :: flags :: data)).run
            { s.change (·.taken (Tag.message :: flags :: data) flags data) with around } =
            (answer, (s.change (·.taken (Tag.message :: flags :: data) flags data)).meet around'
              (.contact who (.recv (Tag.message :: flags :: data) answer))) := by
          rw [show answer = _ from (congrArg Prod.fst hanswer).symm,
            show around' = _ from (congrArg Prod.snd hanswer).symm]
          rfl
        cases answer with
        | ok size =>
            rw [bind_run_ok hcall]
            exact .seen rfl who
        | error error =>
            rw [bind_run_error hcall]
            exact .seen rfl who
  · rw [if_neg htag]
    exact .malformed (by simp [htag])

variable (n limit call) in
/-- Scheduling lets the locks run out and then sends what is queued. -/
theorem turns_schedule (hchild : s.layer.node.child = .ok .child) :
    Relation.ReflTransGen (Turn n call) (s.change (·.expire s.now))
      ((schedule (place n limit) call).run s).2 := by
  have hrun : ((place n limit).child Messenger.node).run s = (.ok (child n), s) :=
    Site.child_run_ok (get_run n limit s) hchild
  rw [schedule, bind_run_ok hrun, bind_run_ok (lift_run (now_run n limit s)),
    bind_run_ok (lift_run (modify_run n limit _ s)), bind_run_ok (lift_run (get_run n limit _))]
  exact turns_sendQueued _ _ _ _

end Shapes

/-! ### What all operations keep -/

section Keeping

variable {n : Neighbours E} {limit : Nat} {call : Handlers η E} {g₀ : Messenger Neighbour η}
  {s s' : Stage η E}

theorem Emits.minor {flags : Nat} {data : Bytes} {confirmed : Bool} {step : Step}
    (h : Emits n flags data confirmed s step s') : Minor s.layer s'.layer := by
  cases h with
  | full => exact .refl _
  | tooLong => exact .count _
  | sent => exact .count _
  | refused => exact .refl _
  | failed => exact .count _

/-- An action that keeps the layer standing. -/
def Keeps (g₀ : Messenger Neighbour η) {α : Type} (act : StateM (Stage η E) α) : Prop :=
  ∀ s, Stands g₀ none s.layer → Stands g₀ none (act s).2.layer

namespace Stands

/-- The layer stands while a handler runs, since its arguments have been taken out. -/
theorem serving {number : Nat} (h : Stands g₀ (some number) s.layer) (priority : Priority) :
    Stands g₀ none (serving number priority s).layer :=
  minor (h.discard (by simp)) (Minor.of_queue rfl rfl rfl rfl rfl rfl)

theorem invokes {number : Nat} {priority : Priority} {message : Catalog.Message η}
    {output : Option Bytes} (hcall : ∀ handler input, Keeps g₀ (call handler input))
    (h : Stands g₀ (some number) s.layer) (hmessage : s.layer.table.get? number = some message)
    (hinvokes : Invokes call number priority s output s') : Stands g₀ none s'.layer := by
  cases hinvokes with
  | unknown hunknown => simp [hmessage] at hunknown
  | unhandled => exact h.discard (by simp)
  | @handled _ handler _ _ _ _ hrun =>
      have hafter := hcall handler (input s.layer number) _ (h.serving priority)
      rw [hrun] at hafter
      exact hafter.minor (Minor.of_queue rfl rfl rfl rfl rfl rfl)

variable {entry : Entry} {step : Step} {message : Catalog.Message η}

theorem describes (h : Stands g₀ (some entry.number) s.layer) (hlt : entry.number < g₀.table.size)
    (hdescribes : Describes n entry message s step s') :
    Stands g₀ (if step = .stalled then some entry.number else none) s'.layer := by
  cases hdescribes with
  | stalled hemits => exact h.minor hemits.minor
  | done hemits hstep =>
      rw [if_neg hstep]
      refine ((h.minor hemits.minor).minor (Minor.unlock entry.number)).push (by simp) hlt ?_
      split <;> decide

theorem queries (h : Stands g₀ (some entry.number) s.layer) (hlt : entry.number < g₀.table.size)
    (hqueries : Queries n entry s step s') :
    Stands g₀ (if step = .stalled then some entry.number else none) s'.layer := by
  cases hqueries with
  | held =>
      refine h.push (by simp) hlt ?_
      split <;> decide
  | sent hholds hemits =>
      exact ((h.settle (by simp) hholds).minor hemits.minor).minor (Minor.arm _ _ _)
  | unsent hholds hemits hstep =>
      exact ((h.settle (by simp) hholds).minor hemits.minor).giveTurn _

theorem supplies (hcall : ∀ handler input, Keeps g₀ (call handler input))
    (h : Stands g₀ (some entry.number) s.layer)
    (hmessage : s.layer.table.get? entry.number = some message)
    (hsupplies : Supplies n call entry message (released entry s) step s') :
    Stands g₀ (if step = .stalled then some entry.number else none) s'.layer := by
  have hminor : Minor s.layer (released entry s).layer := by
    rw [released]
    split
    · exact Minor.unlock _
    · exact Minor.refl _
  have hreleased := h.minor hminor
  rw [← hminor.table] at hmessage
  cases hsupplies with
  | crowded =>
      exact (hreleased.minor (Minor.count _)).discard (by simp)
  | silent _ _ hinvokes =>
      exact hreleased.invokes (s := probed (released entry s) _ _) hcall hmessage hinvokes
  | misfit _ _ hinvokes =>
      exact minor (hreleased.invokes (s := probed (released entry s) _ _) hcall hmessage hinvokes)
        (Minor.count _)
  | answered _ _ hinvokes hemits =>
      have hinvoked :=
        hreleased.invokes (s := probed (released entry s) _ _) hcall hmessage hinvokes
      exact (hinvoked.minor hemits.minor).giveTurn _
  | updated _ _ hinvokes hemits =>
      have hinvoked :=
        hreleased.invokes (s := probed (released entry s) _ _) hcall hmessage hinvokes
      exact (hinvoked.minor hemits.minor).minor (Minor.arm _ _ _)

theorem visits (hcall : ∀ handler input, Keeps g₀ (call handler input))
    (h : Stands g₀ (some entry.number) s.layer) (hlt : entry.number < g₀.table.size)
    (hvisits : Visits n call entry s step s') :
    Stands g₀ (if step = .stalled then some entry.number else none) s'.layer := by
  cases hvisits with
  | unknown hunknown =>
      rw [h.table] at hunknown
      exact absurd hlt (Nat.not_lt.mpr (List.getElem?_eq_none_iff.mp hunknown))
  | describes _ _ hdescribes => exact h.describes hlt hdescribes
  | queries _ _ hqueries => exact h.queries hlt hqueries
  | replied hmessage _ hinvokes =>
      exact (h.minor (Minor.unlock _)).invokes (s := s.change (·.unlock entry.number)) hcall
        hmessage hinvokes
  | supplies hmessage _ hsupplies => exact h.supplies hcall hmessage hsupplies

theorem turns (hcall : ∀ handler input, Keeps g₀ (call handler input)) (h : Stands g₀ none s.layer)
    (hturn : Turn n call s s') : Stands g₀ none s'.layer := by
  cases hturn with
  | full => exact h
  | idle => exact h
  | @visit around room entry queue step _ hroom hpop hvisits hstep =>
      obtain ⟨hpopped, hlt⟩ := h.pop hpop
      have hvisited := visits (s := (probed s around room).change ({ · with queue })) hcall hpopped
        hlt hvisits
      rwa [if_neg hstep] at hvisited
  | @putBack around room entry queue s' hroom hpop hvisits =>
      obtain ⟨hpopped, hlt⟩ := h.pop hpop
      have hvisited := visits (s := (probed s around room).change ({ · with queue })) hcall hpopped
        hlt hvisits
      rw [if_pos rfl] at hvisited
      refine hvisited.push (by simp) hlt ?_
      exact (h.tidy.queue.pop hpop).2.1

end Stands

theorem keeps_schedule (hcall : ∀ handler input, Keeps g₀ (call handler input))
    (hchild : g₀.node.child = .ok .child) :
    Keeps g₀ (schedule (place n limit) call).run := by
  intro s h
  have hturns := turns_schedule n limit call (h.node ▸ hchild)
  generalize ((schedule (place n limit) call).run s).2 = s' at hturns ⊢
  induction hturns with
  | refl => exact h.minor (Minor.expire _)
  | tail _ hturn ih => exact ih.turns hcall hturn

variable (n limit) in
theorem keeps_run {links : Links Neighbour} (hlinks : g₀.node.links = some links)
    (hchild : g₀.node.child = .ok .child) (hcall : ∀ handler input, Keeps g₀ (call handler input))
    (op : Op) : Keeps g₀ (op.run n limit call) := by
  intro s h
  cases op with
  | recv packet =>
      have hreceives := receives_recv n limit hlinks h packet
      show Stands g₀ none ((recv (place n limit) packet).run s).2.layer
      generalize ((recv (place n limit) packet).run s).2 = s' at hreceives ⊢
      cases hreceives with
      | malformed => exact h.minor (Minor.count _)
      | unseen => exact h.taken _ _ _
      | seen => exact h.taken _ _ _
  | post number priority =>
      simp only [Op.run]
      split
      · next hpost => exact h.post hpost
      · exact h
  | resend => exact h.minor (Minor.resend _)
  | schedule => exact keeps_schedule hcall hchild s h
  | delivered report => exact h.minor (Minor.onDelivered _)
  | advance ticks => exact h.minor (Minor.expire _)

end Keeping

section Users

variable {n : Neighbours E} {limit : Nat} {allowed : Op → Prop}

theorem stands_begun (table : Catalog.Table η) (config : Config) (parent : Option Neighbour) :
    Stands (begun table config parent) none (begun table config parent) := by
  obtain ⟨hconsistent, hlength⟩ := (Outbound.consistent_new table.size).foldl_push
    (fun first : Catalog.Message η × Nat => (first.2, first.1.priority)) table.messages.zipIdx
  refine ⟨rfl, rfl, rfl, ⟨hconsistent, ?_, List.length_replicate⟩, nofun⟩
  exact hlength.trans (Outbound.length_levels_new _)

/-- A new layer waits for nothing. -/
theorem lock?_begun (table : Catalog.Table η) (config : Config) (parent : Option Neighbour)
    (number : Nat) : (begun table config parent).lock? number = none := by
  have hlocks : (begun table config parent).locks = List.replicate table.size none := rfl
  rw [lock?, hlocks, List.getElem?_replicate]
  split <;> rfl

/-- Whatever an application does, the layer stands. -/
theorem keeps_of_uses (table : Catalog.Table η) (config : Config) (parent : Option Neighbour)
    {α : Type} {act : StateM (Stage η E) α} (h : Uses n limit allowed act) :
    Keeps (begun table config parent) act := by
  induction h with
  | pure a => exact fun s hs => hs
  | bind _ _ hx hf => exact fun s hs => hf _ _ (hx s hs)
  | look view => exact fun s hs => hs
  | outside act => exact fun s hs => hs
  | op _ _ hcall => exact keeps_run n limit rfl rfl hcall _

end Users

end Messenger

end LinkStack.Exchange
