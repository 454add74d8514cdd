import Mathlib.Algebra.GroupWithZero.Nat
import Mathlib.Algebra.Order.BigOperators.Group.List
import Mathlib.Algebra.Order.Group.Nat
import LinkStack.Proofs.Catalog.Finish
import LinkStack.Proofs.Exchange.Agenda
import LinkStack.Proofs.Exchange.Dialogue

/-!
One call of `schedule`, round by round.

Sending goes on until nothing is queued, the child has no room, or a message stalls, and
messages are queued again on the way: arguments after their descriptor, the answer to a
query whose reply is there. A message comes back at a lower priority only, so that the
rounds follow the strict order of the queue, and it comes back once at most: a queued
message can have no more `turns` than two, and every round uses one up. So sending comes
to an end (`Sends`), long before the bound on its rounds.
-/

namespace LinkStack.Exchange

open LinkStack.Catalog (Table Message)

variable {η E : Type}

/-! ### Turns that are left -/

/-- How many turns a message that is queued at a priority can have. -/
def Priority.turns (priority : Priority) : Nat :=
  if priority = clear then 0
  else if descriptionLow ≤ priority ∨ priority = queryArgs then 2 else 1

theorem Priority.turns_le_two (priority : Priority) : priority.turns ≤ 2 := by
  rw [turns]
  split
  · exact Nat.zero_le 2
  · split <;> decide

/-- How many turns the queued messages can have. -/
def Outbound.turns (q : Outbound) : Nat := (q.order.map fun entry => entry.priority.turns).sum

namespace Outbound

variable {q q' : Outbound} {entry : Entry} {number : Nat} {priority : Priority}

theorem turns_le (q : Outbound) : q.turns ≤ 2 * q.size := by
  rw [turns, size]
  induction q.order with
  | nil => exact Nat.le_refl 0
  | cons entry rest ih =>
      have hfirst := entry.priority.turns_le_two
      rw [List.map_cons, List.sum_cons, List.length_cons]
      omega

theorem turns_pop (h : q.pop = some (entry, q')) : q.turns = entry.priority.turns + q'.turns := by
  rw [pop] at h
  cases horder : q.order with
  | nil => simp [horder] at h
  | cons first rest =>
      rw [horder] at h
      obtain ⟨rfl, rfl⟩ : first = entry ∧ _ = q' := by simpa using h
      rw [turns, turns, horder, List.map_cons, List.sum_cons]

theorem turns_push_le (q : Outbound) (number : Nat) (priority : Priority) :
    (q.push number priority).turns ≤ priority.turns + q.turns := by
  by_cases hlt : number < q.levels.length
  · rcases push_cases hlt priority with ⟨-, hpush⟩ | ⟨-, hpush⟩
    · rw [hpush]
      exact Nat.le_add_left _ _
    · have hrest : ((q.order.filter (· ≠ { priority := q.level number, number })).map
          fun entry => entry.priority.turns).sum ≤ q.turns :=
        (List.filter_sublist.map _).sum_le_sum fun _ _ => Nat.zero_le _
      rw [hpush, turns, ((perm_insert _ _).map _).sum_eq, List.map_cons, List.sum_cons]
      exact Nat.add_le_add_left hrest _
  · rw [push_of_length_le (Nat.not_lt.mp hlt)]
    exact Nat.le_add_left _ _

theorem turns_pos (h : priority ≠ .clear) : 0 < priority.turns := by
  rw [Priority.turns, if_neg h]
  split <;> decide

end Outbound

/-! ### Rounds -/

/-- One round of sending: the entry that was taken out of the queue, what came of its turn,
the layer at the start of it, what happened, and the layer at the end. -/
structure Round (η : Type) where
  entry : Entry
  step : Step
  before : Messenger Neighbour η
  moments : List (Instant η)
  after : Messenger Neighbour η

/-- A child that has room whenever it is asked, and takes every packet there is room for. -/
structure Welcoming (n : Neighbours E) : Prop where
  room : ∀ around, ((n.layer .child).capacity around).1 ≠ 0
  takes : ∀ confirmed bytes around room around',
    (n.layer .child).capacity around = (room, around') → bytes.length ≤ room →
    ∃ taken, (Messenger.transmit n confirmed bytes around').1 = .ok taken ∧ bytes.length ≤ taken

namespace Messenger

/-- Sending what is queued, with no bound on the rounds. -/
inductive Sends (n : Neighbours E) (limit : Nat) (call : Handlers η E) :
    Stage η E → List (Round η) → Stage η E → Prop where
  | full {s s' : Stage η E} (hroom : (child n).capacity s = (0, s')) : Sends n limit call s [] s'
  | idle {s s' : Stage η E} {room : Nat} (hroom : (child n).capacity s = (room, s'))
      (hsome : room ≠ 0) (hpop : s'.layer.queue.pop = none) : Sends n limit call s [] s'
  | stall {s s₁ s₂ : Stage η E} {room : Nat} {entry : Entry} {queue : Outbound}
      {moments : List (Instant η)} (hroom : (child n).capacity s = (room, s₁)) (hsome : room ≠ 0)
      (hpop : s₁.layer.queue.pop = some (entry, queue))
      (hperform : perform (place n limit) call (child n) entry (s₁.change ({ · with queue })) =
        (.stalled, s₂))
      (hmoments : s₂.history = (s₁.change ({ · with queue })).history ++ moments) :
      Sends n limit call s [⟨entry, .stalled, { s₁.layer with queue }, moments, s₂.layer⟩]
        (s₂.change (·.push entry.number entry.priority))
  | next {s s₁ s₂ s' : Stage η E} {room : Nat} {entry : Entry} {queue : Outbound} {step : Step}
      {moments : List (Instant η)} {rounds : List (Round η)}
      (hroom : (child n).capacity s = (room, s₁)) (hsome : room ≠ 0)
      (hpop : s₁.layer.queue.pop = some (entry, queue))
      (hperform : perform (place n limit) call (child n) entry (s₁.change ({ · with queue })) =
        (step, s₂)) (hstep : step ≠ .stalled)
      (hmoments : s₂.history = (s₁.change ({ · with queue })).history ++ moments)
      (hrest : Sends n limit call s₂ rounds s') :
      Sends n limit call s
        (⟨entry, step, { s₁.layer with queue }, moments, s₂.layer⟩ :: rounds) s'

/-! ### What a turn does to the queue -/

section Turns

variable {n : Neighbours E} {handle : η → Option Bytes → StateM E (Option Bytes)}
  {s s' s'' : Stage η E} {entry : Entry} {step : Step} {message : Message η} {number : Nat}
  {priority : Priority}

theorem Emits.queue {flags : Nat} {data : Bytes} {confirmed : Bool}
    (h : Emits n flags data confirmed s step s') : s'.layer.queue = s.layer.queue := by
  cases h <;> rfl

theorem Invokes.queue {output : Option Bytes}
    (h : Invokes (.noted handle) number priority s output s') :
    s'.layer.queue = s.layer.queue := by
  cases h with
  | unknown => rfl
  | unhandled => exact queue_discard
  | handled _ _ hcall =>
      obtain ⟨-, rfl⟩ := Prod.mk.inj hcall
      exact queue_discard

theorem Supplies.queue (h : Supplies n (.noted handle) entry message (released entry s) step s') :
    s'.layer.queue = s.layer.queue := by
  have hreleased : (released entry s).layer.queue = s.layer.queue := by
    rw [released]
    split <;> rfl
  refine Eq.trans ?_ hreleased
  cases h with
  | crowded => exact queue_discard
  | silent _ _ hinvokes => exact hinvokes.queue
  | misfit _ _ hinvokes => exact hinvokes.queue
  | answered _ _ hinvokes hemits => exact hemits.queue.trans hinvokes.queue
  | updated _ _ hinvokes hemits => exact hemits.queue.trans hinvokes.queue

/-- A message is queued again at a lower priority, or not at all, and not when it stalls. -/
theorem Visits.queue (h : Visits n (.noted handle) entry s step s') :
    s'.layer.queue = s.layer.queue ∨
    (step ≠ .stalled ∧ ∃ lower : Priority, lower ≠ .clear ∧ lower < entry.priority ∧
      lower.turns < entry.priority.turns ∧
      s'.layer.queue = s.layer.queue.push entry.number lower) := by
  cases h with
  | unknown => exact .inl rfl
  | replied _ _ hinvokes => exact .inl hinvokes.queue
  | supplies _ _ hsupplies => exact .inl hsupplies.queue
  | describes _ hdescription hdescribes =>
      cases hdescribes with
      | stalled hemits => exact .inl hemits.queue
      | @done _ s₁ hemits hstep =>
          have hturns : entry.priority.turns = 2 := by
            rw [Priority.turns, if_neg, if_pos (.inl hdescription)]
            exact Nat.ne_zero_of_lt (Nat.lt_of_lt_of_le (show 0 < Priority.descriptionLow by decide)
              hdescription)
          refine .inr ⟨hstep, if (s₁.layer.unlock entry.number).holds entry.number then .highest
            else .low, ?_, ?_, ?_, ?_⟩
          · split <;> decide
          · refine Nat.lt_of_lt_of_le ?_ hdescription
            split <;> decide
          · rw [hturns]
            split <;> decide
          · rw [← hemits.queue]
            rfl
  | queries _ hquery hqueries =>
      cases hqueries with
      | held =>
          refine .inr ⟨nofun, if s.layer.isLocked entry.number then .queryWait else .highest,
            ?_, ?_, ?_, rfl⟩
          · split <;> decide
          · rw [hquery]
            split <;> decide
          · rw [hquery]
            split <;> decide
      | sent _ hemits => exact .inl hemits.queue
      | unsent _ hemits => exact .inl hemits.queue

theorem Emits.not_stalled {flags : Nat} {data : Bytes} {confirmed : Bool} (hchild : Welcoming n)
    (h : Emits n flags data confirmed s step s') : step ≠ .stalled := by
  cases h with
  | full hroom =>
      have hsome := hchild.room s.around
      rw [hroom] at hsome
      exact absurd rfl hsome
  | refused hroom hfits hanswer hrefused =>
      obtain ⟨taken, htaken, hall⟩ := hchild.takes confirmed _ _ _ _ hroom hfits
      rw [hanswer] at htaken
      rcases hrefused with ⟨short, rfl, hshort⟩ | ⟨layer, rfl⟩
      · obtain rfl := Except.ok.inj htaken
        exact absurd hall (Nat.not_le.mpr hshort)
      · cases htaken
  | _ => nofun

theorem Visits.not_stalled {call : Handlers η E} (hchild : Welcoming n)
    (h : Visits n call entry s step s') : step ≠ .stalled := by
  cases h with
  | unknown => nofun
  | replied => nofun
  | describes _ _ hdescribes =>
      cases hdescribes with
      | stalled hemits => exact hemits.not_stalled hchild
      | done _ hstep => exact hstep
  | queries _ _ hqueries =>
      cases hqueries with
      | held => nofun
      | sent => nofun
      | unsent _ hemits => exact hemits.not_stalled hchild
  | supplies _ _ hsupplies =>
      cases hsupplies with
      | answered _ _ _ hemits => exact hemits.not_stalled hchild
      | _ => nofun

/-- What one turn does to the queue: the entry is gone, and what comes in its place comes
later and has fewer turns. -/
structure Advances (size : Nat) (entry : Entry) (q q' : Outbound) : Prop where
  ordered : q'.Ordered size
  later : ∀ other ∈ q'.order, entry.before other
  turns : q'.turns < q.turns
  level : ∀ number, number ≠ entry.number → q'.level number = q.level number
  own : (q'.level entry.number).turns < (q.level entry.number).turns

theorem Visits.advances {size : Nat} {q queue : Outbound}
    (h : Visits n (.noted handle) entry s step s') (hordered : q.Ordered size)
    (hpop : q.pop = some (entry, queue)) (hqueue : s.layer.queue = queue) :
    Advances size entry q s'.layer.queue := by
  obtain ⟨-, hqueued, hlevel, -, hlevels⟩ := hordered.consistent.pop hpop
  obtain ⟨hpopped, hlater⟩ := hordered.pop hpop
  have hclear : queue.level entry.number = .clear := by rw [hlevels, if_pos rfl]
  have hturns := Outbound.turns_pop hpop
  have hpos := Outbound.turns_pos hqueued
  rcases h.queue with hsame | ⟨-, lower, hlower, hlt, hfewer, hpushed⟩
  · rw [hsame, hqueue]
    refine ⟨hpopped, hlater, by omega, fun m hm => ?_, ?_⟩
    · rw [hlevels, if_neg hm]
    · rw [hclear, hlevel]
      exact hpos
  · rw [hpushed, hqueue]
    have hlevels' : entry.number < queue.levels.length := by
      rw [hpopped.length, ← hordered.length]
      exact Outbound.lt_length_of_level (hlevel ▸ hqueued)
    refine ⟨hpopped.push _ _, fun other hmem => ?_, ?_, fun m hm => ?_, ?_⟩
    · rw [(hpopped.push _ _).mem_iff, Outbound.priority?_eq_some,
        Outbound.level_push hlevels'] at hmem
      by_cases hm : other.number = entry.number
      · rw [if_pos hm, hclear] at hmem
        refine Entry.before_iff.mpr (.inl ?_)
        rw [← hmem.1]
        exact Nat.max_lt.mpr ⟨Nat.zero_lt_of_lt hlt, hlt⟩
      · rw [if_neg hm, ← Outbound.priority?_eq_some, ← hpopped.mem_iff] at hmem
        exact hlater other hmem
    · have hle := queue.turns_push_le entry.number lower
      omega
    · rw [Outbound.level_push_of_ne hm, hlevels, if_neg hm]
    · rw [Outbound.level_push hlevels', if_pos rfl, hclear, hlevel]
      exact (Nat.zero_max lower).symm ▸ hfewer

/-- What is added to the history, with the packets that are handed to the child. -/
def Hands (packets : List Bytes) (s s' : Stage η E) : Prop :=
  ∃ moments, s'.history = s.history ++ moments ∧ handed moments = packets

theorem Hands.handed {packets : List Bytes} (h : Hands packets s s') :
    Exchange.handed s'.history = Exchange.handed s.history ++ packets := by
  obtain ⟨moments, hmoments, rfl⟩ := h
  rw [hmoments, handed_append]

theorem Hands.refl (s : Stage η E) : Hands [] s s := ⟨[], (List.append_nil _).symm, rfl⟩

theorem Hands.change (s : Stage η E) (f : Messenger Neighbour η → Messenger Neighbour η) :
    Hands [] s (s.change f) :=
  ⟨_, rfl, rfl⟩

theorem Hands.probed (s : Stage η E) (around : E) (room : Nat) :
    Hands [] s (probed s around room) :=
  ⟨_, rfl, rfl⟩

theorem Hands.trans {packets packets' : List Bytes} (h : Hands packets s s')
    (h' : Hands packets' s' s'') : Hands (packets ++ packets') s s'' := by
  obtain ⟨moments, hmoments, rfl⟩ := h
  obtain ⟨moments', hmoments', rfl⟩ := h'
  exact ⟨moments ++ moments', by rw [hmoments', hmoments, List.append_assoc], handed_append _ _⟩

theorem Hands.transmission (s : Stage η E) (around : E) (confirmed : Bool) (bytes : Bytes)
    (answer : Except LayerError Nat) :
    Hands [bytes] s (s.meet around (transmission confirmed bytes answer)) :=
  ⟨_, rfl, by simp [Exchange.handed, Notice.packet?]⟩

theorem Hands.called (s : Stage η E) (around : E) (running : Option Nat) (handler : η)
    (input : Option Bytes) : Hands [] s (s.meet around (.called running handler input)) :=
  ⟨_, rfl, rfl⟩

/-- A packet of a message: its descriptor, or its arguments. -/
def IsPacketOf (number : Nat) (bytes : Bytes) : Prop :=
  ∃ data, bytes = packet number data ∨ bytes = packet (number + descriptorFlag) data

/-- At most one packet is handed to the child, and it is one of the message. -/
def HandsOne (number : Nat) (s s' : Stage η E) : Prop :=
  ∃ packets, Hands packets s s' ∧ packets.length ≤ 1 ∧ ∀ bytes ∈ packets, IsPacketOf number bytes

theorem HandsOne.refl (number : Nat) (s : Stage η E) : HandsOne number s s :=
  ⟨[], .refl s, Nat.zero_le 1, nofun⟩

theorem Hands.one (h : Hands [] s s') (h' : HandsOne number s' s'') :
    HandsOne number s s'' := by
  obtain ⟨packets, hpackets, hrest⟩ := h'
  exact ⟨packets, h.trans hpackets, hrest⟩

theorem HandsOne.before (h : HandsOne number s s') (h' : Hands [] s' s'') :
    HandsOne number s s'' := by
  obtain ⟨packets, hpackets, hrest⟩ := h
  exact ⟨packets, List.append_nil packets ▸ hpackets.trans h', hrest⟩

theorem Emits.handsOne {flags : Nat} {data : Bytes} {confirmed : Bool}
    (h : Emits n flags data confirmed s step s')
    (hflags : flags = number ∨ flags = number + descriptorFlag) : HandsOne number s s' := by
  have hsent : ∀ (s : Stage η E) around answer, HandsOne number s
      (s.meet around (transmission confirmed (packet flags data) answer)) := by
    refine fun s around answer => ⟨_, .transmission s around _ _ answer, Nat.le_refl 1, ?_⟩
    rintro bytes hmem
    rw [List.mem_singleton.mp hmem]
    rcases hflags with rfl | rfl
    · exact ⟨data, .inl rfl⟩
    · exact ⟨data, .inr rfl⟩
  cases h with
  | full => exact (Hands.probed s _ _).one (.refl _ _)
  | tooLong => exact (Hands.probed s _ _).one ((Hands.change _ _).one (.refl _ _))
  | sent => exact (Hands.probed s _ _).one ((hsent _ _ _).before (.change _ _))
  | refused => exact (Hands.probed s _ _).one (hsent _ _ _)
  | failed => exact (Hands.probed s _ _).one ((hsent _ _ _).before (.change _ _))

theorem Invokes.hands {output : Option Bytes}
    (h : Invokes (.noted handle) number priority s output s') : Hands [] s s' := by
  cases h with
  | unknown => exact .refl s
  | unhandled => exact .change _ _
  | handled _ _ hcall =>
      obtain ⟨-, rfl⟩ := Prod.mk.inj hcall
      exact (((Hands.change s _).trans (.change _ _)).trans (.called _ _ _ _ _)).trans (.change _ _)

theorem Supplies.handsOne (h : Supplies n (.noted handle) entry message s step s') :
    HandsOne entry.number s s' := by
  cases h with
  | crowded => exact (Hands.probed s _ _).one ((Hands.change _ _).one (.refl _ _))
  | silent _ _ hinvokes => exact (Hands.probed s _ _).one (hinvokes.hands.one (.refl _ _))
  | misfit _ _ hinvokes =>
      exact (Hands.probed s _ _).one (hinvokes.hands.one ((Hands.change _ _).one (.refl _ _)))
  | answered _ _ hinvokes hemits =>
      exact (Hands.probed s _ _).one (hinvokes.hands.one (hemits.handsOne (.inl rfl)))
  | updated _ _ hinvokes hemits =>
      exact (Hands.probed s _ _).one
        (hinvokes.hands.one ((hemits.handsOne (.inl rfl)).before (.change _ _)))

theorem Visits.handsOne (h : Visits n (.noted handle) entry s step s') :
    HandsOne entry.number s s' := by
  cases h with
  | unknown => exact .refl _ _
  | replied _ _ hinvokes => exact (Hands.change s _).one (hinvokes.hands.one (.refl _ _))
  | supplies _ _ hsupplies =>
      have hreleased : HandsOne entry.number (released entry s) s' := hsupplies.handsOne
      rw [released] at hreleased
      split at hreleased
      · exact (Hands.change s _).one hreleased
      · exact hreleased
  | describes _ _ hdescribes =>
      cases hdescribes with
      | stalled hemits => exact hemits.handsOne (.inr rfl)
      | done hemits => exact (hemits.handsOne (.inr rfl)).before (.change _ _)
  | queries _ _ hqueries =>
      cases hqueries with
      | held => exact (Hands.change s _).one (.refl _ _)
      | sent _ hemits => exact (hemits.handsOne (.inl rfl)).before (.change _ _)
      | unsent _ hemits => exact hemits.handsOne (.inl rfl)

end Turns

end Messenger

/-! ### What holds of the rounds -/

/-- In one round at most one packet is handed to the child, one of the message, and the
message is queued again at a lower priority only. -/
structure Round.Sound (round : Round η) : Prop where
  single : (handed round.moments).length ≤ 1
  own : ∀ bytes ∈ handed round.moments, Messenger.IsPacketOf round.entry.number bytes
  lower : round.step ≠ .stalled → ∀ entry ∈ round.after.queue.order,
    entry ∈ round.before.queue.order ∨
      (entry.number = round.entry.number ∧ entry.priority < round.entry.priority)

/-- Rounds that take a queue in order, and no message more often than it has turns. -/
structure Regular (q : Outbound) (rounds : List (Round η)) : Prop where
  later : ∀ entry : Entry, (∀ other ∈ q.order, entry.before other) →
    ∀ round ∈ rounds, entry.before round.entry
  strict : (rounds.map Round.entry).Pairwise fun a b => a.before b
  turns : rounds.length ≤ q.turns
  each : ∀ number, rounds.countP (·.entry.number = number) ≤ (q.level number).turns

namespace Regular

theorem nil (q : Outbound) : Regular q ([] : List (Round η)) :=
  ⟨fun _ _ => List.forall_mem_nil _, .nil, Nat.zero_le _, fun _ => Nat.zero_le _⟩

theorem cons {size : Nat} {q q' queue : Outbound} {round : Round η} {rounds : List (Round η)}
    (hordered : q.Ordered size) (hpop : q.pop = some (round.entry, queue))
    (hadvances : Messenger.Advances size round.entry q q') (h : Regular q' rounds) :
    Regular q (round :: rounds) where
  later entry hbefore := by
    have hfirst : entry.before round.entry :=
      hbefore _ (hordered.mem_iff.mpr (hordered.isFirst hpop).queued)
    rw [List.forall_mem_cons]
    exact ⟨hfirst, h.later entry fun other hmem =>
      Entry.before_trans hfirst (hadvances.later other hmem)⟩
  strict := by
    rw [List.map_cons, List.pairwise_cons, List.forall_mem_map]
    exact ⟨h.later _ hadvances.later, h.strict⟩
  turns := Nat.lt_of_le_of_lt h.turns hadvances.turns
  each number := by
    have hrest := h.each number
    rw [List.countP_cons]
    by_cases hnumber : round.entry.number = number
    · subst hnumber
      rw [if_pos (by simp)]
      exact Nat.lt_of_le_of_lt hrest hadvances.own
    · rw [hadvances.level number (Ne.symm hnumber)] at hrest
      simpa [hnumber] using hrest

end Regular

namespace Messenger

section Rounds

variable {n : Neighbours E} {limit : Nat} {handle : η → Option Bytes → StateM E (Option Bytes)}
  {s s₁ s₂ s' : Stage η E} {entry : Entry} {queue : Outbound} {step : Step} {room : Nat}
  {rounds : List (Round η)}

/-- A probe leaves the layer as it is. -/
theorem layer_capacity (hroom : (child n).capacity s = (room, s₁)) : s₁.layer = s.layer := by
  rw [capacity_run] at hroom
  obtain ⟨-, rfl⟩ := Prod.mk.inj hroom
  rfl

theorem hands_capacity (hroom : (child n).capacity s = (room, s₁)) : Hands [] s s₁ := by
  rw [capacity_run] at hroom
  obtain ⟨-, rfl⟩ := Prod.mk.inj hroom
  exact .probed _ _ _

theorem visits_of_perform {call : Handlers η E}
    (hperform : perform (place n limit) call (child n) entry s = (step, s')) :
    Visits n call entry s step s' := by
  have hvisits := visits_perform n call entry limit s
  rwa [hperform] at hvisits

theorem advances_perform {size : Nat} (hordered : s.layer.queue.Ordered size)
    (hroom : (child n).capacity s = (room, s₁)) (hpop : s₁.layer.queue.pop = some (entry, queue))
    (hperform : perform (place n limit) (Handlers.noted handle) (child n) entry
      (s₁.change ({ · with queue })) = (step, s₂)) :
    Advances size entry s.layer.queue s₂.layer.queue :=
  (visits_of_perform hperform).advances hordered (layer_capacity hroom ▸ hpop) rfl

theorem sound_perform {moments : List (Instant η)}
    (hperform : perform (place n limit) (Handlers.noted handle) (child n) entry s = (step, s'))
    (hmoments : s'.history = s.history ++ moments) :
    Round.Sound ⟨entry, step, s.layer, moments, s'.layer⟩ := by
  have hvisits := visits_of_perform hperform
  obtain ⟨packets, ⟨moments', hmoments', rfl⟩, hsingle, hown⟩ := hvisits.handsOne
  obtain rfl := List.append_cancel_left (hmoments.symm.trans hmoments')
  refine ⟨hsingle, hown, fun hstep other hmem => ?_⟩
  rcases hvisits.queue with hsame | ⟨-, lower, -, hlower, -, hpushed⟩
  · exact .inl (hsame ▸ hmem)
  · simp only at hmem ⊢
    rw [hpushed] at hmem
    by_cases hlt : entry.number < s.layer.queue.levels.length
    · rcases Outbound.push_cases hlt lower with ⟨-, hpush⟩ | ⟨-, hpush⟩
      · exact .inl (hpush ▸ hmem)
      · rw [hpush, (Outbound.perm_insert _ _).mem_iff, List.mem_cons] at hmem
        rcases hmem with rfl | hmem
        · exact .inr ⟨rfl, hlower⟩
        · exact .inl (List.mem_of_mem_filter hmem)
    · rw [Outbound.push_of_length_le (Nat.not_lt.mp hlt)] at hmem
      exact .inl hmem

namespace Sends

theorem regular {size : Nat} (hsends : Sends n limit (Handlers.noted handle) s rounds s')
    (hordered : s.layer.queue.Ordered size) : Regular s.layer.queue rounds := by
  induction hsends with
  | full => exact .nil _
  | idle => exact .nil _
  | stall hroom hsome hpop hperform =>
      have hadvances := advances_perform hordered hroom hpop hperform
      exact .cons hordered (layer_capacity hroom ▸ hpop) hadvances (.nil _)
  | next hroom hsome hpop hperform _ _ _ ih =>
      have hadvances := advances_perform hordered hroom hpop hperform
      exact .cons hordered (layer_capacity hroom ▸ hpop) hadvances (ih hadvances.ordered)

theorem sound (hsends : Sends n limit (Handlers.noted handle) s rounds s') :
    ∀ round ∈ rounds, round.Sound := by
  induction hsends with
  | full => exact List.forall_mem_nil _
  | idle => exact List.forall_mem_nil _
  | stall _ _ _ hperform hmoments =>
      exact List.forall_mem_singleton.mpr (sound_perform hperform hmoments)
  | next _ _ _ hperform _ hmoments _ ih =>
      exact List.forall_mem_cons.mpr ⟨sound_perform hperform hmoments, ih⟩

/-- All packets are handed to the child in rounds. -/
theorem handed (hsends : Sends n limit (Handlers.noted handle) s rounds s') :
    Exchange.handed s'.history =
      Exchange.handed s.history ++ rounds.flatMap fun round => Exchange.handed round.moments := by
  induction hsends with
  | full hroom => simp [(hands_capacity hroom).handed]
  | idle hroom => simp [(hands_capacity hroom).handed]
  | stall hroom _ _ _ hmoments =>
      rw [(Hands.change _ _).handed, hmoments, handed_append, (Hands.change _ _).handed,
        (hands_capacity hroom).handed]
      simp
  | next hroom _ _ _ _ hmoments _ ih =>
      rw [ih, hmoments, handed_append, (Hands.change _ _).handed, (hands_capacity hroom).handed]
      simp

theorem idles (hsends : Sends n limit (Handlers.noted handle) s rounds s') (hchild : Welcoming n) :
    s'.layer.queue.order = [] := by
  induction hsends with
  | @full s _ hroom =>
      rw [capacity_run] at hroom
      exact absurd (Prod.mk.inj hroom).1 (hchild.room s.around)
  | @idle _ s' _ _ _ hpop =>
      rw [Outbound.pop] at hpop
      cases horder : s'.layer.queue.order with
      | nil => rfl
      | cons first rest => simp [horder] at hpop
  | stall _ _ _ hperform => exact absurd rfl ((visits_of_perform hperform).not_stalled hchild)
  | next _ _ _ _ _ _ _ ih => exact ih

end Sends

variable (n limit handle) in
/-- With as many turns as the queue can have, sending comes to an end of its own. -/
theorem sends_sendQueued {size turns : Nat} (hordered : s.layer.queue.Ordered size)
    (hturns : s.layer.queue.turns < turns) (sent : Nat) :
    ∃ rounds s', Sends n limit (Handlers.noted handle) s rounds s' ∧
      sendQueued (place n limit) (Handlers.noted handle) (child n) turns sent s =
        (sent + rounds.countP (·.step = .sent), s') := by
  induction turns generalizing s sent with
  | zero => exact absurd hturns (Nat.not_lt_zero _)
  | succ turns ih =>
      rw [sendQueued]
      generalize hroom : (child n).capacity s = found
      obtain ⟨room, s₁⟩ := found
      rw [bind_run_eq hroom]
      by_cases hfull : room = 0
      · subst hfull
        exact ⟨[], s₁, .full hroom, rfl⟩
      rw [if_neg hfull, bind_run_eq (get_run n limit _)]
      cases hpop : s₁.layer.queue.pop with
      | none => exact ⟨[], s₁, .idle hroom hfull hpop, rfl⟩
      | some popped =>
          obtain ⟨entry, queue⟩ := popped
          simp only
          rw [bind_run_eq (modify_run n limit _ _)]
          generalize hperform : perform (place n limit) (Handlers.noted handle) (child n) entry
            (s₁.change ({ · with queue })) = performed
          obtain ⟨step, s₂⟩ := performed
          rw [bind_run_eq hperform]
          have hadvances := advances_perform hordered hroom hpop hperform
          obtain ⟨_, ⟨moments, hmoments, -⟩, -⟩ := (visits_of_perform hperform).handsOne
          -- the rest of the rounds has fewer turns
          have hrest := fun sent => ih hadvances.ordered
            (Nat.lt_of_lt_of_le hadvances.turns (Nat.le_of_lt_succ hturns)) sent
          cases step with
          | sent =>
              have hgoes : Step.sent ≠ .stalled := by decide
              obtain ⟨rounds, s', hsends, hrun⟩ := hrest (sent + 1)
              refine ⟨_, s', .next hroom hfull hpop hperform hgoes hmoments hsends, ?_⟩
              simp only
              rw [hrun, List.countP_cons]
              simp [Nat.add_assoc, Nat.add_comm]
          | quiet =>
              have hgoes : Step.quiet ≠ .stalled := by decide
              obtain ⟨rounds, s', hsends, hrun⟩ := hrest sent
              refine ⟨_, s', .next hroom hfull hpop hperform hgoes hmoments hsends, ?_⟩
              simp only
              rw [hrun, List.countP_cons]
              simp
          | stalled => exact ⟨_, _, .stall hroom hfull hpop hperform hmoments, rfl⟩

/-- A call of `schedule` is its rounds, after the locks have run out. -/
theorem schedule_run {call : Handlers η E} {sent : Nat} (hchild : s.layer.node.child = .ok .child)
    (h : sendQueued (place n limit) call (child n)
      ((Priority.max + 1) * (s.layer.expire s.now).table.size + limit) 0
      (s.change (·.expire s.now)) = (sent, s')) :
    (schedule (place n limit) call).run s = (.ok sent, s') := by
  have hplace : ((place n limit).child Messenger.node).run s = (.ok (child n), s) :=
    Site.child_run_ok (get_run n limit s) hchild
  rw [schedule, bind_run_ok hplace, bind_run_ok (lift_run (now_run n limit s)),
    bind_run_ok (lift_run (modify_run n limit _ s)), bind_run_ok (lift_run (get_run n limit _))]
  exact lift_run h

end Rounds

/-! ### Reachable queues -/

/-- The queue of one layer is that of another one after some moves. -/
def Requeues (g g' : Messenger Neighbour η) : Prop :=
  Relation.ReflTransGen Outbound.Moved g.queue g'.queue

namespace Requeues

variable {g g' : Messenger Neighbour η}

theorem of_eq (h : g'.queue = g.queue) : Requeues g g' := by
  rw [Requeues, h]

theorem trans {g'' : Messenger Neighbour η} (h : Requeues g g') (h' : Requeues g' g'') :
    Requeues g g'' :=
  Relation.ReflTransGen.trans h h'

theorem of_edits (h : Edits g g') : Requeues g g' := by
  induction h with
  | refl => exact .refl
  | tail _ hedit ih =>
      refine ih.trans ?_
      cases hedit with
      | push number priority => exact .single ⟨.post number priority, rfl⟩
      | remove number => exact .single ⟨.remove number, rfl⟩
      | locks => exact .refl
      | inbox => exact .refl
      | stats => exact .refl

section Rounds

variable {n : Neighbours E} {limit : Nat} {handle : η → Option Bytes → StateM E (Option Bytes)}
  {s s' : Stage η E}

theorem pop {entry : Entry} {queue : Outbound} (h : g.queue.pop = some (entry, queue)) :
    Requeues g { g with queue } :=
  .single ⟨.pop, by rw [Outbound.move, h]⟩

theorem visits {entry : Entry} {step : Step} (h : Visits n (.noted handle) entry s step s') :
    Requeues s.layer s'.layer := by
  rcases h.queue with hsame | ⟨-, lower, -, -, -, hpushed⟩
  · exact of_eq hsame
  · exact .single ⟨.post entry.number lower, hpushed⟩

theorem turn (h : Turn n (.noted handle) s s') : Requeues s.layer s'.layer := by
  cases h with
  | full => exact .refl
  | idle => exact .refl
  | visit _ hpop hvisits => exact (pop hpop).trans (visits hvisits)
  | putBack _ hpop hvisits =>
      exact ((pop hpop).trans (visits hvisits)).trans (of_edits (.push _ _ _))

variable (n limit handle) in
theorem run {g₀ : Messenger Neighbour η} {links : Links Neighbour}
    (hlinks : g₀.node.links = some links) (hchild : g₀.node.child = .ok .child)
    (h : Stands g₀ none s.layer) (op : Op) :
    Requeues s.layer (op.run n limit (.noted handle) s).2.layer := by
  cases op with
  | recv packet =>
      have hreceives := receives_recv n limit hlinks h packet
      change Requeues s.layer ((recv (place n limit) packet).run s).2.layer
      generalize ((recv (place n limit) packet).run s).2 = s' at hreceives ⊢
      cases hreceives with
      | malformed => exact .refl
      | unseen => exact of_edits (.taken _ _ _ _)
      | seen => exact of_edits (.taken _ _ _ _)
  | post number priority =>
      simp only [Op.run]
      split
      · next hpost => exact of_edits (.post hpost)
      · exact .refl
  | resend => exact of_edits (.resend _ _)
  | schedule =>
      have hturns := turns_schedule n limit (Handlers.noted handle) (h.node ▸ hchild)
      change Requeues s.layer ((schedule (place n limit) (Handlers.noted handle)).run s).2.layer
      generalize ((schedule (place n limit) (Handlers.noted handle)).run s).2 = s' at hturns ⊢
      induction hturns with
      | refl => exact of_edits (.expire _ _)
      | tail _ hturn ih => exact ih.trans (turn hturn)
  | delivered report => exact of_edits (.onDelivered _ _)
  | advance ticks => exact of_edits (.expire _ _)

end Rounds

end Requeues

section Reachable

variable {n : Neighbours E} {limit : Nat} {handle : η → Option Bytes → StateM E (Option Bytes)}
  {s : Stage η E}

variable (n limit handle) in
theorem requeues_calls {g₀ : Messenger Neighbour η} {links : Links Neighbour}
    (hlinks : g₀.node.links = some links) (hchild : g₀.node.child = .ok .child) (ops : List Op)
    (h : Stands g₀ none s.layer) :
    Requeues s.layer (Op.calls n limit handle ops s).2.layer ∧
      Stands g₀ none (Op.calls n limit handle ops s).2.layer := by
  induction ops generalizing s with
  | nil => exact ⟨.refl, h⟩
  | cons op ops ih =>
      have hcall : ∀ handler input, Keeps (E := E) g₀ (Handlers.noted handle handler input) :=
        fun handler input s hs => hs
      have hstart : Stands g₀ none ({ s with history := [] } : Stage η E).layer := h
      have hfirst := Requeues.run n limit handle hlinks hchild hstart op
      obtain ⟨hrest, hstands⟩ := ih (keeps_run n limit hlinks hchild hcall op _ hstart)
      exact ⟨hfirst.trans hrest, hstands⟩

variable (n limit handle) in
/-- Whatever has been done with a layer, its queue is ordered. -/
theorem ordered_calls (table : Table η) (config : Config) (parent : Option Neighbour)
    (ops : List Op) (around : E) (now : Tick) :
    (Op.calls n limit handle ops
      ⟨.begun table config parent, around, now, []⟩).2.layer.queue.Ordered
      table.size ∧
    Stands (begun table config parent) none
      (Op.calls n limit handle ops ⟨.begun table config parent, around, now, []⟩).2.layer := by
  obtain ⟨hrequeues, hstands⟩ := requeues_calls n limit handle (s := ⟨.begun table config parent,
    around, now, []⟩) rfl rfl ops (stands_begun table config parent)
  refine ⟨Outbound.Ordered.of_moved ?_ hrequeues, hstands⟩
  show (table.messages.zipIdx.foldl _ (Outbound.new table.size)).Ordered table.size
  generalize table.messages.zipIdx = messages
  have hordered := Outbound.ordered_new table.size
  generalize Outbound.new table.size = q at hordered ⊢
  induction messages generalizing q with
  | nil => exact hordered
  | cons first rest ih => exact ih _ (hordered.push _ _)

end Reachable

end Messenger

/-! ### One call -/

/-- What one call of `schedule` does: it runs to an end of its own, round by round in the
strict order of the queue. -/
structure Drained (n : Neighbours E) (limit : Nat)
    (handle : η → Option Bytes → StateM E (Option Bytes)) (s : Stage η E)
    (rounds : List (Round η)) (s' : Stage η E) : Prop where
  run : Op.schedule.run n limit (.noted handle) s = (.ok (rounds.countP (·.step = .sent)), s')
  sends : Messenger.Sends n limit (.noted handle) (s.change (·.expire s.now)) rounds s'
  strict : (rounds.map Round.entry).Pairwise fun a b =>
    b.priority < a.priority ∨ (a.priority = b.priority ∧ a.number < b.number)
  handed : handed s'.history =
    handed s.history ++ rounds.flatMap fun round => handed round.moments
  sound : ∀ round ∈ rounds, round.Sound
  each : ∀ number, ((rounds.filter (·.entry.number = number)).flatMap fun round =>
    Exchange.handed round.moments).length ≤
      if (s.layer.expire s.now).queue.priority? number = none then 0 else 2
  total : (rounds.flatMap fun round => Exchange.handed round.moments).length ≤
    2 * (s.layer.expire s.now).queued
  empty : Welcoming n → s'.layer.queue.order = []

theorem length_handed_le {rounds : List (Round η)} (h : ∀ round ∈ rounds, round.Sound) :
    (rounds.flatMap fun round => handed round.moments).length ≤ rounds.length := by
  induction rounds with
  | nil => exact Nat.le_refl 0
  | cons round rounds ih =>
      obtain ⟨hround, hrest⟩ := List.forall_mem_cons.mp h
      have hsingle := hround.single
      have hlater := ih hrest
      rw [List.flatMap_cons, List.length_append, List.length_cons]
      omega

section Drained

variable {n : Neighbours E} {limit : Nat} {handle : η → Option Bytes → StateM E (Option Bytes)}
  {s : Stage η E}

theorem drained_schedule {size : Nat} (hchild : s.layer.node.child = .ok .child)
    (hordered : s.layer.queue.Ordered size) (hsize : s.layer.table.size = size) (hpos : 0 < size) :
    ∃ rounds s', Drained n limit handle s rounds s' := by
  have hexpired : (s.layer.expire s.now).queue.Ordered size :=
    hordered.of_moved (Messenger.Requeues.of_edits (.expire s.layer s.now))
  have htable : (s.layer.expire s.now).table = s.layer.table := (Messenger.Minor.expire s.now).table
  have hturns : (s.layer.expire s.now).queue.turns <
      (Priority.max + 1) * (s.layer.expire s.now).table.size + limit := by
    have hqueued : (s.layer.expire s.now).queue.size ≤ size := by
      rw [hexpired.describes.size]
      exact List.countP_le_length.trans_eq List.length_range
    have hle := (s.layer.expire s.now).queue.turns_le
    rw [htable, hsize, Priority.max]
    omega
  obtain ⟨rounds, s', hsends, hrun⟩ := Messenger.sends_sendQueued n limit handle
    (s := s.change (·.expire s.now)) hexpired hturns 0
  have hregular := hsends.regular hexpired
  have hsound := hsends.sound
  refine ⟨rounds, s', ?_, hsends, ?_, ?_, hsound, fun number => ?_, ?_, hsends.idles⟩
  · rw [Nat.zero_add] at hrun
    exact Messenger.schedule_run hchild hrun
  · exact hregular.strict.imp Entry.before_iff.mp
  · rw [hsends.handed, (Messenger.Hands.change _ _).handed, List.append_nil]
  · have hsome : ∀ round ∈ rounds.filter (·.entry.number = number), round.Sound :=
      fun round hmem => hsound round (List.mem_of_mem_filter hmem)
    have hone := length_handed_le hsome
    have heach := hregular.each number
    rw [List.countP_eq_length_filter] at heach
    refine Nat.le_trans (Nat.le_trans hone heach) ?_
    split
    · next hclear =>
        rw [Scene.layer_change, Outbound.priority?_eq_none.mp hclear]
        exact Nat.le_refl 0
    · exact Priority.turns_le_two _
  · have hle := (s.layer.expire s.now).queue.turns_le
    exact Nat.le_trans (length_handed_le hsound) (Nat.le_trans hregular.turns hle)

end Drained

/-- A layer whose handlers and child do not call it drains its queue in order, in
whatever state it is. -/
theorem schedule_drained {draft : Catalog.Draft η} {table : Table η}
    (hsealed : draft.finish = .ok table) (config : Config) (parent : Option Neighbour)
    (n : Neighbours E) (limit : Nat) (handle : η → Option Bytes → StateM E (Option Bytes))
    (ops : List Op) (around : E) (now : Tick) :
    ∃ rounds s', Drained n limit handle
      (Op.calls n limit handle ops ⟨.begun table config parent, around, now, []⟩).2 rounds s' := by
  obtain ⟨hordered, hstands⟩ :=
    Messenger.ordered_calls n limit handle table config parent ops around now
  have hchild : (Op.calls n limit handle ops
      ⟨.begun table config parent, around, now, []⟩).2.layer.node.child = .ok .child := by
    rw [hstands.node]
    rfl
  exact drained_schedule hchild hordered (congrArg Table.size hstands.table)
    (Catalog.Draft.size_of_finish hsealed).1

/-- A descriptor and a query are queued for a catalog of two messages. -/
theorem drained_named : (named "v" 1).finish = .ok (namedTable "v" 1) ∧
    ∃ rounds s', Drained (.ample 256) 0 (fun _ _ => pure (some [0x55]))
      (Op.calls (.ample 256) 0 (fun _ _ => pure (some [0x55]))
        [.post 0 .description, .post 1 .queryArgs]
        ⟨.begun (namedTable "v" 1) {} none, (), 7, []⟩).2 rounds s' :=
  ⟨finish_named, schedule_drained finish_named {} none (.ample 256) 0 _
    [.post 0 .description, .post 1 .queryArgs] () 7⟩

end LinkStack.Exchange
