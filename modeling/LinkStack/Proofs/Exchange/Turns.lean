import LinkStack.Proofs.Exchange.Messenger
import LinkStack.Proofs.Layer.Scene

/-!
What a message layer does when it sends what is queued.

The layer stands among neighbours that do not call back; its handlers are actions on
the whole scene, so that they may call the layer. `Emits`, `Invokes` and `Visits`
list what can happen when the layer sends a packet, runs a handler, or does what a
queued message asks for, each with the calls that are made on the way, and `Turn` is
one round of sending. An invariant of the layer has to be shown for these lists only.
-/

namespace LinkStack.Exchange

open LinkStack.Catalog (Table Message)

/-- What is noted of a message layer: its calls to neighbours, and to handlers with the
message that runs. -/
inductive Event (η : Type) where
  | contact (who : Neighbour) (what : Contact)
  | called (running : Option Nat) (handler : η) (input : Option Bytes)

abbrev Stage (η E : Type) := Scene (Messenger Neighbour η) E (Event η)

/-- What handlers do: they are given arguments, or none, and answer arguments. -/
abbrev Handlers (η E : Type) := η → Option Bytes → StateM (Stage η E) (Option Bytes)

/-- A message that is queued to send its arguments. -/
def Entry.IsArgs (entry : Entry) : Prop :=
  ¬ Priority.descriptionLow ≤ entry.priority ∧ entry.priority ≠ .queryArgs ∧
    entry.priority ≠ .queryWait

namespace Messenger

variable {η E : Type}

abbrev place (n : Neighbours E) (limit : Nat) :
    Site (StateM (Stage η E)) Neighbour (Messenger Neighbour η) :=
  Scene.site n .contact limit

abbrev child (n : Neighbours E) : Layer (StateM (Stage η E)) :=
  (n.layer .child).noted (.contact .child)

/-- A packet is handed to the child, and how that is noted. -/
def transmit (n : Neighbours E) (confirmed : Bool) (bytes : Bytes) :
    StateM E (Except LayerError Nat) :=
  ((if confirmed then (n.layer .child).sendConfirmed else (n.layer .child).send) bytes).run

def transmission (confirmed : Bool) (bytes : Bytes) (answer : Except LayerError Nat) : Event η :=
  .contact .child (if confirmed then .sendConfirmed bytes answer else .send bytes answer)

/-- The child was asked for its capacity. -/
def probed (s : Stage η E) (around : E) (room : Nat) : Stage η E :=
  s.meet around (.contact .child (.capacity room))

section Sending

variable (n : Neighbours E) (flags : Nat) (data : Bytes) (confirmed : Bool)

/-- What can happen when a packet is sent. -/
inductive Emits (s : Stage η E) : Step → Stage η E → Prop where
  | full {around : E} (hroom : (n.layer .child).capacity s.around = (0, around)) :
      Emits s .stalled (probed s around 0)
  | tooLong {around : E} {room : Nat} (hroom : (n.layer .child).capacity s.around = (room, around))
      (hsome : room ≠ 0) (hlong : room < (packet flags data).length) :
      Emits s .quiet ((probed s around room).change (·.count .txDropped))
  | sent {around around' : E} {room taken : Nat}
      (hroom : (n.layer .child).capacity s.around = (room, around))
      (hfits : (packet flags data).length ≤ room)
      (hanswer : transmit n confirmed (packet flags data) around = (.ok taken, around'))
      (htaken : (packet flags data).length ≤ taken) :
      Emits s .sent (((probed s around room).meet around'
        (transmission confirmed (packet flags data) (.ok taken))).change
          (·.count (.txPacket (packet flags data).length)))
  | refused {around around' : E} {room : Nat} {answer : Except LayerError Nat}
      (hroom : (n.layer .child).capacity s.around = (room, around))
      (hfits : (packet flags data).length ≤ room)
      (hanswer : transmit n confirmed (packet flags data) around = (answer, around'))
      (hrefused : (∃ taken, answer = .ok taken ∧ taken < (packet flags data).length) ∨
        ∃ layer, answer = .error (.busy layer)) :
      Emits s .stalled ((probed s around room).meet around'
        (transmission confirmed (packet flags data) answer))
  | failed {around around' : E} {room : Nat} {error : LayerError}
      (hroom : (n.layer .child).capacity s.around = (room, around))
      (hfits : (packet flags data).length ≤ room)
      (hanswer : transmit n confirmed (packet flags data) around = (.error error, around'))
      (herror : ∀ layer, error ≠ .busy layer) :
      Emits s .quiet (((probed s around room).meet around'
        (transmission confirmed (packet flags data) (.error error))).change (·.count .txDropped))

variable {n flags data confirmed}

theorem transmit_run (s : Stage η E) (bytes : Bytes) :
    ((if confirmed then (child n).sendConfirmed else (child n).send) bytes).run s =
      ((transmit n confirmed bytes s.around).1,
        s.meet (transmit n confirmed bytes s.around).2
          (transmission confirmed bytes (transmit n confirmed bytes s.around).1)) := by
  cases confirmed <;> rfl

theorem capacity_run (s : Stage η E) : (child n).capacity s =
    (((n.layer .child).capacity s.around).1,
      probed s ((n.layer .child).capacity s.around).2 ((n.layer .child).capacity s.around).1) :=
  rfl

variable (n flags data confirmed) in
theorem emits_emit (limit : Nat) (s : Stage η E) :
    Emits n flags data confirmed s (emit (place n limit) (child n) flags data confirmed s).1
      (emit (place n limit) (child n) flags data confirmed s).2 := by
  rw [emit, bind_run_eq (capacity_run s)]
  generalize hroom : (n.layer .child).capacity s.around = found
  obtain ⟨room, around⟩ := found
  simp only
  by_cases hnone : room = 0
  · subst hnone
    exact .full hroom
  rw [if_neg hnone]
  by_cases hlong : room < (packet flags data).length
  · rw [if_pos hlong]
    exact .tooLong hroom hnone hlong
  rw [if_neg hlong, bind_run_eq (transmit_run (probed s around room) _)]
  have hfits := Nat.not_lt.mp hlong
  generalize hanswer : transmit n confirmed (packet flags data) (probed s around room).around =
    answered
  obtain ⟨answer, around'⟩ := answered
  simp only
  cases answer with
  | ok taken =>
      by_cases htaken : (packet flags data).length ≤ taken
      · simp only [if_pos htaken]
        exact .sent hroom hfits hanswer htaken
      · simp only [if_neg htaken]
        exact .refused hroom hfits hanswer (.inl ⟨taken, rfl, Nat.not_le.mp htaken⟩)
  | error error =>
      cases error with
      | busy layer => exact .refused hroom hfits hanswer (.inr ⟨layer, rfl⟩)
      | _ => exact .failed hroom hfits hanswer (by simp)

end Sending

section Handling

variable (call : Handlers η E) (number : Nat) (priority : Priority)

/-- The arguments that the handler of a message is given. -/
def input (g : Messenger Neighbour η) (number : Nat) : Option Bytes :=
  if g.holds number then g.inbox.map (·.data) else none

/-- The layer when the handler of a message is called. -/
def serving (number : Nat) (priority : Priority) (s : Stage η E) : Stage η E :=
  (s.change (·.discard number)).change fun g =>
    { g with running := some number, handlerPriority := priority }

/-- What can happen when the handler of a message is run. -/
inductive Invokes (s : Stage η E) : Option Bytes → Stage η E → Prop where
  | unknown (hunknown : s.layer.table.get? number = none) : Invokes s none s
  | unhandled {message : Message η} (hmessage : s.layer.table.get? number = some message)
      (hnone : message.handler = none) :
      Invokes s (some (List.replicate message.size 0)) (s.change (·.discard number))
  | handled {message : Message η} {handler : η} {output : Option Bytes} {s' : Stage η E}
      (hmessage : s.layer.table.get? number = some message)
      (hhandler : message.handler = some handler)
      (hcall : call handler (input s.layer number) (serving number priority s) = (output, s')) :
      Invokes s output (s'.change fun g => { g with running := none })

variable {call number priority}

theorem get_run (n : Neighbours E) (limit : Nat) (s : Stage η E) :
    (place n limit).get s = (s.layer, s) :=
  rfl

theorem now_run (n : Neighbours E) (limit : Nat) (s : Stage η E) :
    (place n limit).now s = (s.now, s) :=
  rfl

theorem modify_run (n : Neighbours E) (limit : Nat)
    (f : Messenger Neighbour η → Messenger Neighbour η) (s : Stage η E) :
    (place n limit).modify f s = ((), s.change f) :=
  rfl

variable (call number priority) in
theorem invokes_invoke (n : Neighbours E) (limit : Nat) (s : Stage η E) :
    Invokes call number priority s (invoke (place n limit) call number priority s).1
      (invoke (place n limit) call number priority s).2 := by
  rw [invoke, bind_run_eq (get_run n limit s)]
  cases hmessage : s.layer.table.get? number with
  | none => exact .unknown hmessage
  | some message =>
      simp only
      rw [bind_run_eq (modify_run n limit _ s)]
      cases hhandler : message.handler with
      | none => exact .unhandled hmessage hhandler
      | some handler =>
          simp only
          rw [bind_run_eq (modify_run n limit _ _)]
          exact .handled hmessage hhandler rfl

end Handling

section Visiting

/-- A message that is queued to answer in spite of its lock is released first. -/
def released (entry : Entry) (s : Stage η E) : Stage η E :=
  if entry.priority = .unlockArgs then s.change (·.unlock entry.number) else s

variable (n : Neighbours E) (call : Handlers η E) (entry : Entry) (message : Message η)

/-- What can happen when a message that the catalog has sends its descriptor. -/
inductive Describes (s : Stage η E) : Step → Stage η E → Prop where
  | stalled {s' : Stage η E}
      (hemits : Emits n (entry.number + descriptorFlag) message.descriptor.toUTF8 false s .stalled
        s') :
      Describes s .stalled s'
  | done {step : Step} {s' : Stage η E}
      (hemits : Emits n (entry.number + descriptorFlag) message.descriptor.toUTF8 false s step s')
      (hstep : step ≠ .stalled) :
      Describes s step (s'.change fun g => (g.unlock entry.number).push entry.number
        (if (g.unlock entry.number).holds entry.number then .highest else .low))

/-- What can happen when a message is probed for. -/
inductive Queries (s : Stage η E) : Step → Stage η E → Prop where
  | held (hholds : s.layer.holds entry.number) :
      Queries s .quiet (s.change (·.push entry.number
        (if s.layer.isLocked entry.number then .queryWait else .highest)))
  | sent {s' : Stage η E} (hholds : ¬ s.layer.holds entry.number)
      (hemits : Emits n entry.number [] s.layer.config.confirmQueries s .sent s') :
      Queries s .sent (s'.change (·.arm s'.now entry.number .query))
  | unsent {step : Step} {s' : Stage η E} (hholds : ¬ s.layer.holds entry.number)
      (hemits : Emits n entry.number [] s.layer.config.confirmQueries s step s')
      (hstep : step ≠ .sent) :
      Queries s step s'

/-- What can happen when a message sends its arguments. -/
inductive Supplies (s : Stage η E) : Step → Stage η E → Prop where
  | crowded {around : E} {room : Nat} (hroom : (n.layer .child).capacity s.around = (room, around))
      (hcrowded : room < header + message.size) :
      Supplies s .quiet ((probed s around room).change fun g =>
        (g.count .txDropped).discard entry.number)
  | silent {around : E} {room : Nat} {s' : Stage η E}
      (hroom : (n.layer .child).capacity s.around = (room, around))
      (hspace : header + message.size ≤ room)
      (hinvokes : Invokes call entry.number entry.priority (probed s around room) none s') :
      Supplies s .quiet s'
  | misfit {around : E} {room : Nat} {args : Bytes} {s' : Stage η E}
      (hroom : (n.layer .child).capacity s.around = (room, around))
      (hspace : header + message.size ≤ room)
      (hinvokes : Invokes call entry.number entry.priority (probed s around room) (some args) s')
      (hsize : args.length ≠ message.size) :
      Supplies s .quiet (s'.change (·.count .txDropped))
  | answered {around : E} {room : Nat} {args : Bytes} {s' s'' : Stage η E} {step : Step}
      (hroom : (n.layer .child).capacity s.around = (room, around))
      (hspace : header + message.size ≤ room)
      (hinvokes : Invokes call entry.number entry.priority (probed s around room) (some args) s')
      (hemits : Emits n entry.number args false s' step s'')
      (hplain : ¬ (entry.priority = .updateArgs ∧ step = .sent)) :
      Supplies s step s''
  | updated {around : E} {room : Nat} {args : Bytes} {s' s'' : Stage η E}
      (hroom : (n.layer .child).capacity s.around = (room, around))
      (hspace : header + message.size ≤ room)
      (hinvokes : Invokes call entry.number entry.priority (probed s around room) (some args) s')
      (hemits : Emits n entry.number args false s' .sent s'')
      (hupdate : entry.priority = .updateArgs) :
      Supplies s .sent (s''.change (·.arm s''.now entry.number .update))

omit message in
/-- What can happen when a message has its turn. -/
inductive Visits (s : Stage η E) : Step → Stage η E → Prop where
  | unknown (hunknown : s.layer.table.get? entry.number = none) : Visits s .quiet s
  | describes {message : Message η} {step : Step} {s' : Stage η E}
      (hmessage : s.layer.table.get? entry.number = some message)
      (hpriority : Priority.descriptionLow ≤ entry.priority)
      (h : Describes n entry message s step s') : Visits s step s'
  | queries {message : Message η} {step : Step} {s' : Stage η E}
      (hmessage : s.layer.table.get? entry.number = some message)
      (hpriority : entry.priority = .queryArgs)
      (h : Queries n entry s step s') : Visits s step s'
  | replied {message : Message η} {output : Option Bytes} {s' : Stage η E}
      (hmessage : s.layer.table.get? entry.number = some message)
      (hpriority : entry.priority = .queryWait)
      (hinvokes : Invokes call entry.number entry.priority (s.change (·.unlock entry.number))
        output s') : Visits s .quiet s'
  | supplies {message : Message η} {step : Step} {s' : Stage η E}
      (hmessage : s.layer.table.get? entry.number = some message)
      (hpriority : entry.IsArgs)
      (h : Supplies n call entry message (released entry s) step s') : Visits s step s'

variable {n call entry message}

theorem describes_sendDescriptor (limit : Nat) (s : Stage η E) :
    Describes n entry message s
      (sendDescriptor (place n limit) (child n) entry.number message.descriptor.toUTF8 s).1
      (sendDescriptor (place n limit) (child n) entry.number message.descriptor.toUTF8 s).2 := by
  have hemits :=
    emits_emit n (entry.number + descriptorFlag) message.descriptor.toUTF8 false limit s
  rw [sendDescriptor, bind_run]
  generalize emit (place n limit) (child n) (entry.number + descriptorFlag)
    message.descriptor.toUTF8 false s = emitted at hemits ⊢
  obtain ⟨step, s'⟩ := emitted
  simp only at hemits ⊢
  by_cases hstep : step = .stalled
  · subst hstep
    exact .stalled hemits
  · rw [if_pos hstep]
    exact .done hemits hstep

theorem queries_sendQuery (limit : Nat) (s : Stage η E) :
    Queries n entry s (sendQuery (place n limit) (child n) entry.number s).1
      (sendQuery (place n limit) (child n) entry.number s).2 := by
  rw [sendQuery, bind_run_eq (get_run n limit s)]
  by_cases hholds : s.layer.holds entry.number
  · rw [if_pos hholds]
    exact .held hholds
  · have hemits := emits_emit n entry.number [] s.layer.config.confirmQueries limit s
    rw [if_neg hholds, bind_run]
    generalize emit (place n limit) (child n) entry.number [] s.layer.config.confirmQueries s =
      emitted at hemits ⊢
    obtain ⟨step, s'⟩ := emitted
    simp only at hemits ⊢
    by_cases hstep : step = .sent
    · subst hstep
      exact .sent hholds hemits
    · rw [if_neg hstep]
      exact .unsent hholds hemits hstep

theorem supplies_sendArgs (limit : Nat) (s : Stage η E) :
    Supplies n call entry message (released entry s)
      (sendArgs (place n limit) call (child n) entry.number entry.priority message.size s).1
      (sendArgs (place n limit) call (child n) entry.number entry.priority message.size s).2 := by
  -- what follows is the same whether or not the message is released first
  obtain ⟨rest, hrest, hsupplies⟩ : ∃ rest : Unit → StateM (Stage η E) Step,
      sendArgs (place n limit) call (child n) entry.number entry.priority message.size =
        (if entry.priority = .unlockArgs then
          (place n limit).modify (·.unlock entry.number) >>= rest else rest ()) ∧
      ∀ s₀, Supplies n call entry message s₀ (rest () s₀).1 (rest () s₀).2 := by
    refine ⟨_, by rw [sendArgs], fun s₀ => ?_⟩
    dsimp only
    rw [bind_run_eq (capacity_run s₀)]
    generalize hroom : (n.layer .child).capacity s₀.around = found
    obtain ⟨room, around⟩ := found
    simp only
    by_cases hcrowded : room < header + message.size
    · rw [if_pos hcrowded]
      exact .crowded hroom hcrowded
    have hinvokes :=
      invokes_invoke call entry.number entry.priority n limit (probed s₀ around room)
    have hspace := Nat.not_lt.mp hcrowded
    rw [if_neg hcrowded, bind_run]
    generalize invoke (place n limit) call entry.number entry.priority (probed s₀ around room) =
      invoked at hinvokes ⊢
    obtain ⟨output, s₁⟩ := invoked
    simp only at hinvokes ⊢
    cases output with
    | none => exact .silent hroom hspace hinvokes
    | some args =>
        simp only
        by_cases hsize : args.length = message.size
        · have hemits := emits_emit n entry.number args false limit s₁
          rw [if_neg (Decidable.not_not.mpr hsize), bind_run]
          generalize emit (place n limit) (child n) entry.number args false s₁ =
            emitted at hemits ⊢
          obtain ⟨step, s₂⟩ := emitted
          simp only at hemits ⊢
          by_cases hupdate : entry.priority = .updateArgs ∧ step = .sent
          · rw [if_pos hupdate, bind_run_eq (now_run n limit s₂)]
            obtain ⟨hpriority, rfl⟩ := hupdate
            exact .updated hroom hspace hinvokes hemits hpriority
          · rw [if_neg hupdate]
            exact .answered hroom hspace hinvokes hemits hupdate
        · rw [if_pos hsize]
          exact .misfit hroom hspace hinvokes hsize
  rw [hrest, released]
  split
  · rw [bind_run_eq (modify_run n limit _ s)]
    exact hsupplies _
  · exact hsupplies _

variable (n call entry) in
theorem visits_perform (limit : Nat) (s : Stage η E) :
    Visits n call entry s (perform (place n limit) call (child n) entry s).1
      (perform (place n limit) call (child n) entry s).2 := by
  rw [perform, bind_run_eq (get_run n limit s)]
  cases hmessage : s.layer.table.get? entry.number with
  | none => exact .unknown hmessage
  | some message =>
      simp only
      by_cases hdescribe : Priority.descriptionLow ≤ entry.priority
      · rw [if_pos hdescribe]
        exact .describes hmessage hdescribe (describes_sendDescriptor limit s)
      rw [if_neg hdescribe]
      by_cases hquery : entry.priority = .queryArgs
      · rw [if_pos hquery]
        exact .queries hmessage hquery (queries_sendQuery limit s)
      rw [if_neg hquery]
      by_cases hwait : entry.priority = .queryWait
      · rw [if_pos hwait, bind_run_eq (modify_run n limit _ s), bind_run]
        exact .replied hmessage hwait (invokes_invoke call entry.number entry.priority n limit _)
      · rw [if_neg hwait]
        exact .supplies hmessage ⟨hdescribe, hquery, hwait⟩ (supplies_sendArgs limit s)

end Visiting

section Rounds

variable (n : Neighbours E) (call : Handlers η E)

/-- One round of sending what is queued. A message that finds no room is put back. -/
inductive Turn (s : Stage η E) : Stage η E → Prop where
  | full {around : E} (hroom : (n.layer .child).capacity s.around = (0, around)) :
      Turn s (probed s around 0)
  | idle {around : E} {room : Nat} (hroom : (n.layer .child).capacity s.around = (room, around))
      (hpop : s.layer.queue.pop = none) : Turn s (probed s around room)
  | visit {around : E} {room : Nat} {entry : Entry} {queue : Outbound} {step : Step}
      {s' : Stage η E} (hroom : (n.layer .child).capacity s.around = (room, around))
      (hpop : s.layer.queue.pop = some (entry, queue))
      (hvisits : Visits n call entry ((probed s around room).change ({ · with queue })) step s')
      (hstep : step ≠ .stalled) : Turn s s'
  | putBack {around : E} {room : Nat} {entry : Entry} {queue : Outbound} {s' : Stage η E}
      (hroom : (n.layer .child).capacity s.around = (room, around))
      (hpop : s.layer.queue.pop = some (entry, queue))
      (hvisits : Visits n call entry ((probed s around room).change ({ · with queue })) .stalled
        s') : Turn s (s'.change (·.push entry.number entry.priority))

variable {n call}

theorem turns_sendQueued (limit turns sent : Nat) (s : Stage η E) :
    Relation.ReflTransGen (Turn n call) s
      (sendQueued (place n limit) call (child n) turns sent s).2 := by
  induction turns generalizing sent s with
  | zero => exact .refl
  | succ turns ih =>
      rw [sendQueued, bind_run_eq (capacity_run s)]
      generalize hroom : (n.layer .child).capacity s.around = found
      obtain ⟨room, around⟩ := found
      simp only
      by_cases hfull : room = 0
      · subst hfull
        exact .single (.full hroom)
      rw [if_neg hfull, bind_run_eq (get_run n limit _)]
      cases hpop : s.layer.queue.pop with
      | none =>
          rw [show (probed s around room).layer.queue.pop = none from hpop]
          exact .single (.idle hroom hpop)
      | some popped =>
          obtain ⟨entry, queue⟩ := popped
          rw [show (probed s around room).layer.queue.pop = some (entry, queue) from hpop]
          simp only
          rw [bind_run_eq (modify_run n limit _ _), bind_run]
          have hvisits := visits_perform n call entry limit
            ((probed s around room).change ({ · with queue }))
          generalize perform (place n limit) call (child n) entry _ = performed at hvisits ⊢
          obtain ⟨step, s'⟩ := performed
          simp only at hvisits ⊢
          -- a round without room is the last one
          cases step with
          | sent => exact .head (.visit hroom hpop hvisits (by simp)) (ih _ _)
          | quiet => exact .head (.visit hroom hpop hvisits (by simp)) (ih _ _)
          | stalled => exact .single (.putBack hroom hpop hvisits)

end Rounds

end Messenger

end LinkStack.Exchange
