import Mathlib.Data.List.Basic
import LinkStack.Proofs.Exchange.Dialogue

/-!
A message layer over a child with room for everything.

Such a child takes every packet, so that no message is put back and a layer sends all
that is queued. What a message does when it has its turn is then known: there is one
lemma for each kind of turn, and `Poised` describes the layer between them.
-/

namespace LinkStack.Exchange.Messenger

open LinkStack.Catalog (Table Message)

variable {η E : Type} {room limit : Nat} {call : Handlers η E} {s s' : Stage η E}

/-! ### One turn -/

section Turns

/-- What an action has led to: the layer, the surroundings, and what was seen of it. -/
structure Leads (s : Stage η E) (layer : Messenger Neighbour η) (around : E)
    (notices : List (Notice η)) (s' : Stage η E) : Prop where
  layer : s'.layer = layer
  around : s'.around = around
  now : s'.now = s.now
  seen : seen s'.history = seen s.history ++ notices

/-- A handler answers something and acts on the surroundings. -/
def Answers (call : Handlers η E) (g : Messenger Neighbour η) (around : E) (handler : η)
    (input : Option Bytes) (output : Option Bytes) (around' : E) : Prop :=
  ∀ s : Stage η E, s.layer = g → s.around = around →
    call handler input s = (output, s.meet around' (.called g.running handler input))

theorem answers_noted (handle : η → Option Bytes → StateM E (Option Bytes))
    (g : Messenger Neighbour η) (around : E) (handler : η) (input : Option Bytes) :
    Answers (.noted handle) g around handler input (handle handler input around).1
      (handle handler input around).2 := by
  rintro s rfl rfl
  rfl

/-- The layer while the handler of a message runs. -/
def during (g : Messenger Neighbour η) (number : Nat) (priority : Priority) :
    Messenger Neighbour η :=
  { g.discard number with running := some number, handlerPriority := priority }

/-- The layer after the handler of a message has run. -/
def served (g : Messenger Neighbour η) (number : Nat) (priority : Priority) :
    Messenger Neighbour η :=
  { g.discard number with running := none, handlerPriority := priority }

/-- The child takes what there is room for. -/
theorem Emits.ample {flags : Nat} {data : Bytes} {confirmed : Bool} {step : Step}
    (h : Emits (.ample room) flags data confirmed s step s')
    (hroom : (packet flags data).length ≤ room) :
    step = .sent ∧ Leads s (s.layer.count (.txPacket (packet flags data).length)) s.around
      [.handed (packet flags data)] s' := by
  have hpos : 0 < room := Nat.lt_of_lt_of_le (Nat.succ_pos _) hroom
  have hcapacity : ∀ e : E, ((Neighbours.ample room).layer .child).capacity e = (room, e) :=
    fun _ => rfl
  have htransmit : ∀ e : E, transmit (.ample room) confirmed (packet flags data) e =
      (.ok (packet flags data).length, e) := by
    intro e
    cases confirmed <;> rfl
  cases h with
  | full hfull =>
      rw [hcapacity] at hfull
      exact absurd (Prod.mk.inj hfull).1 (Nat.ne_of_gt hpos)
  | tooLong hfound _ hlong =>
      rw [hcapacity] at hfound
      obtain ⟨rfl, -⟩ := Prod.mk.inj hfound
      exact absurd hroom (Nat.not_le.mpr hlong)
  | sent hfound _ hanswer =>
      rw [hcapacity] at hfound
      obtain ⟨rfl, rfl⟩ := Prod.mk.inj hfound
      rw [htransmit] at hanswer
      obtain ⟨htaken, rfl⟩ := Prod.mk.inj hanswer
      obtain rfl := Except.ok.inj htaken
      exact ⟨rfl, rfl, rfl, rfl, by simp [probed]⟩
  | refused _ _ hanswer hrefused =>
      rw [htransmit] at hanswer
      obtain ⟨rfl, rfl⟩ := Prod.mk.inj hanswer
      rcases hrefused with ⟨taken, htaken, hshort⟩ | ⟨layer, hbusy⟩
      · obtain rfl := Except.ok.inj htaken
        exact absurd hshort (Nat.lt_irrefl _)
      · simp at hbusy
  | failed _ _ hanswer =>
      rw [htransmit] at hanswer
      cases (Prod.mk.inj hanswer).1

theorem Invokes.answers {number : Nat} {priority : Priority} {message : Message η} {handler : η}
    {output output' : Option Bytes} {around : E}
    (hmessage : s.layer.table.get? number = some message)
    (hhandler : message.handler = some handler)
    (hanswers : Answers call (s.layer.during number priority) s.around handler
      (input s.layer number) output' around)
    (h : Invokes call number priority s output s') :
    output = output' ∧ Leads s (s.layer.served number priority) around
      [.called (some number) handler (input s.layer number)] s' := by
  cases h with
  | unknown hunknown => simp [hmessage] at hunknown
  | unhandled hmessage' hnone =>
      obtain rfl : message = _ := Option.some.inj (hmessage.symm.trans hmessage')
      simp [hhandler] at hnone
  | handled hmessage' hhandler' hcall =>
      obtain rfl : message = _ := Option.some.inj (hmessage.symm.trans hmessage')
      obtain rfl : handler = _ := Option.some.inj (hhandler.symm.trans hhandler')
      rw [hanswers (serving number priority s) rfl rfl] at hcall
      obtain ⟨rfl, rfl⟩ := Prod.mk.inj hcall
      exact ⟨rfl, rfl, rfl, rfl, by simp [serving, during]⟩

variable {entry : Entry} {message : Message η} {handler : η} {args : Bytes} {around : E}

variable (limit) in
theorem exists_performed {expected : Step} {Q : Stage η E → Prop}
    (h : ∀ step s', Visits (.ample room) call entry s step s' → step = expected ∧ Q s') :
    ∃ s', perform (place (.ample room) limit) call (child (.ample room)) entry s =
      (expected, s') ∧ Q s' := by
  obtain ⟨hstep, hleads⟩ := h _ _ (visits_perform (.ample room) call entry limit s)
  exact ⟨_, Prod.ext hstep rfl, hleads⟩

theorem Visits.supplying {n : Neighbours E} {step : Step} (h : Visits n call entry s step s')
    (hmessage : s.layer.table.get? entry.number = some message) (hargs : entry.IsArgs) :
    Supplies n call entry message (released entry s) step s' := by
  cases h with
  | unknown hunknown => simp [hmessage] at hunknown
  | describes _ hdescribe => exact absurd hdescribe hargs.1
  | queries _ hquery => exact absurd hquery hargs.2.1
  | replied _ hreply => exact absurd hreply hargs.2.2
  | supplies hmessage' _ hsupplies =>
      obtain rfl : message = _ := Option.some.inj (hmessage.symm.trans hmessage')
      exact hsupplies

variable (room limit call) in
/-- A message asks for its arguments. -/
theorem perform_query (hmessage : s.layer.table.get? entry.number = some message)
    (hpriority : entry.priority = .queryArgs) (hholds : ¬ s.layer.holds entry.number)
    (hroom : header ≤ room) :
    ∃ s', perform (place (.ample room) limit) call (child (.ample room)) entry s = (.sent, s') ∧
      Leads s ((s.layer.count (.txPacket header)).arm s.now entry.number .query) s.around
        [.handed (packet entry.number [])] s' := by
  refine exists_performed limit fun step s' hvisits => ?_
  cases hvisits with
  | unknown hunknown => simp [hmessage] at hunknown
  | describes _ hdescribe =>
      rw [hpriority] at hdescribe
      exact absurd hdescribe (by decide)
  | queries _ _ hqueries =>
      cases hqueries with
      | held hheld => exact absurd hheld hholds
      | @sent s₁ _ hemits =>
          obtain ⟨-, hlayer, haround, hnow, hseen⟩ := hemits.ample hroom
          refine ⟨rfl, ?_, haround, hnow, ?_⟩
          · rw [Scene.layer_change, hlayer, hnow]
            rfl
          · simpa using hseen
      | unsent _ hemits hstep => exact absurd (hemits.ample hroom).1 hstep
  | replied _ hreply =>
      rw [hpriority] at hreply
      exact absurd hreply (by decide)
  | supplies _ hargs => exact absurd hpriority hargs.2.1

variable (limit) in
/-- A message is given the reply to its request. -/
theorem perform_reply (hmessage : s.layer.table.get? entry.number = some message)
    (hpriority : entry.priority = .queryWait) (hhandler : message.handler = some handler)
    {output : Option Bytes} (hanswers : Answers call
      ((s.layer.unlock entry.number).during entry.number .queryWait) s.around handler
      (input s.layer entry.number) output around) :
    ∃ s', perform (place (.ample room) limit) call (child (.ample room)) entry s = (.quiet, s') ∧
      Leads s ((s.layer.unlock entry.number).served entry.number .queryWait) around
        [.called (some entry.number) handler (input s.layer entry.number)] s' := by
  refine exists_performed limit fun step s' hvisits => ?_
  cases hvisits with
  | unknown hunknown => simp [hmessage] at hunknown
  | describes _ hdescribe =>
      rw [hpriority] at hdescribe
      exact absurd hdescribe (by decide)
  | queries _ hquery =>
      rw [hpriority] at hquery
      exact absurd hquery (by decide)
  | replied _ _ hinvokes =>
      rw [hpriority] at hinvokes
      obtain ⟨-, hlayer, haround, hnow, hseen⟩ :=
        hinvokes.answers (s := s.change (·.unlock entry.number)) hmessage hhandler hanswers
      refine ⟨rfl, hlayer, haround, hnow, ?_⟩
      rw [hseen, Scene.history_change, seen_append, seen_cons_changed, seen_nil, List.append_nil]
      rfl
  | supplies _ hargs => exact absurd hpriority hargs.2.2

/-- There is room for the arguments, so the handler is run; without an answer nothing more
happens. -/
theorem Supplies.invoked {step : Step} (h : Supplies (.ample room) call entry message
      (released entry s) step s') (hplain : entry.priority ≠ .unlockArgs)
    (hroom : header + message.size ≤ room) :
    ∃ output s₁, Invokes call entry.number entry.priority (probed s s.around room) output s₁ ∧
      (output = none → step = .quiet ∧ s' = s₁) ∧
      ∀ args, output = some args → args.length = message.size →
        ∃ s₂, Emits (.ample room) entry.number args false s₁ step s₂ ∧
          s' = if entry.priority = .updateArgs ∧ step = .sent then
            s₂.change (·.arm s₂.now entry.number .update) else s₂ := by
  rw [released, if_neg hplain] at h
  have hcapacity : ((Neighbours.ample room).layer .child).capacity s.around =
      (room, s.around) := rfl
  cases h with
  | crowded hfound hcrowded =>
      obtain ⟨rfl, -⟩ := Prod.mk.inj hfound
      exact absurd hroom (Nat.not_le.mpr hcrowded)
  | silent hfound _ hinvokes =>
      obtain ⟨rfl, rfl⟩ := Prod.mk.inj hfound
      exact ⟨none, s', hinvokes, fun _ => ⟨rfl, rfl⟩, by simp⟩
  | misfit hfound _ hinvokes hmisfit =>
      obtain ⟨rfl, rfl⟩ := Prod.mk.inj hfound
      refine ⟨_, _, hinvokes, by simp, fun args hargs hsize => ?_⟩
      obtain rfl := Option.some.inj hargs
      exact absurd hsize hmisfit
  | answered hfound _ hinvokes hemits hstep =>
      obtain ⟨rfl, rfl⟩ := Prod.mk.inj hfound
      refine ⟨_, _, hinvokes, by simp, fun args hargs hsize => ?_⟩
      obtain rfl := Option.some.inj hargs
      exact ⟨s', hemits, (if_neg hstep).symm⟩
  | updated hfound _ hinvokes hemits hupdate =>
      obtain ⟨rfl, rfl⟩ := Prod.mk.inj hfound
      refine ⟨_, _, hinvokes, by simp, fun args hargs hsize => ?_⟩
      obtain rfl := Option.some.inj hargs
      exact ⟨_, hemits, (if_pos ⟨hupdate, rfl⟩).symm⟩

/-- The layer after a message has sent its arguments. -/
def supplied (g : Messenger Neighbour η) (now : Tick) (entry : Entry) (args : Bytes) :
    Messenger Neighbour η :=
  if entry.priority = .updateArgs then
    ((g.served entry.number entry.priority).count
      (.txPacket (packet entry.number args).length)).arm now entry.number .update
  else
    (g.served entry.number entry.priority).count (.txPacket (packet entry.number args).length)

variable (limit) in
/-- A message sends its arguments. -/
theorem perform_args (hmessage : s.layer.table.get? entry.number = some message)
    (hargs : entry.IsArgs) (hplain : entry.priority ≠ .unlockArgs)
    (hhandler : message.handler = some handler) (hroom : header + message.size ≤ room)
    (hanswers : Answers call (s.layer.during entry.number entry.priority) s.around handler
      (input s.layer entry.number) (some args) around)
    (hsize : args.length = message.size) :
    ∃ s', perform (place (.ample room) limit) call (child (.ample room)) entry s = (.sent, s') ∧
      Leads s (s.layer.supplied s.now entry args) around
        [.called (some entry.number) handler (input s.layer entry.number),
          .handed (packet entry.number args)] s' := by
  refine exists_performed limit fun step s' hvisits => ?_
  have hlength : (packet entry.number args).length ≤ room := by
    rw [header] at hroom
    simp only [packet, List.length_cons]
    omega
  obtain ⟨output, s₁, hinvokes, -, hsome⟩ := (hvisits.supplying hmessage hargs).invoked hplain hroom
  obtain ⟨houtput, hlayer, haround, hnow, hseen⟩ :=
    hinvokes.answers (s := probed s _ _) hmessage hhandler hanswers
  obtain ⟨s₂, hemits, rfl⟩ := hsome args houtput hsize
  obtain ⟨rfl, hlayer', haround', hnow', hseen'⟩ := hemits.ample hlength
  refine ⟨rfl, ?_⟩
  by_cases hupdate : entry.priority = .updateArgs
  · rw [if_pos ⟨hupdate, rfl⟩, supplied, if_pos hupdate]
    refine ⟨?_, haround'.trans haround, hnow'.trans hnow, ?_⟩
    · rw [Scene.layer_change, hlayer', hlayer, hnow', hnow]
      rfl
    · simp [hseen', hseen, probed]
  · rw [if_neg fun h => hupdate h.1, supplied, if_neg hupdate]
    refine ⟨?_, haround'.trans haround, hnow'.trans hnow, ?_⟩
    · rw [hlayer', hlayer]
      rfl
    · simp [hseen', hseen, probed]

variable (limit entry) in
/-- A message has nothing to send. -/
theorem perform_silent (hmessage : s.layer.table.get? entry.number = some message)
    (hargs : entry.IsArgs) (hplain : entry.priority ≠ .unlockArgs)
    (hhandler : message.handler = some handler) (hroom : header + message.size ≤ room)
    (hanswers : Answers call (s.layer.during entry.number entry.priority) s.around handler
      (input s.layer entry.number) none around) :
    ∃ s', perform (place (.ample room) limit) call (child (.ample room)) entry s = (.quiet, s') ∧
      Leads s (s.layer.served entry.number entry.priority) around
        [.called (some entry.number) handler (input s.layer entry.number)] s' := by
  refine exists_performed limit fun step s' hvisits => ?_
  obtain ⟨output, s₁, hinvokes, hnone, -⟩ := (hvisits.supplying hmessage hargs).invoked hplain hroom
  obtain ⟨rfl, hlayer, haround, hnow, hseen⟩ :=
    hinvokes.answers (s := probed s _ _) hmessage hhandler hanswers
  obtain ⟨rfl, rfl⟩ := hnone rfl
  exact ⟨rfl, hlayer, haround, hnow, by simpa [probed] using hseen⟩

variable (room limit call entry) in
/-- A message sends its descriptor. -/
theorem perform_description (hmessage : s.layer.table.get? entry.number = some message)
    (hpriority : Priority.descriptionLow ≤ entry.priority)
    (hroom : header + message.descriptor.toUTF8.length ≤ room) :
    ∃ s', perform (place (.ample room) limit) call (child (.ample room)) entry s = (.sent, s') ∧
      Leads s (((s.layer.count (.txPacket (header + message.descriptor.toUTF8.length))).unlock
        entry.number).push entry.number
          (if s.layer.holds entry.number then .highest else .low)) s.around
        [.handed (packet (entry.number + descriptorFlag) message.descriptor.toUTF8)] s' := by
  have hlength : (packet (entry.number + descriptorFlag) message.descriptor.toUTF8).length =
      header + message.descriptor.toUTF8.length := by
    rw [header, packet, List.length_cons, List.length_cons]
    omega
  refine exists_performed limit fun step s' hvisits => ?_
  cases hvisits with
  | unknown hunknown => simp [hmessage] at hunknown
  | describes hmessage' _ hdescribes =>
      obtain rfl : message = _ := Option.some.inj (hmessage.symm.trans hmessage')
      cases hdescribes with
      | stalled hemits => exact absurd (hemits.ample (hlength ▸ hroom)).1 (by decide)
      | @done _ s₁ hemits =>
          obtain ⟨rfl, hlayer, haround, hnow, hseen⟩ := hemits.ample (hlength ▸ hroom)
          refine ⟨rfl, ?_, haround, hnow, ?_⟩
          · rw [hlength] at hlayer
            rw [Scene.layer_change, hlayer]
            rfl
          · simpa using hseen
  | queries _ hquery =>
      rw [hquery] at hpriority
      exact absurd hpriority (by decide)
  | replied _ hreply =>
      rw [hreply] at hpriority
      exact absurd hpriority (by decide)
  | supplies _ hargs => exact absurd hpriority hargs.1

end Turns

/-! ### Sending all that is queued -/

section Draining

variable (room limit call) in
/-- What a message does when it has its turn: the layer and the surroundings after it, and
what was seen of it. -/
def Visited (now : Tick) (entry : Entry) (g : Messenger Neighbour η) (around : E)
    (g' : Messenger Neighbour η) (around' : E) (notices : List (Notice η)) : Prop :=
  ∀ s : Stage η E, s.layer = g → s.around = around → s.now = now →
    ∃ step s', perform (place (.ample room) limit) call (child (.ample room)) entry s =
      (step, s') ∧ step ≠ .stalled ∧ Leads s g' around' notices s'

variable (room limit call) in
/-- The queue empties in so many turns: `P` says what holds of the layer, the surroundings
and what was seen when a number of turns are left. -/
structure Drains (now : Tick) (P : Nat → Messenger Neighbour η → E → List (Notice η) → Prop) :
    Prop where
  idle : ∀ g around notices, P 0 g around notices → g.queue.pop = none
  turn : ∀ k g around notices, P (k + 1) g around notices → ∃ entry queue g' around' more,
    g.queue.pop = some (entry, queue) ∧
    Visited room limit call now entry { g with queue } around g' around' more ∧
    P k g' around' (notices ++ more)

variable {now : Tick} {P : Nat → Messenger Neighbour η → E → List (Notice η) → Prop}

theorem Drains.sendQueued (h : Drains room limit call now P) (hroom : room ≠ 0) {k turns : Nat}
    (count : Nat) (hk : k ≤ turns) (hnow : s.now = now)
    (hstart : P k s.layer s.around (seen s.history)) :
    ∃ s', (sendQueued (place (.ample room) limit) call (child (.ample room)) turns count s).2 = s' ∧
      s'.now = now ∧ P 0 s'.layer s'.around (seen s'.history) := by
  induction turns generalizing k count s with
  | zero =>
      obtain rfl : k = 0 := Nat.le_zero.mp hk
      exact ⟨s, rfl, hnow, hstart⟩
  | succ turns ih =>
      have hcapacity : (child (.ample room)).capacity s = (room, probed s s.around room) := rfl
      rw [Messenger.sendQueued, bind_run_eq hcapacity, if_neg hroom, bind_run_eq (get_run _ _ _)]
      have hprobed : seen (probed s s.around room).history = seen s.history := by
        simp [probed]
      cases k with
      | zero =>
          have hpop : (probed s s.around room).layer.queue.pop = none := h.idle _ _ _ hstart
          rw [hpop]
          exact ⟨probed s s.around room, rfl, hnow, hprobed.symm ▸ hstart⟩
      | succ k =>
          obtain ⟨entry, queue, g', around', more, hpop, hvisited, hnext⟩ := h.turn _ _ _ _ hstart
          rw [show (probed s s.around room).layer.queue.pop = some (entry, queue) from hpop]
          simp only
          rw [bind_run_eq (modify_run _ _ _ _)]
          obtain ⟨step, s₁, hperform, hstep, hlayer, haround, hnow₁, hseen⟩ :=
            hvisited ((probed s s.around room).change ({ · with queue })) rfl rfl hnow
          rw [bind_run_eq hperform]
          have hleft : P k s₁.layer s₁.around (seen s₁.history) := by
            rw [hlayer, haround, hseen]
            simpa [probed] using hnext
          cases step with
          | sent => exact ih _ (Nat.le_of_succ_le_succ hk) (hnow₁.trans hnow) hleft
          | quiet => exact ih _ (Nat.le_of_succ_le_succ hk) (hnow₁.trans hnow) hleft
          | stalled => exact absurd rfl hstep

theorem Drains.schedule (h : Drains room limit call s.now P) (hroom : room ≠ 0)
    (hchild : s.layer.node.child = .ok .child) {k : Nat}
    (hk : k ≤ (Priority.max + 1) * s.layer.table.size)
    (hstart : P k (s.layer.expire s.now) s.around (seen s.history)) :
    ∃ s', ((schedule (place (.ample room) limit) call).run s).2 = s' ∧ s'.now = s.now ∧
      P 0 s'.layer s'.around (seen s'.history) := by
  have hrun : ((place (.ample room) limit).child Messenger.node).run s =
      (.ok (child (.ample room)), s) := Site.child_run_ok (get_run _ limit s) hchild
  rw [Messenger.schedule, bind_run_ok hrun, bind_run_ok (lift_run (now_run _ limit s)),
    bind_run_ok (lift_run (modify_run _ limit _ s)), bind_run_ok (lift_run (get_run _ limit _))]
  refine h.sendQueued (s := s.change (·.expire s.now)) hroom 0 (Nat.le_trans hk ?_) rfl ?_
  · rw [Scene.layer_change, (Minor.expire _).table]
    exact Nat.le_add_right _ _
  · simpa using hstart

end Draining

/-! ### Between the turns -/

section Between

variable {g₀ g : Messenger Neighbour η} {now : Tick} {entry : Entry} {rest : List Entry}
  {inbox : Option Held} {locked : Nat → Prop} {number : Nat} {priority : Priority}

/-- The layer between two turns: what is queued, in order, which arguments are held, and
which messages are locked; the clock stands still. -/
structure Poised (g₀ : Messenger Neighbour η) (now : Tick) (order : List Entry)
    (inbox : Option Held) (locked : Nat → Prop) (g : Messenger Neighbour η) : Prop where
  node : g.node = g₀.node
  table : g.table = g₀.table
  config : g.config = g₀.config
  tidy : g.Tidy
  order : g.queue.order = order
  inbox : g.inbox = inbox
  running : g.running = none
  locked : ∀ m, g.isLocked m ↔ locked m
  since : ∀ m lock, g.lock? m = some lock → lock.since = now

namespace Poised

theorem pop_nil (h : Poised g₀ now [] inbox locked g) : g.queue.pop = none := by
  rw [Outbound.pop, h.order]

theorem pop (h : Poised g₀ now (entry :: rest) inbox locked g) :
    ∃ queue, g.queue.pop = some (entry, queue) ∧
      Poised g₀ now rest inbox locked { g with queue } := by
  have hpop : g.queue.pop = some (entry, ⟨rest, g.queue.levels.set entry.number .clear⟩) := by
    rw [Outbound.pop, h.order]
  obtain ⟨hconsistent, -, -, hlength, -⟩ := h.tidy.queue.pop hpop
  exact ⟨_, hpop, h.node, h.table, h.config,
    ⟨hconsistent, hlength.trans h.tidy.levels, h.tidy.locks⟩, rfl, h.inbox, h.running, h.locked,
    h.since⟩

theorem congr_locked (h : Poised g₀ now rest inbox locked g) {locked' : Nat → Prop}
    (hlocked : ∀ m, locked m ↔ locked' m) : Poised g₀ now rest inbox locked' g :=
  { h with locked := fun m => (h.locked m).trans (hlocked m) }

theorem level (h : Poised g₀ now [] inbox locked g) (number : Nat) :
    g.queue.level number = .clear := by
  refine Decidable.byContradiction fun hqueued => ?_
  obtain ⟨entry, hmem, -⟩ := (h.tidy.queue.exists_mem_iff number).mpr hqueued
  simp [h.order] at hmem

theorem raise (h : Poised g₀ now rest inbox locked g) (number : Nat) (priority : Priority) :
    Poised g₀ now (g.push number priority).queue.order inbox locked (g.push number priority) :=
  ⟨h.node, h.table, h.config, (Minor.push _ _).tidy h.tidy, rfl, h.inbox, h.running, h.locked,
    h.since⟩

/-- The first message that is queued. -/
theorem push (h : Poised g₀ now [] inbox locked g) (hlt : number < g₀.table.size)
    (hpriority : priority ≠ .clear) :
    Poised g₀ now [⟨priority, number⟩] inbox locked (g.push number priority) := by
  have hlevels : number < g.queue.levels.length := by rwa [h.tidy.levels, h.table]
  have horder : (g.queue.push number priority).order = [⟨priority, number⟩] := by
    rcases Outbound.push_cases hlevels priority with ⟨hle, -⟩ | ⟨-, hpush⟩
    · rw [h.level] at hle
      exact absurd (Nat.le_zero.mp hle) hpriority
    · rw [hpush, h.order]
      rfl
  exact horder ▸ h.raise number priority

/-- A message that is not locked may be queued. -/
theorem post (h : Poised g₀ now rest inbox locked g) (hlt : number < g₀.table.size)
    (hpriority : priority ≠ .clear) (hmax : priority ≤ Priority.max) (hfree : ¬ locked number) :
    g.post number priority = .ok (g.push number priority) := by
  have hunlocked : ¬ g.isLocked number := fun hlocked => hfree ((h.locked number).mp hlocked)
  rw [Messenger.post, if_neg (Nat.not_le.mpr (h.table.symm ▸ hlt)),
    if_neg (Nat.not_lt.mpr hmax), if_neg (by simp [h.running]), if_neg hpriority,
    if_neg fun hlocked => hunlocked hlocked.1]

/-- Messages are queued at one priority, one after the other. -/
theorem posts (h : Poised g₀ now g.queue.order inbox locked g) (numbers : List Nat)
    (hnumbers : ∀ number ∈ numbers, number < g₀.table.size ∧ ¬ locked number)
    (hpriority : priority ≠ .clear) (hmax : priority ≤ Priority.max)
    (hlevel : ∀ m, g.queue.level m = .clear ∨ g.queue.level m = priority) :
    ∃ g', numbers.foldlM (fun g number => g.post number priority) g = .ok g' ∧
      Poised g₀ now g'.queue.order inbox locked g' ∧
      ∀ m, g'.queue.level m = if m ∈ numbers then priority else g.queue.level m := by
  induction numbers generalizing g with
  | nil => exact ⟨g, rfl, h, by simp⟩
  | cons number numbers ih =>
      rw [List.forall_mem_cons] at hnumbers
      obtain ⟨⟨hlt, hfree⟩, hrest⟩ := hnumbers
      have hlevels : number < g.queue.levels.length := by rwa [h.tidy.levels, h.table]
      have hpushed : ∀ m, (g.push number priority).queue.level m =
          if m = number then priority else g.queue.level m := by
        intro m
        have hraised : max (g.queue.level number) priority = priority := by
          refine Nat.max_eq_right ?_
          rcases hlevel number with hclear | hsame
          · exact hclear ▸ Nat.zero_le _
          · exact Nat.le_of_eq hsame
        rw [Messenger.push, Outbound.level_push hlevels, hraised]
      obtain ⟨g', hposts, hpoised, hlevel'⟩ := ih (h.raise number priority) hrest (by
        intro m
        rw [hpushed]
        split
        · exact .inr rfl
        · exact hlevel m)
      refine ⟨g', ?_, hpoised, fun m => ?_⟩
      · rw [List.foldlM_cons, h.post hlt hpriority hmax hfree]
        exact hposts
      · rw [hlevel', hpushed]
        by_cases hm : m = number <;> by_cases hmem : m ∈ numbers <;> simp [hm, hmem]

theorem count (h : Poised g₀ now rest inbox locked g) (event : Traffic) :
    Poised g₀ now rest inbox locked (g.count event) :=
  ⟨h.node, h.table, h.config, (Minor.count _).tidy h.tidy, h.order, h.inbox, h.running, h.locked,
    h.since⟩

theorem unlock (h : Poised g₀ now rest inbox locked g) (number : Nat) :
    Poised g₀ now rest inbox (fun m => locked m ∧ m ≠ number) (g.unlock number) := by
  refine ⟨h.node, h.table, h.config, (Minor.unlock _).tidy h.tidy, h.order, h.inbox, h.running,
    fun m => ?_, fun m lock hlock => ?_⟩
  · rw [isLocked, lock?_unlock]
    by_cases hm : m = number
    · simp [hm]
    · rw [if_neg hm, ← h.locked]
      simp [isLocked, hm]
  · rw [lock?_unlock] at hlock
    split at hlock
    · simp at hlock
    · exact h.since m lock hlock

theorem arm (h : Poised g₀ now rest inbox locked g) (hlt : number < g₀.table.size)
    (kind : LockKind) :
    Poised g₀ now rest inbox (fun m => locked m ∨ m = number) (g.arm now number kind) := by
  have hlocks : number < g.locks.length := by rwa [h.tidy.locks, h.table]
  obtain ⟨retries, hlock⟩ : ∃ retries, ∀ m, (g.arm now number kind).lock? m =
      if m = number then some { kind, since := now, retries } else g.lock? m :=
    ⟨_, fun m => lock?_set rfl rfl hlocks⟩
  refine ⟨h.node, h.table, h.config, (Minor.arm _ _ _).tidy h.tidy, h.order, h.inbox, h.running,
    fun m => ?_, fun m lock hsome => ?_⟩
  · rw [isLocked, hlock]
    by_cases hm : m = number
    · simp [hm]
    · rw [if_neg hm, ← h.locked]
      simp [isLocked, hm]
  · rw [hlock] at hsome
    split at hsome
    · rw [← Option.some.inj hsome]
    · exact h.since m lock hsome

theorem holds_iff (h : Poised g₀ now rest inbox locked g) :
    g.holds number ↔ ∃ data, inbox = some { number, data } := by
  rw [Messenger.holds_iff, h.inbox]

/-- The handler of the message whose arguments are held is given them. -/
theorem input (h : Poised g₀ now rest inbox locked g)
    (hinbox : ∀ held, inbox = some held → held.number = number) :
    Messenger.input g number = inbox.map Held.data := by
  rw [Messenger.input, h.inbox]
  cases inbox with
  | none => simp
  | some held =>
      rw [if_pos (h.holds_iff.mpr ⟨held.data, by rw [← hinbox held rfl]⟩)]

/-- Received arguments are those of the message whose handler has run. -/
theorem served (h : Poised g₀ now rest inbox locked g) (number : Nat) (priority : Priority)
    (hinbox : ∀ held, inbox = some held → held.number = number) :
    Poised g₀ now rest none locked (g.served number priority) := by
  have hinbox' : (g.discard number).inbox = none := by
    rw [inbox_discard]
    cases hheld : g.inbox with
    | none => split <;> rfl
    | some held =>
        obtain rfl := hinbox held (h.inbox.symm.trans hheld)
        rw [if_pos (Messenger.holds_iff.mpr ⟨held.data, hheld⟩)]
  have hdiscard : (g.served number priority).node = g.node ∧
      (g.served number priority).config = g.config ∧
      (g.served number priority).queue = g.queue ∧ (g.served number priority).locks = g.locks := by
    rw [Messenger.served, discard]
    split <;> exact ⟨rfl, rfl, rfl, rfl⟩
  obtain ⟨hnode, hconfig, hqueue, hlocks⟩ := hdiscard
  have htable : (g.served number priority).table = g.table := table_discard
  have hlock : ∀ m, (g.served number priority).lock? m = g.lock? m := fun m => by
    rw [lock?, lock?, hlocks]
  refine ⟨hnode.trans h.node, htable.trans h.table, hconfig.trans h.config, ⟨?_, ?_, ?_⟩, ?_,
    hinbox', rfl, fun m => ?_, fun m lock hsome => ?_⟩
  · exact hqueue ▸ h.tidy.queue
  · rw [hqueue, htable, h.tidy.levels]
  · rw [hlocks, htable, h.tidy.locks]
  · rw [hqueue, h.order]
  · rw [isLocked, hlock]
    exact h.locked m
  · exact h.since m lock ((hlock m).symm.trans hsome)

/-- No time has passed, so no lock runs out. -/
theorem expire (h : Poised g₀ now rest inbox locked g)
    (htimeout : (∃ m, locked m) → 0 < g₀.config.queryTimeout) : g.expire now = g := by
  refine List.foldl_fixed' (fun number => ?_) _
  rw [expireLock]
  cases hlock : g.lock? number with
  | none => rfl
  | some lock =>
      have hpositive := htimeout ⟨number, (h.locked number).mp (by simp [isLocked, hlock])⟩
      simp only
      rw [if_pos]
      right
      rw [h.since number lock hlock, h.config, Tick.since, UInt32.sub_self]
      exact hpositive

end Poised

/-! ### Receiving -/

theorem answer_eq (g : Messenger Neighbour η) (number : Nat) (describe : Bool) :
    g.answer number describe true = g.push number (if describe then .description
      else if g.isLocked number then .queryWait else .highest) := by
  rw [answer]
  cases describe <;> cases g.isLocked number <;> rfl

variable {flags : UInt8} {data : Bytes}

theorem toNat_flags (h : number < descriptorFlag) : (UInt8.ofNat number).toNat = number ∧
    (UInt8.ofNat (number + descriptorFlag)).toNat = number + descriptorFlag := by
  rw [descriptorFlag] at h ⊢
  constructor
  · exact UInt8.toNat_ofNat_of_lt' (show number < 256 by omega)
  · exact UInt8.toNat_ofNat_of_lt' (show number + 128 < 256 by omega)

theorem asked_flags (h : number < descriptorFlag) : asked (UInt8.ofNat number) = number ∧
    asked (UInt8.ofNat (number + descriptorFlag)) = number := by
  obtain ⟨hplain, hmarked⟩ := toNat_flags h
  rw [asked, asked, hplain, hmarked, Nat.add_mod_right]
  exact ⟨Nat.mod_eq_of_lt h, Nat.mod_eq_of_lt h⟩

theorem lt_descriptorFlag {table : Table η} (hsize : table.size ≤ Catalog.maxMessages)
    (hlt : number < table.size) : number < descriptorFlag :=
  Nat.lt_trans (Nat.lt_of_lt_of_le hlt hsize) (by decide)

theorem filled_of_lt (hsize : g.table.size ≤ Catalog.maxMessages)
    (hlt : asked flags < g.table.size) : g.filled flags = g := by
  refine if_neg fun hwhole => ?_
  rw [hwhole] at hlt
  exact absurd hsize (Nat.not_le.mpr hlt)

namespace Poised

/-- Arguments are taken in, and queue their message. -/
theorem taken (h : Poised g₀ now [] none locked g) (hsize : g₀.table.size ≤ Catalog.maxMessages)
    {message : Message η} (hmessage : g₀.table.get? (asked flags) = some message)
    (hdata : data ≠ []) (hlength : data.length = message.size) (packet : Bytes) :
    ∃ priority, (priority = if descriptorFlag ≤ flags.toNat then .description
        else if g.isLocked (asked flags) then .queryWait else .highest) ∧
      Poised g₀ now [⟨priority, asked flags⟩] (some { number := asked flags, data }) locked
        (g.taken packet flags data) := by
  have hlt : asked flags < g.table.size := h.table ▸ lt_size_of_get? hmessage
  have hadmits : g.Admits flags data :=
    ⟨hdata, ⟨message, h.table.symm ▸ hmessage, hlength⟩, by simp [h.inbox]⟩
  have hheld : Poised g₀ now [] (some { number := asked flags, data }) locked
      { g with inbox := some { number := asked flags, data } } :=
    ⟨h.node, h.table, h.config, ⟨h.tidy.queue, h.tidy.levels, h.tidy.locks⟩, h.order, rfl,
      h.running, h.locked, h.since⟩
  refine ⟨_, rfl, ?_⟩
  rw [Messenger.taken, onPacket_of_admits hadmits, if_pos rfl,
    filled_of_lt (h.table.symm ▸ hsize) hlt, answer_eq]
  simp only [decide_eq_true_eq]
  refine (hheld.push (h.table ▸ hlt) ?_).count _
  split
  · decide
  · split <;> decide

/-- A request queues its message. -/
theorem asked (h : Poised g₀ now [] none locked g) (hsize : g₀.table.size ≤ Catalog.maxMessages)
    (hplain : flags.toNat < descriptorFlag) (hlt : Messenger.asked flags < g₀.table.size)
    (hfree : ¬ locked (Messenger.asked flags)) (packet : Bytes) :
    Poised g₀ now [⟨.highest, Messenger.asked flags⟩] none locked (g.taken packet flags []) := by
  have haddressee : addressee g.table flags = Messenger.asked flags :=
    Nat.min_eq_left (Nat.le_pred_of_lt (h.table.symm ▸ hlt))
  have hunlocked : g.isLocked (Messenger.asked flags) = false :=
    Bool.eq_false_iff.mpr fun hlocked => hfree ((h.locked _).mp hlocked)
  have hpacket : g.onPacket flags [] = (true, g.push (Messenger.asked flags) .highest) := by
    rw [onPacket_eq, filled_of_lt (h.table.symm ▸ hsize) (h.table.symm ▸ hlt), haddressee, ite_self,
      accept, if_pos rfl]
    simp [answer, Nat.not_le.mpr hplain, hunlocked]
  rw [Messenger.taken, hpacket, if_pos rfl]
  exact (h.push hlt (by decide)).count _

end Poised

theorem node_taken (g : Messenger Neighbour η) (packet : Bytes) (flags : UInt8) (data : Bytes) :
    (g.taken packet flags data).node = g.node := by
  have hfilled := (Minor.filled (g := g) flags).node
  rw [Messenger.taken]
  by_cases hadmits : g.Admits flags data
  · rw [onPacket_of_admits hadmits, if_pos rfl]
    exact (Minor.answer _ _ _).node.trans hfilled
  · rcases onPacket_of_not_admits hadmits with ⟨event, hpacket⟩ | hpacket <;> rw [hpacket]
    · exact hfilled
    · exact (Minor.answer _ _ _).node.trans hfilled

variable (room limit flags data) in
/-- A packet is taken in, and shown to a parent that ignores it. -/
theorem leads_recv {links : Links Neighbour} (hlinks : s.layer.node.links = some links) :
    ∃ s', ((recv (place (.ample room) limit) (Tag.message :: flags :: data)).run s).2 = s' ∧
      Leads s (s.layer.taken (Tag.message :: flags :: data) flags data) s.around [] s' := by
  unfold recv
  rw [bind_run_ok (ensureInitialized_run hlinks)]
  simp only
  rw [if_pos trivial, bind_run_ok (lift_run (get_run _ limit s)),
    bind_run_ok (lift_run (modify_run _ limit _ s))]
  have hlinked : (s.change (·.taken (Tag.message :: flags :: data) flags data)).layer.node.linked =
      .ok links := by
    rw [Scene.layer_change, node_taken, Node.linked, hlinks]
  have hparent : ((place (.ample room) limit).parent? Messenger.node).run
      (s.change (·.taken (Tag.message :: flags :: data) flags data)) =
      (.ok (links.parent.map (place (.ample room) limit).layer),
        s.change (·.taken (Tag.message :: flags :: data) flags data)) := by
    rw [Site.parent?, bind_run_ok (lift_run (get_run _ limit _)), bind_run_ok (answer_run hlinked)]
    cases links.parent <;> rfl
  change ∃ s', (ExceptT.run (_ >>= _ : ExceptT LayerError (StateM (Stage η E)) Nat)
    (s.change (·.taken (Tag.message :: flags :: data) flags data))).2 = s' ∧ _
  rw [bind_run_ok hparent]
  cases links.parent with
  | none =>
      refine ⟨s.change (·.taken (Tag.message :: flags :: data) flags data), rfl, rfl, rfl, rfl, ?_⟩
      simp
  | some who =>
      refine ⟨(s.change (·.taken (Tag.message :: flags :: data) flags data)).meet s.around
        (.contact who (.recv (Tag.message :: flags :: data) (.ok _))), rfl, rfl, rfl, rfl, ?_⟩
      simp

/-! ### Turns of a poised layer -/

section Visits

variable {message : Message η} {handler : η} {around around' : E}

variable (room limit call around) in
theorem Poised.visited_query (h : Poised g₀ now rest none locked g)
    (hmessage : g₀.table.get? entry.number = some message) (hpriority : entry.priority = .queryArgs)
    (hroom : header ≤ room) :
    ∃ g', Visited room limit call now entry g around g' around
        [.handed (packet entry.number [])] ∧
      Poised g₀ now rest none (fun m => locked m ∨ m = entry.number) g' := by
  refine ⟨_, ?_, (h.count (.txPacket header)).arm (lt_size_of_get? hmessage) .query⟩
  rintro s rfl rfl rfl
  have hholds : ¬ s.layer.holds entry.number := by simp [h.holds_iff]
  obtain ⟨s', hperform, hleads⟩ :=
    perform_query room limit call (h.table ▸ hmessage) hpriority hholds hroom
  exact ⟨_, s', hperform, by simp, hleads⟩

variable (limit entry) in
theorem Poised.visited_args (h : Poised g₀ now rest inbox locked g)
    (hinbox : ∀ held, inbox = some held → held.number = entry.number)
    (hmessage : g₀.table.get? entry.number = some message) (hargs : entry.IsArgs)
    (hplain : entry.priority ≠ .unlockArgs) (hhandler : message.handler = some handler)
    (hroom : header + message.size ≤ room)
    (hanswers : Answers call (g.during entry.number entry.priority) around handler
      (inbox.map Held.data) (some data) around') (hsize : data.length = message.size) :
    ∃ g', Visited room limit call now entry g around g' around'
        [.called (some entry.number) handler (inbox.map Held.data),
          .handed (packet entry.number data)] ∧
      Poised g₀ now rest none
        (fun m => locked m ∨ (m = entry.number ∧ entry.priority = .updateArgs)) g' := by
  refine ⟨g.supplied now entry data, ?_, ?_⟩
  · rintro s rfl rfl rfl
    rw [← h.input hinbox] at hanswers ⊢
    obtain ⟨s', hperform, hleads⟩ := perform_args limit (h.table ▸ hmessage) hargs hplain hhandler
      hroom hanswers hsize
    exact ⟨_, s', hperform, by simp, hleads⟩
  · have hserved := (h.served entry.number entry.priority hinbox).count
      (.txPacket (packet entry.number data).length)
    rw [supplied]
    split
    · next hupdate =>
        exact (hserved.arm (lt_size_of_get? hmessage) .update).congr_locked (by simp [hupdate])
    · next hplain => exact hserved.congr_locked (by simp [hplain])

variable (room limit entry) in
theorem Poised.visited_reply
    (h : Poised g₀ now rest (some { number := entry.number, data }) locked g)
    (hmessage : g₀.table.get? entry.number = some message) (hpriority : entry.priority = .queryWait)
    (hhandler : message.handler = some handler) {output : Option Bytes}
    (hanswers : Answers call ((g.unlock entry.number).during entry.number .queryWait) around handler
      (some data) output around') :
    ∃ g', Visited room limit call now entry g around g' around'
        [.called (some entry.number) handler (some data)] ∧
      Poised g₀ now rest none (fun m => locked m ∧ m ≠ entry.number) g' := by
  refine ⟨_, ?_, (h.unlock entry.number).served entry.number .queryWait (by simp)⟩
  rintro s rfl rfl rfl
  have hinput : Messenger.input s.layer entry.number = some data := h.input (by simp)
  rw [← hinput] at hanswers ⊢
  obtain ⟨s', hperform, hleads⟩ := perform_reply limit (h.table ▸ hmessage) hpriority hhandler
    hanswers
  exact ⟨_, s', hperform, by simp, hleads⟩

variable (limit call) in
/-- With nothing queued, nothing happens. -/
theorem Poised.schedule_nil (h : Poised g₀ s.now [] inbox locked s.layer) (hroom : room ≠ 0)
    (hchild : g₀.node.child = .ok .child)
    (htimeout : (∃ m, locked m) → 0 < g₀.config.queryTimeout) :
    ∃ s', ((schedule (place (.ample room) limit) call).run s).2 = s' ∧ s'.now = s.now ∧
      s'.layer = s.layer ∧ s'.around = s.around ∧ seen s'.history = seen s.history := by
  have hdrains : Drains room limit call s.now fun k g around' notices =>
      k = 0 ∧ g = s.layer ∧ around' = s.around ∧ notices = seen s.history := by
    constructor
    · rintro g around' notices ⟨-, rfl, -⟩
      exact h.pop_nil
    · rintro k g around' notices ⟨hk, -⟩
      simp at hk
  obtain ⟨s', hs', hnow, -, hlayer, haround, hseen⟩ := hdrains.schedule hroom (h.node ▸ hchild)
    (Nat.zero_le _) ⟨rfl, h.expire htimeout, rfl, rfl⟩
  exact ⟨s', hs', hnow, hlayer, haround, hseen⟩

/-- With one message queued, it has its turn. -/
theorem Poised.schedule_singleton {locked' : Nat → Prop} {notices : List (Notice η)}
    (h : Poised g₀ s.now [entry] inbox locked s.layer) (hroom : room ≠ 0)
    (hchild : g₀.node.child = .ok .child)
    (htimeout : (∃ m, locked m) → 0 < g₀.config.queryTimeout)
    (hvisited : ∀ g, Poised g₀ s.now [] inbox locked g →
      ∃ g', Visited room limit call s.now entry g s.around g' around' notices ∧
        Poised g₀ s.now [] none locked' g') :
    ∃ s', ((schedule (place (.ample room) limit) call).run s).2 = s' ∧ s'.now = s.now ∧
      Poised g₀ s.now [] none locked' s'.layer ∧ s'.around = around' ∧
      seen s'.history = seen s.history ++ notices := by
  have hdrains : Drains room limit call s.now fun k g around₁ notices₁ =>
      match k with
      | 0 => Poised g₀ s.now [] none locked' g ∧ around₁ = around' ∧
          notices₁ = seen s.history ++ notices
      | 1 => Poised g₀ s.now [entry] inbox locked g ∧ around₁ = s.around ∧
          notices₁ = seen s.history
      | _ => False := by
    refine ⟨fun g _ _ hleft => hleft.1.pop_nil, fun k g around₁ notices₁ hleft => ?_⟩
    match k with
    | 0 =>
        obtain ⟨hpoised, rfl, rfl⟩ := hleft
        obtain ⟨queue, hpop, hpopped⟩ := hpoised.pop
        obtain ⟨g', hvisits, hpoised'⟩ := hvisited _ hpopped
        exact ⟨entry, queue, g', around', notices, hpop, hvisits, hpoised', rfl, rfl⟩
    | k + 1 => exact hleft.elim
  have hsize : 1 ≤ (Priority.max + 1) * s.layer.table.size := by
    have hqueued : s.layer.queue.level entry.number ≠ .clear :=
      (h.tidy.queue.exists_mem_iff _).mp ⟨entry, by simp [h.order], rfl⟩
    have hlt := Outbound.lt_length_of_level hqueued
    rw [h.tidy.levels] at hlt
    exact Nat.mul_pos (Nat.succ_pos _) (Nat.zero_lt_of_lt hlt)
  obtain ⟨s', hs', hnow, hpoised, haround, hseen⟩ := hdrains.schedule (k := 1) hroom
    (h.node ▸ hchild) hsize ⟨(h.expire htimeout).symm ▸ h, rfl, rfl⟩
  exact ⟨s', hs', hnow, hpoised, haround, hseen⟩

end Visits

end Between

end LinkStack.Exchange.Messenger

namespace LinkStack.Exchange.Dialogue

open Messenger

variable {η E : Type} {w : Surroundings η E} {who : Peer} {d : Dialogue η E} {room : Nat}

/-- A layer that is fed a packet sends nothing yet. -/
theorem changes_recv (hw : w.neighbours who = .ample room) {links : Links Neighbour}
    (hlinks : (d.layer who).node.links = some links) (flags : UInt8) (data : Bytes) :
    Changes who d ((d.layer who).taken (Tag.message :: flags :: data) flags data) d.around []
      (d.perform w who (.recv (Tag.message :: flags :: data))) := by
  have hlinks' : (d.stage who).layer.node.links = some links := hlinks
  obtain ⟨s, hs, hlayer, haround, hnow, hseen⟩ :=
    leads_recv room (w.limit who) flags data hlinks'
  have hchanges := changes_perform (w := w) who (.recv (Tag.message :: flags :: data))
    (by rw [performed, hw]; exact hs) hnow
  rwa [handed, hseen, hlayer, haround] at hchanges

end LinkStack.Exchange.Dialogue
