import LinkStack.Proofs.Exchange.Draining
import LinkStack.Proofs.Exchange.Exclusion
import LinkStack.Proofs.Exchange.Replies

/-!
The whole catalog on request.

A request for the whole catalog queues its messages at two priorities, and a message whose
descriptor has been sent is queued a second time, so that the queue changes while it is
sent. What comes out is the plain order of the catalog all the same: `publishing` goes
through the messages one after the other, and one call of `schedule` hands the same packets
to the child, with the same effect on everything around the layer (`Publishes`).
-/

namespace LinkStack.Exchange

open LinkStack.Catalog (Table Message)

variable {η E : Type}

/-! ### The catalog, message by message -/

/-- The text of a descriptor. -/
def textOf (table : Table η) (number : Nat) : Bytes :=
  ((table.get? number).map (·.descriptor.toUTF8)).getD []

/-- What the handler of a message supplies when nothing was received for it; zeros if it
has no handler. -/
def supply (handle : η → Option Bytes → StateM E (Option Bytes)) (table : Table η) (number : Nat) :
    StateM E Bytes :=
  match table.get? number with
  | none => pure []
  | some message =>
    match message.handler with
    | none => pure (List.replicate message.size 0)
    | some handler => do return (← handle handler none).getD []

/-- The child is asked for its room and given a packet. -/
def hand (n : Neighbours E) (bytes : Bytes) : StateM E Unit := do
  let _ ← (n.layer .child).capacity
  let _ ← Messenger.transmit n false bytes

/-- A message is described. -/
def describing (n : Neighbours E) (table : Table η) (number : Nat) : StateM E Unit := do
  let _ ← (n.layer .child).capacity
  hand n (packet (number + descriptorFlag) (textOf table number))

/-- The arguments of a message are supplied. -/
def supplying (n : Neighbours E) (handle : η → Option Bytes → StateM E (Option Bytes))
    (table : Table η) (number : Nat) : StateM E Bytes := do
  let _ ← (n.layer .child).capacity
  let _ ← (n.layer .child).capacity
  let args ← supply handle table number
  hand n (packet number args)
  return args

/-- Messages are described and then supplied, one after the other. The answer is what the
handlers have supplied. -/
def publishing (n : Neighbours E) (handle : η → Option Bytes → StateM E (Option Bytes))
    (table : Table η) (descriptors arguments : List Nat) : StateM E (List Bytes) := do
  descriptors.forM (describing n table)
  let supplied ← arguments.mapM (supplying n handle table)
  let _ ← (n.layer .child).capacity
  return supplied

/-- A child that has room for every packet of a catalog, and takes what there is room for. -/
structure Spacious (n : Neighbours E) (table : Table η) : Prop where
  descriptors : ∀ message ∈ table.messages, ∀ around,
    header + message.descriptor.toUTF8.length ≤ ((n.layer .child).capacity around).1
  arguments : ∀ message ∈ table.messages, ∀ around,
    header + message.size ≤ ((n.layer .child).capacity around).1
  takes : ∀ bytes around room around', (n.layer .child).capacity around = (room, around') →
    bytes.length ≤ room →
    ∃ taken, (Messenger.transmit n false bytes around').1 = .ok taken ∧ bytes.length ≤ taken

/-- Handlers that always supply as many bytes as their message has. -/
def Furnishes (table : Table η) (handle : η → Option Bytes → StateM E (Option Bytes)) : Prop :=
  ∀ message ∈ table.messages, ∀ handler, message.handler = some handler →
    ∀ around, ∃ args around', handle handler none around = (some args, around') ∧
      args.length = message.size

/-- An entry takes its place between those before it and those after it. -/
theorem Outbound.insert_append {entry : Entry} {before after : List Entry}
    (hbefore : ∀ other ∈ before, ¬ entry.before other)
    (hafter : ∀ other ∈ after, entry.before other) :
    insert entry (before ++ after) = before ++ entry :: after := by
  induction before with
  | nil =>
      cases after with
      | nil => rfl
      | cons first rest => exact if_pos (hafter first List.mem_cons_self)
  | cons first rest ih =>
      rw [List.forall_mem_cons] at hbefore
      rw [List.cons_append, insert, if_neg hbefore.1, ih hbefore.2, List.cons_append]

namespace Messenger

/-! ### Mirrored actions -/

/-- What happens around the layer is an action of its own, and certain packets are handed
to the child. -/
structure Mirrors {α : Type} (act : StateM E α) (answer : α) (packets : List Bytes)
    (s s' : Stage η E) : Prop where
  act : act s.around = (answer, s'.around)
  now : s'.now = s.now
  hands : Hands packets s s'

namespace Mirrors

variable {α β : Type} {act : StateM E α} {a : α} {packets packets' : List Bytes}
  {s s' s'' : Stage η E}

protected theorem pure (a : α) (s : Stage η E) : Mirrors (Pure.pure a) a [] s s :=
  ⟨rfl, rfl, .refl s⟩

theorem bind {f : α → StateM E β} {b : β} (h : Mirrors act a packets s s')
    (h' : Mirrors (f a) b packets' s' s'') :
    Mirrors (act >>= f) b (packets ++ packets') s s'' where
  act := by rw [bind_run_eq h.act, h'.act]
  now := h'.now.trans h.now
  hands := h.hands.trans h'.hands

theorem change (h : Mirrors act a packets s s')
    (f : Messenger Neighbour η → Messenger Neighbour η) :
    Mirrors act a packets s (s'.change f) where
  act := h.act
  now := h.now
  hands := List.append_nil packets ▸ h.hands.trans (.change s' f)

theorem probe {n : Neighbours E} {around : E} {room : Nat}
    (hroom : (n.layer .child).capacity s.around = (room, around)) :
    Mirrors (n.layer .child).capacity room [] s (probed s around room) :=
  ⟨hroom, rfl, .probed _ _ _⟩

theorem hand {n : Neighbours E} {bytes : Bytes} {around around' : E} {room : Nat}
    {answer : Except LayerError Nat} (hroom : (n.layer .child).capacity s.around = (room, around))
    (hanswer : transmit n false bytes around = (answer, around')) :
    Mirrors (hand n bytes) () [bytes] s
      ((probed s around room).meet around' (transmission false bytes answer)) := by
  refine ⟨?_, rfl, (Hands.probed _ _ _).trans (.transmission _ _ _ _ _)⟩
  rw [Exchange.hand, bind_run_eq hroom, bind_run_eq hanswer]
  rfl

end Mirrors

section Turns

variable {n : Neighbours E} {handle : η → Option Bytes → StateM E (Option Bytes)} {table : Table η}
  {s s' : Stage η E} {message : Message η} {number : Nat} {step : Step} {priority : Priority}

/-- A packet that there is room for is sent. -/
theorem Emits.spacious (hchild : Spacious n table) {flags : Nat} {data : Bytes}
    (hroom : header + data.length ≤ ((n.layer .child).capacity s.around).1)
    (h : Emits n flags data false s step s') :
    step = .sent ∧ s'.layer = s.layer.count (.txPacket (packet flags data).length) ∧
      Mirrors (hand n (packet flags data)) () [packet flags data] s s' := by
  have hlength : (packet flags data).length = header + data.length := by
    rw [packet, header, List.length_cons, List.length_cons]
    omega
  rw [← hlength] at hroom
  have htakes := hchild.takes (packet flags data) s.around
  cases h with
  | full hfound =>
      rw [hfound] at hroom
      exact absurd hroom (Nat.not_succ_le_zero _)
  | tooLong hfound _ hlong =>
      rw [hfound] at hroom
      exact absurd hroom (Nat.not_le.mpr hlong)
  | sent hfound hfits hanswer =>
      exact ⟨rfl, rfl, (Mirrors.hand hfound hanswer).change _⟩
  | refused hfound hfits hanswer hrefused =>
      obtain ⟨taken, htaken, hall⟩ := htakes _ _ hfound hfits
      rw [hanswer] at htaken
      rcases hrefused with ⟨short, rfl, hshort⟩ | ⟨layer, rfl⟩
      · obtain rfl := Except.ok.inj htaken
        exact absurd hall (Nat.not_le.mpr hshort)
      · cases htaken
  | failed hfound hfits hanswer =>
      obtain ⟨taken, htaken, -⟩ := htakes _ _ hfound hfits
      rw [hanswer] at htaken
      cases htaken

/-- A message that holds no arguments is supplied by its handler. -/
theorem Invokes.furnished {g₀ : Messenger Neighbour η} {rest : List Entry} {output : Option Bytes}
    (hpoised : Poised g₀ s.now rest none (fun _ => False) s.layer)
    (hmessage : g₀.table.get? number = some message) (hhandle : Furnishes g₀.table handle)
    (h : Invokes (.noted handle) number priority s output s') :
    ∃ args, output = some args ∧ args.length = message.size ∧
      Poised g₀ s.now rest none (fun _ => False) s'.layer ∧
      Mirrors (supply handle g₀.table number) args [] s s' := by
  have hmessage' := hmessage
  rw [← hpoised.table] at hmessage'
  cases h with
  | unknown hunknown => simp [hmessage'] at hunknown
  | unhandled hfound hnone =>
      obtain rfl : message = _ := Option.some.inj (hmessage'.symm.trans hfound)
      have hdiscard : s.layer.discard number = s.layer := by
        rw [discard, if_neg (by simp [hpoised.holds_iff])]
      refine ⟨_, rfl, List.length_replicate, ?_, Mirrors.change ⟨?_, rfl, ?_⟩ _⟩
      · rw [Scene.layer_change, hdiscard]
        exact hpoised
      · simp only [supply, hmessage, hnone]
        rfl
      · exact .refl s
  | @handled _ handler _ _ hfound hhandler hcall =>
      obtain rfl : message = _ := Option.some.inj (hmessage'.symm.trans hfound)
      have hempty (held : Held) (hheld : none = some held) : held.number = number := by
        simp at hheld
      have hinput : input s.layer number = none := hpoised.input hempty
      obtain ⟨args, around, hanswer, hlength⟩ :=
        hhandle message (List.mem_of_getElem? hmessage) handler hhandler s.around
      rw [hinput, Handlers.noted] at hcall
      obtain ⟨rfl, rfl⟩ := Prod.mk.inj hcall
      have haround : (serving number priority s).around = s.around := rfl
      rw [haround, hanswer]
      have hmirrors : Mirrors (supply handle g₀.table number) args [] s
          ((serving number priority s).meet around (.called (some number) handler none)) := by
        refine ⟨?_, rfl, ((Hands.change s _).trans (.change _ _)).trans (.called _ _ _ _ _)⟩
        simp only [supply, hmessage, hhandler]
        rw [bind_run_eq hanswer]
        rfl
      exact ⟨args, rfl, hlength, hpoised.served number priority hempty, hmirrors.change _⟩

variable {g₀ : Messenger Neighbour η}

/-- A message that is not queued takes its place between the others. -/
theorem Poised.insert {g : Messenger Neighbour η} {now : Tick} {before after : List Entry}
    {inbox : Option Held} {locked : Nat → Prop} (h : Poised g₀ now (before ++ after) inbox locked g)
    (entry : Entry) (hlt : entry.number < g₀.table.size) (hpriority : entry.priority ≠ .clear)
    (hnew : ∀ other ∈ before ++ after, other.number ≠ entry.number)
    (hbefore : ∀ other ∈ before, ¬ entry.before other)
    (hafter : ∀ other ∈ after, entry.before other) :
    Poised g₀ now (before ++ entry :: after) inbox locked (g.push entry.number entry.priority) := by
  have hlevels : entry.number < g.queue.levels.length := by rwa [h.tidy.levels, h.table]
  have hclear : g.queue.level entry.number = .clear := by
    refine Decidable.byContradiction fun hqueued => ?_
    obtain ⟨other, hmem, hnumber⟩ := (h.tidy.queue.exists_mem_iff entry.number).mpr hqueued
    exact hnew other (h.order ▸ hmem) hnumber
  have horder : (g.queue.push entry.number entry.priority).order = before ++ entry :: after := by
    rcases Outbound.push_cases hlevels entry.priority with ⟨hle, -⟩ | ⟨-, hpush⟩
    · rw [hclear] at hle
      exact absurd (Nat.le_zero.mp hle) hpriority
    · rw [hpush, h.order, List.filter_eq_self.mpr]
      · exact Outbound.insert_append hbefore hafter
      · intro other hmem
        refine decide_eq_true fun hsame => hnew other hmem ?_
        rw [hsame]
  exact horder ▸ h.raise entry.number entry.priority

/-- A message sends its descriptor, and is queued again to send its arguments. -/
theorem Visits.described {before after : List Entry} (hchild : Spacious n g₀.table)
    (hpoised : Poised g₀ s.now (before ++ after) none (fun _ => False) s.layer)
    (hlt : number < g₀.table.size) (hpriority : Priority.descriptionLow ≤ priority)
    (hnew : ∀ other ∈ before ++ after, other.number ≠ number)
    (hbefore : ∀ other ∈ before, ¬ Entry.before ⟨.low, number⟩ other)
    (hafter : ∀ other ∈ after, Entry.before ⟨.low, number⟩ other)
    (h : Visits n (.noted handle) ⟨priority, number⟩ s step s') :
    step = .sent ∧
      Poised g₀ s.now (before ++ ⟨.low, number⟩ :: after) none (fun _ => False) s'.layer ∧
      Mirrors (hand n (packet (number + descriptorFlag) (textOf g₀.table number))) ()
        [packet (number + descriptorFlag) (textOf g₀.table number)] s s' := by
  cases h with
  | unknown hunknown =>
      rw [hpoised.table] at hunknown
      exact absurd hlt (Nat.not_lt.mpr (List.getElem?_eq_none_iff.mp hunknown))
  | queries _ hquery =>
      obtain rfl : priority = .queryArgs := hquery
      exact absurd hpriority (by decide)
  | replied _ hwait =>
      obtain rfl : priority = .queryWait := hwait
      exact absurd hpriority (by decide)
  | supplies _ hargs => exact absurd hpriority hargs.1
  | @describes message _ _ hmessage _ hdescribes =>
      rw [hpoised.table] at hmessage
      have htext : textOf g₀.table number = message.descriptor.toUTF8 := by
        rw [textOf, hmessage]
        rfl
      have hroom := hchild.descriptors message (List.mem_of_getElem? hmessage) s.around
      rw [htext]
      cases hdescribes with
      | stalled hemits => exact absurd (hemits.spacious hchild hroom).1 nofun
      | @done _ s₁ hemits =>
          obtain ⟨rfl, hlayer, hmirrors⟩ := hemits.spacious hchild hroom
          have hcounted := (hpoised.count (.txPacket
            (packet (number + descriptorFlag) message.descriptor.toUTF8).length)).unlock number
          rw [← hlayer] at hcounted
          have hholds : ¬ (s₁.layer.unlock number).holds number := by simp [hcounted.holds_iff]
          have hinserted : Poised g₀ s.now (before ++ ⟨.low, number⟩ :: after) none
              (fun _ => False) ((s₁.layer.unlock number).push number .low) :=
            Poised.insert (hcounted.congr_locked (by simp)) ⟨.low, number⟩ hlt nofun hnew hbefore
              hafter
          refine ⟨rfl, ?_, hmirrors.change _⟩
          simp only [Scene.layer_change, if_neg hholds]
          exact hinserted

/-- A message sends its arguments. -/
theorem Visits.supplied {entry : Entry} {rest : List Entry} (hchild : Spacious n g₀.table)
    (hhandle : Furnishes g₀.table handle)
    (hpoised : Poised g₀ s.now rest none (fun _ => False) s.layer)
    (hlt : entry.number < g₀.table.size) (hargs : entry.IsArgs)
    (hplain : entry.priority ≠ .unlockArgs ∧ entry.priority ≠ .updateArgs)
    (h : Visits n (.noted handle) entry s step s') :
    ∃ args, step = .sent ∧ Poised g₀ s.now rest none (fun _ => False) s'.layer ∧
      Mirrors (do
        let _ ← (n.layer .child).capacity
        let args ← supply handle g₀.table entry.number
        hand n (packet entry.number args)
        return args) args [packet entry.number args] s s' := by
  obtain ⟨message, hmessage⟩ : ∃ message, g₀.table.get? entry.number = some message :=
    ⟨_, List.getElem?_eq_getElem hlt⟩
  have hroom := hchild.arguments message (List.mem_of_getElem? hmessage)
  have hsupplies := h.supplying (hpoised.table.symm ▸ hmessage) hargs
  rw [released, if_neg hplain.1] at hsupplies
  have hinvoked : ∀ {around room output s₁}, (n.layer .child).capacity s.around = (room, around) →
      Invokes (.noted handle) entry.number entry.priority (probed s around room) output s₁ →
      ∃ args, output = some args ∧ args.length = message.size ∧
        Poised g₀ s.now rest none (fun _ => False) s₁.layer ∧
        Mirrors (supply handle g₀.table entry.number) args [] (probed s around room) s₁ :=
    fun _ hinvokes => hinvokes.furnished (s := probed s _ _) hpoised hmessage hhandle
  cases hsupplies with
  | crowded hfound hcrowded =>
      have hspace := hroom s.around
      rw [hfound] at hspace
      exact absurd hspace (Nat.not_le.mpr hcrowded)
  | silent hfound _ hinvokes =>
      obtain ⟨args, houtput, -⟩ := hinvoked hfound hinvokes
      cases houtput
  | misfit hfound _ hinvokes hsize =>
      obtain ⟨args, houtput, hlength, -⟩ := hinvoked hfound hinvokes
      obtain rfl := Option.some.inj houtput
      exact absurd hlength hsize
  | @answered _ _ args s₁ _ _ hfound _ hinvokes hemits =>
      obtain ⟨_, houtput, hlength, hleft, hmirrors⟩ := hinvoked hfound hinvokes
      obtain rfl := Option.some.inj houtput
      obtain ⟨rfl, hlayer, hsent⟩ := hemits.spacious hchild (hlength ▸ hroom _)
      refine ⟨args, rfl, hlayer ▸ hleft.count _, ?_⟩
      exact (Mirrors.probe hfound).bind (hmirrors.bind (hsent.bind (.pure args s')))
  | updated _ _ _ _ hupdate => exact absurd hupdate hplain.2

end Turns

/-! ### Rounds -/

section Rounds

variable {n : Neighbours E} {limit : Nat} {handle : η → Option Bytes → StateM E (Option Bytes)}
  {g₀ : Messenger Neighbour η} {s s' s'' : Stage η E} {number : Nat} {priority : Priority}

/-- Packets are sent in as many rounds. -/
def Goes (n : Neighbours E) (limit : Nat) (call : Handlers η E) (rounds : Nat) (s s' : Stage η E) :
    Prop :=
  ∀ turns sent, sendQueued (place n limit) call (child n) (rounds + turns) sent s =
    sendQueued (place n limit) call (child n) turns (sent + rounds) s'

theorem Goes.refl {call : Handlers η E} (s : Stage η E) : Goes n limit call 0 s s := by
  intro turns sent
  rw [Nat.zero_add]
  rfl

theorem Goes.trans {call : Handlers η E} {rounds rounds' : Nat} (h : Goes n limit call rounds s s')
    (h' : Goes n limit call rounds' s' s'') : Goes n limit call (rounds + rounds') s s'' := by
  intro turns sent
  rw [Nat.add_assoc, h, h', Nat.add_assoc]

/-- A round in which the first message sends its packet. -/
theorem goes_one {entry : Entry} {rest : List Entry} {P : Stage η E → Prop} {around : E}
    {room : Nat} (hfound : (n.layer .child).capacity s.around = (room, around)) (hroom : room ≠ 0)
    (hpoised : Poised g₀ s.now (entry :: rest) none (fun _ => False) s.layer)
    (hvisits : ∀ s₁ : Stage η E, s₁.now = s.now →
      Poised g₀ s.now rest none (fun _ => False) s₁.layer →
      Mirrors (n.layer .child).capacity room [] s s₁ →
      ∀ step s', Visits n (.noted handle) entry s₁ step s' → step = .sent ∧ P s') :
    ∃ s', Goes n limit (.noted handle) 1 s s' ∧ P s' := by
  obtain ⟨queue, hpop, hpopped⟩ := hpoised.pop
  have hcapacity : (child n).capacity s = (room, probed s around room) := by
    rw [capacity_run, hfound]
  have hvisited := visits_perform n (Handlers.noted handle) entry limit
    ((probed s around room).change ({ · with queue }))
  generalize hperform : perform (place n limit) (Handlers.noted handle) (child n) entry
    ((probed s around room).change ({ · with queue })) = performed at hvisited
  obtain ⟨step, s'⟩ := performed
  obtain ⟨rfl, hP⟩ := hvisits ((probed s around room).change ({ · with queue })) rfl hpopped
    ((Mirrors.probe hfound).change _) _ _ hvisited
  refine ⟨s', fun turns sent => ?_, hP⟩
  rw [Nat.add_comm, sendQueued, bind_run_eq hcapacity, if_neg hroom,
    bind_run_eq (get_run n limit _), show (probed s around room).layer.queue.pop = _ from hpop]
  simp only
  rw [bind_run_eq (modify_run n limit _ _), bind_run_eq hperform]

theorem Spacious.room (hchild : Spacious n g₀.table) (hlt : number < g₀.table.size) (around : E) :
    ((n.layer .child).capacity around).1 ≠ 0 := by
  have hroom := hchild.arguments _ (List.getElem_mem hlt) around
  exact Nat.ne_zero_of_lt (Nat.lt_of_lt_of_le (show 0 < header + _ by rw [header]; omega) hroom)

variable (limit handle) in
theorem goes_describing {before after : List Entry} (hchild : Spacious n g₀.table)
    (hpoised : Poised g₀ s.now (⟨priority, number⟩ :: (before ++ after)) none (fun _ => False)
      s.layer)
    (hlt : number < g₀.table.size) (hpriority : Priority.descriptionLow ≤ priority)
    (hnew : ∀ other ∈ before ++ after, other.number ≠ number)
    (hbefore : ∀ other ∈ before, ¬ Entry.before ⟨.low, number⟩ other)
    (hafter : ∀ other ∈ after, Entry.before ⟨.low, number⟩ other) :
    ∃ s', Goes n limit (.noted handle) 1 s s' ∧
      Poised g₀ s'.now (before ++ ⟨.low, number⟩ :: after) none (fun _ => False) s'.layer ∧
      Mirrors (describing n g₀.table number) ()
        [packet (number + descriptorFlag) (textOf g₀.table number)] s s' := by
  refine goes_one rfl (Spacious.room hchild hlt _) hpoised
    fun s₁ hnow hpopped hprobed step s' hvisits => ?_
  rw [← hnow] at hpopped
  obtain ⟨hstep, hleft, hmirrors⟩ :=
    hvisits.described hchild hpopped hlt hpriority hnew hbefore hafter
  rw [← hmirrors.now] at hleft
  exact ⟨hstep, hleft, hprobed.bind hmirrors⟩

variable (limit) in
theorem goes_supplying {entry : Entry} {rest : List Entry} (hchild : Spacious n g₀.table)
    (hhandle : Furnishes g₀.table handle)
    (hpoised : Poised g₀ s.now (entry :: rest) none (fun _ => False) s.layer)
    (hlt : entry.number < g₀.table.size) (hargs : entry.IsArgs)
    (hplain : entry.priority ≠ .unlockArgs ∧ entry.priority ≠ .updateArgs) :
    ∃ s', Goes n limit (.noted handle) 1 s s' ∧ ∃ args,
      Poised g₀ s'.now rest none (fun _ => False) s'.layer ∧
      Mirrors (supplying n handle g₀.table entry.number) args [packet entry.number args] s s' := by
  refine goes_one rfl (Spacious.room hchild hlt _) hpoised
    fun s₁ hnow hpopped hprobed step s' hvisits => ?_
  rw [← hnow] at hpopped
  obtain ⟨args, hstep, hleft, hmirrors⟩ :=
    hvisits.supplied hchild hhandle hpopped hlt hargs hplain
  rw [← hmirrors.now] at hleft
  exact ⟨hstep, args, hleft, hprobed.bind hmirrors⟩

/-- The packet with the descriptor of a message. -/
abbrev descriptorPacket (table : Table η) (number : Nat) : Bytes :=
  packet (number + descriptorFlag) (textOf table number)

variable (limit handle) in
/-- Messages are described in the order of their numbers. Those that have been described
already are queued again in front of the last one. -/
theorem goes_describeAll {last : Nat} (hchild : Spacious n g₀.table) (hlast : last < g₀.table.size)
    {count described : Nat} (hcount : count ≠ 0 → described + count < last)
    (hpoised : Poised g₀ s.now
      ((List.range' (described + 1) count).map (Entry.mk .descriptionLow) ++
        ((List.range' 1 described).map (Entry.mk .low) ++ [⟨.low, last⟩])) none (fun _ => False)
      s.layer) :
    ∃ s', Goes n limit (.noted handle) count s s' ∧
      Poised g₀ s'.now ((List.range' 1 (described + count)).map (Entry.mk .low) ++ [⟨.low, last⟩])
        none (fun _ => False) s'.layer ∧
      Mirrors ((List.range' (described + 1) count).forM (describing n g₀.table)) ()
        ((List.range' (described + 1) count).map (descriptorPacket g₀.table)) s s' := by
  induction count generalizing described s with
  | zero => exact ⟨s, .refl s, hpoised, .pure () s⟩
  | succ count ih =>
      have hlt := hcount (Nat.succ_ne_zero count)
      rw [List.range'_succ, List.map_cons, List.cons_append, ← List.append_assoc] at hpoised
      have hnew : ∀ other ∈ (List.range' (described + 1 + 1) count).map
          (Entry.mk .descriptionLow) ++ (List.range' 1 described).map (Entry.mk .low) ++
            [⟨.low, last⟩],
          other.number ≠ described + 1 := by
        simp only [List.mem_append, List.mem_map, List.mem_range'_1, List.mem_singleton]
        rintro other ((⟨m, hm, rfl⟩ | ⟨m, hm, rfl⟩) | rfl) <;> simp only <;> omega
      have hbefore : ∀ other ∈ (List.range' (described + 1 + 1) count).map
          (Entry.mk .descriptionLow) ++ (List.range' 1 described).map (Entry.mk .low),
          ¬ Entry.before ⟨.low, described + 1⟩ other := by
        simp only [List.mem_append, List.mem_map, List.mem_range'_1, Entry.before_iff, not_or]
        rintro other (⟨m, hm, rfl⟩ | ⟨m, hm, rfl⟩)
        · exact ⟨show ¬ Priority.descriptionLow < Priority.low by decide, fun hsame =>
            absurd hsame.1 (show Priority.low ≠ Priority.descriptionLow by decide)⟩
        · exact ⟨Nat.lt_irrefl _, fun hsame => absurd hsame.2 (by simp only; omega)⟩
      have hafter : ∀ other ∈ [(⟨.low, last⟩ : Entry)],
          Entry.before ⟨.low, described + 1⟩ other := by
        rw [List.forall_mem_singleton, Entry.before_iff]
        exact .inr ⟨rfl, Nat.lt_of_le_of_lt (Nat.add_le_add_left (Nat.le_add_left 1 _) _) hlt⟩
      obtain ⟨s₁, hgoes₁, hpoised₁, hmirrors₁⟩ := goes_describing limit handle hchild hpoised
        (by omega) (Nat.le_refl _) hnew hbefore hafter
      have hnext : Poised g₀ s₁.now ((List.range' (described + 1 + 1) count).map
          (Entry.mk .descriptionLow) ++ ((List.range' 1 (described + 1)).map (Entry.mk .low) ++
            [⟨.low, last⟩])) none (fun _ => False) s₁.layer := by
        rw [List.range'_1_concat, List.map_append, List.append_assoc, ← List.append_assoc,
          Nat.add_comm 1 described]
        exact hpoised₁
      obtain ⟨s₂, hgoes₂, hpoised₂, hmirrors₂⟩ := ih (by omega) hnext
      refine ⟨s₂, ?_, ?_, ?_⟩
      · rw [Nat.add_comm count]
        exact hgoes₁.trans hgoes₂
      · rwa [Nat.add_right_comm] at hpoised₂
      · rw [List.range'_succ, List.map_cons]
        exact hmirrors₁.bind hmirrors₂

variable (limit) in
/-- Messages are supplied in the order in which they are queued. -/
theorem goes_supplyAll {entries : List Entry} (hchild : Spacious n g₀.table)
    (hhandle : Furnishes g₀.table handle)
    (hpoised : Poised g₀ s.now entries none (fun _ => False) s.layer)
    (hentries : ∀ entry ∈ entries, entry.number < g₀.table.size ∧ entry.IsArgs ∧
      entry.priority ≠ .unlockArgs ∧ entry.priority ≠ .updateArgs) :
    ∃ s' supplied, Goes n limit (.noted handle) entries.length s s' ∧
      Poised g₀ s'.now [] none (fun _ => False) s'.layer ∧ supplied.length = entries.length ∧
      Mirrors ((entries.map Entry.number).mapM (supplying n handle g₀.table)) supplied
        (((entries.map Entry.number).zip supplied).map fun pair => packet pair.1 pair.2) s s' := by
  induction entries generalizing s with
  | nil => exact ⟨s, [], .refl s, hpoised, rfl, .pure [] s⟩
  | cons entry entries ih =>
      obtain ⟨⟨hlt, hargs, hplain⟩, hrest⟩ := List.forall_mem_cons.mp hentries
      obtain ⟨s₁, hgoes₁, args, hpoised₁, hmirrors₁⟩ :=
        goes_supplying limit hchild hhandle hpoised hlt hargs hplain
      obtain ⟨s₂, supplied, hgoes₂, hpoised₂, hlength, hmirrors₂⟩ := ih hpoised₁ hrest
      refine ⟨s₂, args :: supplied, ?_, hpoised₂, congrArg (· + 1) hlength, ?_⟩
      · rw [List.length_cons, Nat.add_comm]
        exact hgoes₁.trans hgoes₂
      · have hlater : Mirrors (do
              let supplied ← (entries.map Entry.number).mapM (supplying n handle g₀.table)
              return args :: supplied) (args :: supplied)
            (((entries.map Entry.number).zip supplied).map fun pair => packet pair.1 pair.2) s₁
            s₂ := List.append_nil (((entries.map Entry.number).zip supplied).map _) ▸
          hmirrors₂.bind (.pure (args :: supplied) s₂)
        rw [List.map_cons, List.mapM_cons]
        exact hmirrors₁.bind hlater

end Rounds

/-! ### The request -/

section Request

variable {g₀ g : Messenger Neighbour η} {now : Tick} {priority : Priority}

/-- The first messages are queued at one priority. -/
theorem Poised.pushes (h : Poised g₀ now [] none (fun _ => False) g) (hpriority : priority ≠ .clear)
    {count : Nat} (hcount : count < g₀.table.size) :
    Poised g₀ now ((List.range' 1 count).map (Entry.mk priority)) none (fun _ => False)
      ((List.range count).foldl (fun g i => g.push (i + 1) priority) g) := by
  induction count with
  | zero => exact h
  | succ count ih =>
      have hbefore := ih (Nat.lt_of_succ_lt hcount)
      rw [List.range_succ, List.foldl_concat, List.range'_1_concat, List.map_append, Nat.add_comm 1]
      rw [← List.append_nil ((List.range' 1 count).map _)] at hbefore
      refine hbefore.insert ⟨priority, count + 1⟩ hcount hpriority ?_ ?_ ?_
      · simp only [List.append_nil, List.mem_map, List.mem_range'_1]
        rintro other ⟨m, hm, rfl⟩
        exact Nat.ne_of_lt (show m < count + 1 by omega)
      · simp only [List.mem_map, List.mem_range'_1, Entry.before_iff, not_or]
        rintro other ⟨m, hm, rfl⟩
        exact ⟨Nat.lt_irrefl _, fun hsame => absurd hsame.2 (show ¬ count + 1 < m by omega)⟩
      · exact List.forall_mem_nil _

/-- A request for the whole catalog queues the last message before the others. -/
theorem Poised.requested (h : Poised g₀ now [] none (fun _ => False) g) (hpos : 0 < g₀.table.size)
    (hsize : g₀.table.size ≤ Catalog.maxMessages) {flags : UInt8}
    (hasked : Messenger.asked flags = wholeCatalog)
    (packet data : Bytes) :
    Poised g₀ now
      (⟨if descriptorFlag ≤ flags.toNat then .description else .highest, g₀.table.terminator⟩ ::
        (List.range' 1 (g₀.table.terminator - 1)).map
          (Entry.mk (if descriptorFlag ≤ flags.toNat then .descriptionLow else .low)))
      none (fun _ => False) (g.taken packet flags data) := by
  have hlast : g₀.table.terminator < g₀.table.size := Nat.sub_lt hpos Nat.one_pos
  have hlt : g₀.table.terminator < wholeCatalog := Nat.lt_of_lt_of_le hlast hsize
  have haddressee : addressee g.table flags = g₀.table.terminator := by
    rw [addressee, hasked, h.table, Nat.min_eq_right (Nat.le_of_lt hlt)]
  have hfilled : g.filled flags =
      g.fill (if descriptorFlag ≤ flags.toNat then .descriptionLow else .low) := if_pos hasked
  have hpushed : Poised g₀ now ((List.range' 1 (g₀.table.terminator - 1)).map
      (Entry.mk (if descriptorFlag ≤ flags.toNat then .descriptionLow else .low))) none
      (fun _ => False) (g.filled flags) := by
    rw [hfilled, fill, h.table]
    refine h.pushes ?_ (Nat.lt_of_le_of_lt (Nat.sub_le _ _) hlast)
    split <;> decide
  have hpacket : g.onPacket flags data = (true, (g.filled flags).push g₀.table.terminator
      (if descriptorFlag ≤ flags.toNat then .description else .highest)) := by
    have hunlocked : (g.filled flags).isLocked g₀.table.terminator = false :=
      Bool.eq_false_iff.mpr fun hlocked => (hpushed.locked _).mp hlocked
    rw [onPacket_eq, haddressee, h.table, hasked, if_pos hlt, accept, if_pos rfl]
    simp only [answer, hunlocked]
    by_cases hdescribe : descriptorFlag ≤ flags.toNat <;> simp [hdescribe]
  rw [Messenger.taken, hpacket, if_pos rfl]
  have hbefore : ∀ describe : Bool, (if describe then Priority.descriptionLow else .low) <
      (if describe then Priority.description else .highest) := by
    decide
  refine Poised.count (Poised.insert hpushed ⟨_, _⟩ hlast ?_ ?_ (List.forall_mem_nil _) ?_) _
  · split <;> exact Nat.succ_ne_zero _
  · simp only [List.nil_append, List.mem_map, List.mem_range'_1]
    rintro other ⟨m, hm, rfl⟩
    exact Nat.ne_of_lt (show m < g₀.table.terminator by omega)
  · simp only [List.mem_map, Entry.before_iff]
    rintro other ⟨m, -, rfl⟩
    exact .inl (by simpa using hbefore (descriptorFlag ≤ flags.toNat))

end Request

/-! ### The call -/

variable {n : Neighbours E} {limit : Nat} {handle : η → Option Bytes → StateM E (Option Bytes)}
  {g₀ : Messenger Neighbour η} {s s' : Stage η E}

/-- When all packets have been sent, the call is over. -/
theorem schedule_of_goes {rounds : Nat} (hchild : s.layer.node.child = .ok .child)
    (hexpire : s.layer.expire s.now = s.layer)
    (hrounds : rounds + 1 ≤ (Priority.max + 1) * s.layer.table.size)
    (hgoes : Goes n limit (.noted handle) rounds (s.change (·.expire s.now)) s')
    (hroom : ((n.layer .child).capacity s'.around).1 ≠ 0) (hidle : s'.layer.queue.pop = none) :
    (schedule (place n limit) (Handlers.noted handle)).run s =
      (.ok rounds, probed s' ((n.layer .child).capacity s'.around).2
        ((n.layer .child).capacity s'.around).1) := by
  obtain ⟨left, hleft⟩ := Nat.exists_eq_add_of_le (Nat.le_trans hrounds (Nat.le_add_right _ limit))
  refine schedule_run hchild ?_
  rw [hexpire, hleft, Nat.add_assoc, hgoes, Nat.zero_add, Nat.add_comm 1, sendQueued,
    bind_run_eq (capacity_run s'), if_neg hroom, bind_run_eq (get_run n limit _),
    show (probed s' _ _).layer.queue.pop = none from hidle]
  rfl

theorem Poised.stands {order : List Entry} {locked : Nat → Prop} {g : Messenger Neighbour η}
    {now : Tick} (h : Poised g₀ now order none locked g) : Stands g₀ none g :=
  ⟨h.node, h.table, h.config, h.tidy, fun held hheld => by simp [h.inbox] at hheld⟩

/-- A packet is taken in, and nothing is sent. -/
theorem taken_of_receives {flags : UInt8} {data : Bytes}
    (h : Receives (Tag.message :: flags :: data) s s') :
    s'.layer = s.layer.taken (Tag.message :: flags :: data) flags data ∧ s'.now = s.now ∧
      Hands [] s s' := by
  cases h with
  | malformed hpacket => exact absurd rfl (hpacket flags data)
  | unseen hpacket =>
      obtain ⟨rfl, rfl⟩ := List.cons.inj (List.cons.inj hpacket).2
      exact ⟨rfl, rfl, _, rfl, rfl⟩
  | seen hpacket who =>
      obtain ⟨rfl, rfl⟩ := List.cons.inj (List.cons.inj hpacket).2
      have hshown : ∀ (s : Stage η E) around answer, Hands [] s
          (s.meet around (.contact who (.recv (Tag.message :: flags :: data) answer))) :=
        fun s around answer => ⟨[_], rfl, by simp [handed]⟩
      exact ⟨rfl, rfl, (Hands.change _ _).trans (hshown _ _ _)⟩

end Messenger

/-! ### The catalog on request -/

open Messenger

/-- A request is taken in, and one call of `schedule` hands to the child the descriptors of
some messages and then the arguments of some messages, in a given order. The arguments are
what the handlers supply on the way. -/
structure Published (n : Neighbours E) (limit : Nat)
    (handle : η → Option Bytes → StateM E (Option Bytes)) (table : Table η) (request : Bytes)
    (descriptors arguments : List Nat) (s asked s' : Stage η E) (supplied : List Bytes) : Prop where
  recv : ((Op.recv request).run n limit (.noted handle) s).2 = asked
  silent : handed asked.history = handed s.history
  schedule : Op.schedule.run n limit (.noted handle) asked =
    (.ok (descriptors.length + arguments.length), s')
  surroundings : publishing n handle table descriptors arguments asked.around =
    (supplied, s'.around)
  length : supplied.length = arguments.length
  packets : handed s'.history = handed asked.history ++
    (descriptors.map fun number => packet (number + descriptorFlag) (textOf table number)) ++
    (arguments.zip supplied).map fun pair => packet pair.1 pair.2

section Publication

variable {n : Neighbours E} {limit : Nat} {handle : η → Option Bytes → StateM E (Option Bytes)}
  {g₀ : Messenger Neighbour η} {s asked s₁ s₂ : Stage η E}

theorem published_of_goes {request : Bytes} {order : List Entry}
    {descriptors arguments : List Nat} {supplied : List Bytes} (hchild : Spacious n g₀.table)
    (hpos : 0 < g₀.table.size) (hlinked : g₀.node.child = .ok .child)
    (hrecv : ((Op.recv request).run n limit (.noted handle) s).2 = asked)
    (hsilent : Hands [] s asked)
    (hpoised : Poised g₀ asked.now order none (fun _ => False) asked.layer)
    (hrounds : descriptors.length + arguments.length + 1 ≤ (Priority.max + 1) * g₀.table.size)
    (hgoes : Goes n limit (.noted handle) (descriptors.length + arguments.length)
      (asked.change (·.expire asked.now)) s₂)
    (hleft : Poised g₀ s₂.now [] none (fun _ => False) s₂.layer)
    (hlength : supplied.length = arguments.length)
    (hdescribed : Mirrors (descriptors.forM (describing n g₀.table)) ()
      (descriptors.map (descriptorPacket g₀.table)) (asked.change (·.expire asked.now)) s₁)
    (hsupplied : Mirrors (arguments.mapM (supplying n handle g₀.table)) supplied
      ((arguments.zip supplied).map fun pair => packet pair.1 pair.2) s₁ s₂) :
    ∃ s', Published n limit handle g₀.table request descriptors arguments s asked s' supplied := by
  have hexpire := hpoised.expire fun hlocked => hlocked.elim fun _ => False.elim
  have hroom := Spacious.room hchild hpos s₂.around
  have hrun := schedule_of_goes (hpoised.node.symm ▸ hlinked) hexpire (hpoised.table.symm ▸ hrounds)
    hgoes hroom hleft.pop_nil
  refine ⟨_, hrecv, ?_, hrun, ?_, hlength, ?_⟩
  · rw [hsilent.handed, List.append_nil]
  · have hdescribed' : descriptors.forM (describing n g₀.table) asked.around = ((), s₁.around) :=
      hdescribed.act
    rw [publishing, bind_run_eq hdescribed', bind_run_eq hsupplied.act]
    rfl
  · rw [(Hands.probed _ _ _).handed, hsupplied.hands.handed, hdescribed.hands.handed,
      (Hands.change _ _).handed, List.append_nil, List.append_nil]

/-- The last message of a catalog, and the messages from the second to the one before it. -/
theorem lt_size_of_mem {table : Table η} (hpos : 0 < table.size) :
    ∀ number ∈ table.terminator :: List.range' 1 (table.terminator - 1), number < table.size := by
  have hlast : table.terminator < table.size := Nat.sub_lt hpos Nat.one_pos
  refine List.forall_mem_cons.mpr ⟨hlast, fun number hmem => ?_⟩
  rw [List.mem_range'_1] at hmem
  omega

/-- Messages that are queued to send their arguments and nothing else. -/
theorem plain_of_mem {table : Table η} {numbers : List Nat} {priority : Priority}
    (hlt : ∀ number ∈ numbers, number < table.size)
    (hpriority : priority = .low ∨ priority = .highest) :
    ∀ entry ∈ numbers.map (Entry.mk priority), entry.number < table.size ∧ entry.IsArgs ∧
      entry.priority ≠ .unlockArgs ∧ entry.priority ≠ .updateArgs := by
  rw [List.forall_mem_map]
  intro number hmem
  refine ⟨hlt number hmem, ?_⟩
  rcases hpriority with rfl | rfl <;> simp only [Entry.IsArgs] <;> decide

theorem map_number_mk (numbers : List Nat) (priority : Priority) :
    (numbers.map (Entry.mk priority)).map Entry.number = numbers := by
  rw [List.map_map]
  exact List.map_id numbers

variable (limit) in
/-- The last message is described before the others; all are supplied in order. -/
theorem published_described {request : Bytes} (hchild : Spacious n g₀.table)
    (hhandle : Furnishes g₀.table handle) (hpos : 0 < g₀.table.size)
    (hlinked : g₀.node.child = .ok .child)
    (hrecv : ((Op.recv request).run n limit (.noted handle) s).2 = asked)
    (hsilent : Hands [] s asked)
    (hpoised : Poised g₀ asked.now (⟨.description, g₀.table.terminator⟩ ::
      (List.range' 1 (g₀.table.terminator - 1)).map (Entry.mk .descriptionLow)) none
      (fun _ => False) asked.layer) :
    ∃ s' supplied, Published n limit handle g₀.table request
      (g₀.table.terminator :: List.range' 1 (g₀.table.terminator - 1))
      (List.range' 1 (g₀.table.terminator - 1) ++ [g₀.table.terminator]) s asked s' supplied := by
  have hlt := lt_size_of_mem hpos
  have hlast := hlt _ List.mem_cons_self
  have hnew : ∀ other ∈ (List.range' 1 (g₀.table.terminator - 1)).map (Entry.mk .descriptionLow) ++
      [], other.number ≠ g₀.table.terminator := by
    simp only [List.append_nil, List.mem_map, List.mem_range'_1]
    rintro other ⟨m, hm, rfl⟩
    exact Nat.ne_of_lt (show m < g₀.table.terminator by omega)
  have hbefore : ∀ other ∈ (List.range' 1 (g₀.table.terminator - 1)).map (Entry.mk .descriptionLow),
      ¬ Entry.before ⟨.low, g₀.table.terminator⟩ other := by
    simp only [List.mem_map, Entry.before_iff, not_or]
    rintro other ⟨m, -, rfl⟩
    exact ⟨show ¬ Priority.descriptionLow < Priority.low by decide, fun hsame =>
      absurd hsame.1 (show Priority.low ≠ Priority.descriptionLow by decide)⟩
  have hstart := hpoised
  rw [← hpoised.expire fun hlocked => hlocked.elim fun _ => False.elim,
    ← List.append_nil (List.map _ _)] at hstart
  -- the last message is described first, and then takes its place behind the others
  obtain ⟨s₁, hgoes₁, hpoised₁, hmirrors₁⟩ := goes_describing limit handle hchild
    (s := asked.change (·.expire asked.now)) hstart hlast (by decide) hnew hbefore
    (List.forall_mem_nil _)
  have hqueued₁ : Poised g₀ s₁.now ((List.range' (0 + 1) (g₀.table.terminator - 1)).map
      (Entry.mk .descriptionLow) ++ ((List.range' 1 0).map (Entry.mk .low) ++
        [⟨.low, g₀.table.terminator⟩])) none (fun _ => False) s₁.layer := hpoised₁
  obtain ⟨s₂, hgoes₂, hpoised₂, hmirrors₂⟩ :=
    goes_describeAll limit handle hchild hlast (by omega) hqueued₁
  rw [Nat.zero_add, ← List.map_singleton, ← List.map_append] at hpoised₂
  have hall : ∀ number ∈ List.range' 1 (g₀.table.terminator - 1) ++ [g₀.table.terminator],
      number < g₀.table.size := fun number hmem => hlt number (by simpa [or_comm] using hmem)
  have hplain := plain_of_mem hall (.inl rfl)
  obtain ⟨s₃, supplied, hgoes₃, hleft, hlength, hmirrors₃⟩ :=
    goes_supplyAll limit hchild hhandle hpoised₂ hplain
  rw [map_number_mk] at hmirrors₃
  rw [List.length_map] at hlength hgoes₃
  have hrounds : (g₀.table.terminator :: List.range' 1 (g₀.table.terminator - 1)).length +
      (List.range' 1 (g₀.table.terminator - 1) ++ [g₀.table.terminator]).length + 1 ≤
      (Priority.max + 1) * g₀.table.size := by
    simp only [List.length_cons, List.length_append, List.length_range', List.length_nil,
      Priority.max]
    omega
  have hgoes := (hgoes₁.trans hgoes₂).trans hgoes₃
  have hdescribed : (g₀.table.terminator :: List.range' 1 (g₀.table.terminator - 1)).length =
      1 + (g₀.table.terminator - 1) := by
    rw [List.length_cons, List.length_range', Nat.add_comm]
  obtain ⟨s', hpublished⟩ := published_of_goes hchild hpos hlinked hrecv hsilent hpoised hrounds
    (hdescribed.symm ▸ hgoes) hleft hlength (hmirrors₁.bind hmirrors₂) hmirrors₃
  exact ⟨s', supplied, hpublished⟩

variable (limit) in
/-- All messages are supplied, the last one before the others. -/
theorem published_supplied {request : Bytes} (hchild : Spacious n g₀.table)
    (hhandle : Furnishes g₀.table handle) (hpos : 0 < g₀.table.size)
    (hlinked : g₀.node.child = .ok .child)
    (hrecv : ((Op.recv request).run n limit (.noted handle) s).2 = asked)
    (hsilent : Hands [] s asked)
    (hpoised : Poised g₀ asked.now (⟨.highest, g₀.table.terminator⟩ ::
      (List.range' 1 (g₀.table.terminator - 1)).map (Entry.mk .low)) none
      (fun _ => False) asked.layer) :
    ∃ s' supplied, Published n limit handle g₀.table request []
      (g₀.table.terminator :: List.range' 1 (g₀.table.terminator - 1)) s asked s' supplied := by
  have hlt := lt_size_of_mem hpos
  have hlast := hlt _ List.mem_cons_self
  have hstart := hpoised
  rw [← hpoised.expire fun hlocked => hlocked.elim fun _ => False.elim] at hstart
  have hplain : ∀ entry ∈ (⟨.highest, g₀.table.terminator⟩ : Entry) ::
      (List.range' 1 (g₀.table.terminator - 1)).map (Entry.mk .low),
      entry.number < g₀.table.size ∧ entry.IsArgs ∧
        entry.priority ≠ .unlockArgs ∧ entry.priority ≠ .updateArgs := by
    rw [List.forall_mem_cons] at hlt ⊢
    have hfirst := plain_of_mem (List.forall_mem_singleton.mpr hlt.1) (.inr rfl)
    exact ⟨hfirst _ List.mem_cons_self, plain_of_mem hlt.2 (.inl rfl)⟩
  obtain ⟨s₁, supplied, hgoes, hleft, hlength, hmirrors⟩ := goes_supplyAll limit hchild hhandle
    (s := asked.change (·.expire asked.now)) hstart hplain
  rw [List.map_cons, map_number_mk] at hmirrors
  rw [List.length_cons, List.length_map] at hlength hgoes
  have hrounds : ([] : List Nat).length +
      (g₀.table.terminator :: List.range' 1 (g₀.table.terminator - 1)).length + 1 ≤
      (Priority.max + 1) * g₀.table.size := by
    simp only [List.length_cons, List.length_range', List.length_nil, Priority.max]
    omega
  have hsent : Goes n limit (.noted handle) (([] : List Nat).length + (g₀.table.terminator ::
      List.range' 1 (g₀.table.terminator - 1)).length) (asked.change (·.expire asked.now)) s₁ := by
    rw [List.length_nil, Nat.zero_add]
    exact hgoes
  obtain ⟨s', hpublished⟩ := published_of_goes hchild hpos hlinked hrecv hsilent hpoised hrounds
    hsent hleft hlength (.pure () _) hmirrors
  exact ⟨s', supplied, hpublished⟩

end Publication

/-- A request for the whole catalog has it published: every message is described, the last
one first, and then supplied in order; or every message is supplied, the last one first. -/
theorem catalog_published {draft : Catalog.Draft η} {table : Table η}
    (hsealed : draft.finish = .ok table) {config : Config} {s : Stage η E}
    (hcalm : Calm table config s.layer) {n : Neighbours E} (hchild : Spacious n table) (limit : Nat)
    {handle : η → Option Bytes → StateM E (Option Bytes)} (hhandle : Furnishes table handle)
    (data : Bytes) :
    (∃ asked s' supplied, Published n limit handle table (Tag.message :: 0xFF :: data)
      (table.terminator :: List.range' 1 (table.terminator - 1))
      (List.range' 1 (table.terminator - 1) ++ [table.terminator]) s asked s' supplied) ∧
    ∃ asked s' supplied, Published n limit handle table (Tag.message :: 0x7F :: data) []
      (table.terminator :: List.range' 1 (table.terminator - 1)) s asked s' supplied := by
  obtain ⟨hpos, hsize⟩ := Catalog.Draft.size_of_finish hsealed
  obtain ⟨parent, hatRest⟩ := hcalm.atRest
  have hpoised := hatRest s.now
  have hasked : ∀ flags, Messenger.asked flags = wholeCatalog → ∃ asked,
      ((Op.recv (Tag.message :: flags :: data)).run n limit (.noted handle) s).2 = asked ∧
      Hands [] s asked ∧ Poised (begun table config parent) asked.now
        (⟨if descriptorFlag ≤ flags.toNat then .description else .highest, table.terminator⟩ ::
          (List.range' 1 (table.terminator - 1)).map
            (Entry.mk (if descriptorFlag ≤ flags.toNat then .descriptionLow else .low)))
        none (fun _ => False) asked.layer := by
    intro flags hflags
    obtain ⟨hlayer, hnow, hhands⟩ :=
      taken_of_receives (receives_recv n limit rfl hpoised.stands (Tag.message :: flags :: data))
    refine ⟨_, rfl, hhands, ?_⟩
    change Poised _ ((recv (place n limit) _).run s).2.now _ _ _
      ((recv (place n limit) _).run s).2.layer
    rw [hlayer, hnow]
    exact hpoised.requested hpos hsize hflags _ data
  constructor
  · obtain ⟨asked, hrecv, hsilent, hqueued⟩ := hasked 0xFF (by decide)
    rw [if_pos (by decide), if_pos (by decide)] at hqueued
    exact ⟨asked, published_described limit hchild hhandle hpos rfl hrecv hsilent hqueued⟩
  · obtain ⟨asked, hrecv, hsilent, hqueued⟩ := hasked 0x7F (by decide)
    rw [if_neg (by decide), if_neg (by decide)] at hqueued
    exact ⟨asked, published_supplied limit hchild hhandle hpos rfl hrecv hsilent hqueued⟩

theorem spacious_oneArgument :
    Spacious (Neighbours.ample 256 : Neighbours Unit) oneArgumentTable := by
  have hdescriptors : ∀ message ∈ oneArgumentTable.messages,
      header + message.descriptor.toUTF8.length ≤ 256 := by
    decide +kernel
  have harguments : ∀ message ∈ oneArgumentTable.messages, header + message.size ≤ 256 := by decide
  exact ⟨fun message hmem _ => hdescriptors message hmem,
    fun message hmem _ => harguments message hmem,
    fun bytes _ _ _ _ _ => ⟨bytes.length, rfl, Nat.le_refl _⟩⟩

theorem furnishes_oneArgument :
    Furnishes oneArgumentTable fun _ _ => (pure (some [0x55]) : StateM Unit (Option Bytes)) := by
  have hsize : ∀ message ∈ oneArgumentTable.messages, message.handler = some () →
      1 = message.size := by
    decide
  exact fun message hmem _ hhandler around => ⟨[0x55], around, rfl, hsize message hmem hhandler⟩

theorem published_oneArgument : oneArgument.finish = .ok oneArgumentTable ∧
    Calm oneArgumentTable {} (.begun oneArgumentTable {} none) ∧
    (∃ asked s' supplied, Published (.ample 256) 0 (fun _ _ => pure (some [0x55])) oneArgumentTable
      [Tag.message, 0xFF] [2, 1] [1, 2] ⟨.begun oneArgumentTable {} none, (), 7, []⟩ asked s'
      supplied) ∧
    ∃ asked s' supplied, Published (.ample 256) 0 (fun _ _ => pure (some [0x55])) oneArgumentTable
      [Tag.message, 0x7F] [] [2, 1] ⟨.begun oneArgumentTable {} none, (), 7, []⟩ asked s' supplied :=
  have hcalm : Calm oneArgumentTable {} (.begun oneArgumentTable {} none) :=
    calm_of_queued (by decide +kernel)
  ⟨finish_oneArgument, hcalm, catalog_published finish_oneArgument hcalm spacious_oneArgument 0
    furnishes_oneArgument []⟩

end LinkStack.Exchange
