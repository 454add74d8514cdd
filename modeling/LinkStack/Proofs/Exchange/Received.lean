import LinkStack.Proofs.Exchange.Operations

/-!
What becomes of received arguments.

The handlers of a message layer are not told that arguments have arrived; they are
given them when their message has its turn, and till then nobody else can have the
place. So the layer must neither forget them nor keep them when their turn is past.
The fates of arguments are read off what was noted: a handler that is called with
them, or a change that takes them away. Every block that was taken in meets exactly
one fate, in the order in which the blocks came, or is still held (`Accounted`).
-/

namespace LinkStack.Exchange

open LinkStack.Catalog (Table Message)

variable {η E : Type}

/-! ### Calls and what they settle -/

/-- Handlers that do not call the layer. Every call of one is noted. -/
def Handlers.noted (handle : η → Option Bytes → StateM E (Option Bytes)) : Handlers η E :=
  fun handler input s =>
    ((handle handler input s.around).1,
      s.meet (handle handler input s.around).2 (.called s.layer.running handler input))

abbrev Instant (η : Type) := Moment (Messenger Neighbour η) (Event η)

/-- An operation that was called, the layer before and after it, and what happened in
between. -/
structure Call (η : Type) where
  op : Op
  before : Messenger Neighbour η
  moments : List (Instant η)
  after : Messenger Neighbour η

/-- How received arguments end: a handler is given them, their message has no handler,
later ones for the same message replace them, their message is taken out of the queue,
or the child has too little room for an answer. -/
inductive Fate (η : Type) where
  | given (handler : η)
  | consumed
  | replaced (later : Held)
  | cleared
  | dropped (room : Nat)

/-- The room of the child, if it has just been asked for it. -/
def room? : Option (Instant η) → Option Nat
  | some (.noted (.contact .child (.capacity room))) => some room
  | _ => none

/-- The room of the child, if it is too small for an answer of a given size. -/
def crowded? (previous : Option (Instant η)) (size : Nat) : Option Nat :=
  (room? previous).filter (· < header + size)

/-- The fate of arguments that are taken away without being replaced. -/
def releasedAs? (previous : Option (Instant η)) (g g' : Messenger Neighbour η) (held : Held) :
    Option (Held × Fate η) :=
  match g.table.get? held.number with
  | none => none
  | some message =>
    match crowded? previous message.size with
    | some room => if g'.stats = g.stats.count .txDropped then some (held, .dropped room) else none
    | none =>
      if g'.stats = g.stats ∧ message.handler.isNone then some (held, .consumed) else none

/-- The fate of arguments that a moment shows, after the moment before it. -/
def fate? (previous : Option (Instant η)) : Instant η → Option (Held × Fate η)
  | .noted (.called (some number) handler (some data)) => some ({ number, data }, .given handler)
  | .noted _ => none
  | .changed g g' =>
    match g.inbox, g'.inbox with
    | some held, none => releasedAs? previous g g' held
    | _, _ => none

def fates : Option (Instant η) → List (Instant η) → List (Held × Fate η)
  | _, [] => []
  | previous, moment :: later => (fate? previous moment).toList ++ fates (some moment) later

namespace Call

/-- The arguments that a call has taken in. -/
def accepted? (call : Call η) : Option Held :=
  match call.op with
  | .recv (tag :: flags :: data) =>
    if tag = Tag.message ∧ data ≠ [] ∧
        call.after.inbox = some { number := Messenger.asked flags, data } then
      some { number := Messenger.asked flags, data }
    else none
  | _ => none

/-- The arguments that end with a call, each with its fate. -/
def settled (call : Call η) : List (Held × Fate η) :=
  match call.op with
  | .recv _ =>
    match call.before.inbox, call.accepted? with
    | some held, some later => [(held, .replaced later)]
    | _, _ => []
  | .post number priority =>
    match call.before.inbox, call.after.inbox with
    | some held, none => if held.number = number ∧ priority = .clear then [(held, .cleared)] else []
    | _, _ => []
  | _ => fates none call.moments

end Call

def accepted (calls : List (Call η)) : List Held := calls.filterMap Call.accepted?

def settled (calls : List (Call η)) : List (Held × Fate η) := calls.flatMap Call.settled

theorem accepted_cons (call : Call η) (calls : List (Call η)) :
    accepted (call :: calls) = call.accepted?.toList ++ accepted calls := by
  cases h : call.accepted? <;> simp [accepted, h]

theorem settled_cons (call : Call η) (calls : List (Call η)) :
    settled (call :: calls) = call.settled ++ settled calls :=
  List.flatMap_cons

/-- An operation with the record of its call. -/
def Op.call (n : Neighbours E) (limit : Nat)
    (handle : η → Option Bytes → StateM E (Option Bytes)) (op : Op) :
    StateM (Stage η E) (Call η) := fun s =>
  let s' := (op.run n limit (.noted handle) { s with history := [] }).2
  ({ op, before := s.layer, moments := s'.history, after := s'.layer }, s')

/-- Operations one after the other. -/
def Op.calls (n : Neighbours E) (limit : Nat)
    (handle : η → Option Bytes → StateM E (Option Bytes)) :
    List Op → StateM (Stage η E) (List (Call η))
  | [] => pure []
  | op :: ops => do
    let call ← op.call n limit handle
    return call :: (← calls n limit handle ops)

/-- What a fate says about the catalog. -/
def Fate.Fits (table : Table η) (held : Held) : Fate η → Prop
  | given handler => ∃ message, table.get? held.number = some message ∧
      message.handler = some handler
  | consumed => ∃ message, table.get? held.number = some message ∧ message.handler = none
  | replaced later => later.number = held.number
  | cleared => True
  | dropped room => ∃ message, table.get? held.number = some message ∧
      room < header + message.size

/-- No received arguments are lost or stuck: what is held belongs to a queued message,
and everything that was taken in has met one fate, in the same order, or is held.
With nothing queued the place is free for arguments of any message. -/
structure Accounted (n : Neighbours E) (limit : Nat)
    (handle : η → Option Bytes → StateM E (Option Bytes)) (table : Table η)
    (calls : List (Call η)) (s : Stage η E) : Prop where
  queued : ∀ held, s.layer.inbox = some held →
    ∃ entry ∈ s.layer.queue.order, entry.number = held.number
  settled : accepted calls = (settled calls).map Prod.fst ++ s.layer.inbox.toList
  fits : ∀ held fate, (held, fate) ∈ Exchange.settled calls → fate.Fits table held
  empty : s.layer.queue.order = [] → s.layer.inbox = none
  free : s.layer.queue.order = [] → ∀ flags data message,
    table.get? (Messenger.asked flags) = some message → data ≠ [] → data.length = message.size →
    ((Op.recv (Tag.message :: flags :: data)).call n limit handle s).1.accepted? =
      some { number := Messenger.asked flags, data }

namespace Messenger

/-! ### Fates of a growing history -/

theorem fates_append (previous : Option (Instant η)) (history later : List (Instant η)) :
    fates previous (history ++ later) =
      fates previous history ++ fates (history.getLast?.or previous) later := by
  induction history generalizing previous with
  | nil => simp [fates]
  | cons first rest ih =>
      rw [List.cons_append, fates, fates, ih, List.append_assoc]
      cases rest with
      | nil => simp
      | cons => simp [List.getLast?_cons]

/-- A change that leaves the place of received arguments as it was. -/
theorem fate?_changed {g g' : Messenger Neighbour η} (h : g'.inbox = g.inbox)
    (previous : Option (Instant η)) : fate? previous (.changed g g') = none := by
  rw [fate?, h]
  cases g.inbox <;> rfl

/-- Arguments that were held at the start are held, or have met their fate since. -/
structure Conserves (table : Table η) (held₀ : Option Held) (s : Stage η E) : Prop where
  catalog : s.layer.table = table
  sum : (fates none s.history).map Prod.fst ++ s.layer.inbox.toList = held₀.toList
  fits : ∀ held fate, (held, fate) ∈ fates none s.history → fate.Fits table held

namespace Conserves

variable {table : Table η} {held₀ : Option Held} {s s' : Stage η E}

/-- What is added to the history has no fates. -/
theorem quiet (h : Conserves table held₀ s) {moments : List (Instant η)}
    (hhistory : s'.history = s.history ++ moments) (htable : s'.layer.table = s.layer.table)
    (hinbox : s'.layer.inbox = s.layer.inbox) (hfates : fates s.history.getLast? moments = []) :
    Conserves table held₀ s' := by
  have hsame : fates none s'.history = fates none s.history := by
    rw [hhistory, fates_append, Option.or_none, hfates, List.append_nil]
  exact ⟨htable.trans h.catalog, by rw [hsame, hinbox, h.sum], by rw [hsame]; exact h.fits⟩

theorem change (h : Conserves table held₀ s) {f : Messenger Neighbour η → Messenger Neighbour η}
    (htable : (f s.layer).table = s.layer.table) (hinbox : (f s.layer).inbox = s.layer.inbox) :
    Conserves table held₀ (s.change f) :=
  h.quiet rfl htable hinbox (by simp [fates, fate?_changed hinbox])

theorem minor (h : Conserves table held₀ s) {f : Messenger Neighbour η → Messenger Neighbour η}
    (hminor : Minor s.layer (f s.layer)) : Conserves table held₀ (s.change f) :=
  h.change hminor.table hminor.inbox

theorem contact (h : Conserves table held₀ s) (around : E) (who : Neighbour) (what : Contact) :
    Conserves table held₀ (s.meet around (.contact who what)) :=
  h.quiet rfl rfl rfl rfl

/-- A handler that is given nothing. -/
theorem called (h : Conserves table held₀ s) (around : E) (running : Option Nat) (handler : η) :
    Conserves table held₀ (s.meet around (.called running handler none)) :=
  h.quiet rfl rfl rfl (by simp [fates, fate?])

/-- Arguments meet their fate. -/
theorem settle (h : Conserves table held₀ s) (moments : List (Instant η)) {held : Held}
    (fate : Fate η) (hheld : s.layer.inbox = some held)
    (hhistory : s'.history = s.history ++ moments) (htable : s'.layer.table = s.layer.table)
    (hinbox : s'.layer.inbox = none) (hfates : fates s.history.getLast? moments = [(held, fate)])
    (hfits : fate.Fits table held) : Conserves table held₀ s' := by
  have hnew : fates none s'.history = fates none s.history ++ [(held, fate)] := by
    rw [hhistory, fates_append, Option.or_none, hfates]
  have hsum := h.sum
  rw [hheld] at hsum
  refine ⟨htable.trans h.catalog, by simpa [hnew, hinbox] using hsum, ?_⟩
  rw [hnew]
  intro held' fate' hmem
  rcases List.mem_append.mp hmem with hmem | hmem
  · exact h.fits held' fate' hmem
  · obtain ⟨rfl, rfl⟩ := Prod.mk.inj (List.mem_singleton.mp hmem)
    exact hfits

section Rounds

variable {n : Neighbours E} {handle : η → Option Bytes → StateM E (Option Bytes)}
  {number : Nat} {priority : Priority} {message : Message η} {step : Step}

theorem emits (h : Conserves table held₀ s) {flags : Nat} {data : Bytes} {confirmed : Bool}
    (hemits : Emits n flags data confirmed s step s') : Conserves table held₀ s' := by
  cases hemits with
  | full => exact h.contact _ _ _
  | tooLong => exact (h.contact _ _ _).minor (Minor.count _)
  | sent => exact ((h.contact _ _ _).contact _ _ _).minor (Minor.count _)
  | refused => exact (h.contact _ _ _).contact _ _ _
  | failed => exact ((h.contact _ _ _).contact _ _ _).minor (Minor.count _)

/-- A handler is given what is held for its message. -/
theorem invokes (h : Conserves table held₀ s) {output : Option Bytes}
    (hmessage : s.layer.table.get? number = some message)
    (hspace : crowded? s.history.getLast? message.size = none)
    (hinvokes : Invokes (.noted handle) number priority s output s') :
    Conserves table held₀ s' := by
  by_cases hholds : s.layer.holds number
  · obtain ⟨data, hheld⟩ := holds_iff.mp hholds
    have hdiscard : s.layer.discard number = { s.layer with inbox := none } := by
      rw [discard, if_pos hholds]
    cases hinvokes with
    | unknown hunknown => simp [hmessage] at hunknown
    | unhandled hmessage' hnone =>
        obtain rfl : message = _ := Option.some.inj (hmessage.symm.trans hmessage')
        refine h.settle [_] .consumed hheld rfl ?_ ?_ ?_ ⟨message, h.catalog ▸ hmessage, hnone⟩
        · simp [hdiscard]
        · simp [hdiscard]
        · simp [fates, fate?, hdiscard, hheld, releasedAs?, hmessage, hspace, hnone]
    | @handled _ handler _ _ hmessage' hhandler hcall =>
        obtain rfl : message = _ := Option.some.inj (hmessage.symm.trans hmessage')
        obtain ⟨-, rfl⟩ := Prod.mk.inj hcall
        have hinput : input s.layer number = some data := by simp [input, hholds, hheld]
        have hserving : (serving number priority s).layer.inbox = none := by
          simp [serving, hdiscard]
        -- taking the arguments out is no fate of its own: the call of the handler is
        refine h.settle [.changed s.layer (s.layer.discard number),
            .changed (s.layer.discard number) (serving number priority s).layer,
            .noted (.called (some number) handler (some data)),
            .changed (serving number priority s).layer
              { (serving number priority s).layer with running := none }]
          (.given handler) hheld ?_ ?_ ?_ ?_ ⟨message, h.catalog ▸ hmessage, hhandler⟩
        · simp [serving, hinput]
        · simp [serving, hdiscard]
        · exact hserving
        · simp [fates, fate?, hdiscard, hserving, hheld, releasedAs?, hmessage, hspace, hhandler]
  · have hdiscard : s.layer.discard number = s.layer := by rw [discard, if_neg hholds]
    have hkept : Conserves table held₀ (s.change (·.discard number)) :=
      h.change (by simp [hdiscard]) (by simp [hdiscard])
    cases hinvokes with
    | unknown => exact h
    | unhandled => exact hkept
    | handled _ _ hcall =>
        obtain ⟨-, rfl⟩ := Prod.mk.inj hcall
        have hinput : input s.layer number = none := by simp [input, hholds]
        have hserving : Conserves table held₀ (serving number priority s) := hkept.change rfl rfl
        rw [hinput]
        exact (hserving.called _ _ _).change rfl rfl

theorem describes (h : Conserves table held₀ s) {entry : Entry}
    (hdescribes : Describes n entry message s step s') : Conserves table held₀ s' := by
  cases hdescribes with
  | stalled hemits => exact h.emits hemits
  | done hemits => exact (h.emits hemits).minor ((Minor.unlock _).trans (Minor.push _ _))

theorem queries (h : Conserves table held₀ s) {entry : Entry}
    (hqueries : Queries n entry s step s') : Conserves table held₀ s' := by
  cases hqueries with
  | held => exact h.minor (Minor.push _ _)
  | sent _ hemits => exact (h.emits hemits).minor (Minor.arm _ _ _)
  | unsent _ hemits => exact h.emits hemits

theorem history_probed {around : E} {room : Nat} :
    (probed s around room).history = s.history ++ [.noted (.contact .child (.capacity room))] :=
  rfl

/-- Arguments that the child has no room to answer are dropped, and counted. -/
theorem crowded (h : Conserves table held₀ s) {around : E} {room : Nat}
    (hmessage : s.layer.table.get? number = some message)
    (hcrowded : room < header + message.size) :
    Conserves table held₀ ((probed s around room).change fun g =>
      (g.count .txDropped).discard number) := by
  have hprobed : Conserves table held₀ (probed s around room) := h.contact _ _ _
  have hinbox : ((s.layer.count .txDropped).discard number).inbox =
      if s.layer.holds number then none else s.layer.inbox := inbox_discard
  by_cases hholds : s.layer.holds number
  · obtain ⟨data, hheld⟩ := holds_iff.mp hholds
    rw [if_pos hholds] at hinbox
    refine hprobed.settle [_] (.dropped room) hheld rfl table_discard hinbox ?_
      ⟨message, h.catalog ▸ hmessage, hcrowded⟩
    have hfate : fate? (some (.noted (.contact .child (.capacity room)))) (.changed s.layer
        ((s.layer.count .txDropped).discard number)) =
          some ({ number, data }, (.dropped room : Fate η)) := by
      have hstats : (s.layer.count .txDropped).stats = s.layer.stats.count .txDropped := rfl
      simp [fate?, hheld, hinbox, releasedAs?, hmessage, crowded?, room?, Option.filter, hcrowded,
        hstats]
    rw [history_probed, List.getLast?_concat, fates, ← Option.toList_some, ← hfate]
    exact List.append_nil _
  · rw [if_neg hholds] at hinbox
    exact hprobed.change table_discard hinbox

theorem crowded?_probed {around : E} {room size : Nat} (hspace : header + size ≤ room) :
    crowded? (probed s around room).history.getLast? size = none := by
  simpa [history_probed, crowded?, room?] using hspace

theorem supplies (h : Conserves table held₀ s) {entry : Entry}
    (hmessage : s.layer.table.get? entry.number = some message)
    (hsupplies : Supplies n (.noted handle) entry message (released entry s) step s') :
    Conserves table held₀ s' := by
  have hreleased : Conserves table held₀ (released entry s) ∧
      (released entry s).layer.table = s.layer.table := by
    rw [released]
    split
    · exact ⟨h.minor (Minor.unlock _), rfl⟩
    · exact ⟨h, rfl⟩
  rw [← hreleased.2] at hmessage
  have hprobed : ∀ around room, Conserves table held₀ (probed (released entry s) around room) :=
    fun around room => hreleased.1.contact around .child (.capacity room)
  cases hsupplies with
  | crowded _ hcrowded => exact hreleased.1.crowded hmessage hcrowded
  | silent _ hspace hinvokes =>
      exact (hprobed _ _).invokes hmessage (crowded?_probed hspace) hinvokes
  | misfit _ hspace hinvokes =>
      exact ((hprobed _ _).invokes hmessage (crowded?_probed hspace) hinvokes).minor (Minor.count _)
  | answered _ hspace hinvokes hemits =>
      exact ((hprobed _ _).invokes hmessage (crowded?_probed hspace) hinvokes).emits hemits
  | updated _ hspace hinvokes hemits =>
      exact (((hprobed _ _).invokes hmessage (crowded?_probed hspace) hinvokes).emits hemits).minor
        (Minor.arm _ _ _)

theorem visits (h : Conserves table held₀ s) {entry : Entry}
    (hvisits : Visits n (.noted handle) entry s step s') : Conserves table held₀ s' := by
  cases hvisits with
  | unknown => exact h
  | describes _ _ hdescribes => exact h.describes hdescribes
  | queries _ _ hqueries => exact h.queries hqueries
  | replied hmessage _ hinvokes =>
      exact invokes (s := s.change (·.unlock entry.number)) (h.minor (Minor.unlock _)) hmessage
        (by simp [crowded?, room?]) hinvokes
  | supplies hmessage _ hsupplies => exact h.supplies hmessage hsupplies

theorem turn (h : Conserves table held₀ s) (hturn : Turn n (.noted handle) s s') :
    Conserves table held₀ s' := by
  cases hturn with
  | full => exact h.contact _ _ _
  | idle => exact h.contact _ _ _
  | visit _ _ hvisits => exact ((h.contact _ _ _).change rfl rfl).visits hvisits
  | putBack _ _ hvisits =>
      exact (((h.contact _ _ _).change rfl rfl).visits hvisits).minor (Minor.push _ _)

end Rounds

end Conserves

/-! ### The calls of a run -/

section Calls

variable {n : Neighbours E} {limit : Nat} {handle : η → Option Bytes → StateM E (Option Bytes)}
  {g₀ g : Messenger Neighbour η} {s : Stage η E} {flags : UInt8} {data : Bytes}

theorem inbox_answer {number : Nat} {describe hasData : Bool} :
    (g.answer number describe hasData).inbox = g.inbox :=
  (Minor.answer number describe hasData).inbox

theorem inbox_taken_of_admits (h : g.Admits flags data) (packet : Bytes) :
    (g.taken packet flags data).inbox = some { number := asked flags, data } := by
  rw [taken, onPacket_of_admits h, if_pos rfl]
  exact inbox_answer

theorem inbox_taken_of_not_admits (h : ¬ g.Admits flags data) (packet : Bytes) :
    (g.taken packet flags data).inbox = g.inbox := by
  have hfilled := (Minor.filled (g := g) flags).inbox
  rw [taken]
  rcases onPacket_of_not_admits h with ⟨event, hpacket⟩ | hpacket <;> rw [hpacket]
  · exact hfilled
  · exact inbox_answer.trans hfilled

/-- What is held before a call or taken in by it is settled by it or held after it. -/
structure Balances (table : Table η) (call : Call η) : Prop where
  sum : call.before.inbox.toList ++ call.accepted?.toList =
    call.settled.map Prod.fst ++ call.after.inbox.toList
  fits : ∀ held fate, (held, fate) ∈ call.settled → fate.Fits table held

theorem Conserves.start (s : Stage η E) :
    Conserves s.layer.table s.layer.inbox { s with history := [] } :=
  ⟨rfl, rfl, nofun⟩

/-- An operation whose history shows what becomes of received arguments. -/
theorem Conserves.balances {op : Op} {s' : Stage η E} (h : Conserves g₀.table s.layer.inbox s')
    (hrecv : ∀ packet, op ≠ .recv packet) (hpost : ∀ number priority, op ≠ .post number priority) :
    Balances g₀.table ⟨op, s.layer, s'.history, s'.layer⟩ := by
  cases op with
  | recv packet => exact absurd rfl (hrecv packet)
  | post number priority => exact absurd rfl (hpost number priority)
  | _ => exact ⟨(List.append_nil _).trans h.sum.symm, h.fits⟩

/-- A packet that brought no arguments, or whose arguments were refused. -/
theorem Balances.refused {table : Table η} {call : Call η} {packet : Bytes}
    (hop : call.op = .recv packet) (haccepted : call.accepted? = none)
    (hinbox : call.after.inbox = call.before.inbox) : Balances table call := by
  have hsettled : call.settled = [] := by
    rw [Call.settled, hop]
    cases call.before.inbox <;> simp [haccepted]
  exact ⟨by simp [hsettled, haccepted, hinbox], by simp [hsettled]⟩

/-- A packet whose arguments were taken in, in the place of earlier ones if there were. -/
theorem Balances.taken {table : Table η} {call : Call η} {packet : Bytes} {later : Held}
    (hop : call.op = .recv packet) (haccepted : call.accepted? = some later)
    (hinbox : call.after.inbox = some later)
    (hsame : ∀ held, call.before.inbox = some held → held.number = later.number) :
    Balances table call := by
  have hsettled : call.settled = call.before.inbox.toList.map (·, .replaced later) := by
    rw [Call.settled, hop]
    cases call.before.inbox <;> simp [haccepted]
  refine ⟨by simp [hsettled, haccepted, hinbox, Function.comp_def], ?_⟩
  rw [hsettled]
  intro held fate hmem
  obtain ⟨held, hheld, hpair⟩ := List.mem_map.mp hmem
  obtain ⟨rfl, rfl⟩ := Prod.mk.inj hpair
  exact (hsame held (Option.mem_toList.mp hheld)).symm

theorem balances_recv (h : Stands g₀ none s.layer) {links : Links Neighbour}
    (hlinks : g₀.node.links = some links) (packet : Bytes) :
    Balances g₀.table ((Op.recv packet).call n limit handle s).1 := by
  have hreceives := receives_recv n limit (s := { s with history := [] }) hlinks h packet
  generalize hafter : ((recv (place n limit) packet).run { s with history := [] }).2 = s'
    at hreceives
  have hcall : ((Op.recv packet).call n limit handle s).1 =
      ⟨.recv packet, s.layer, s'.history, s'.layer⟩ := by
    rw [← hafter]
    rfl
  rw [hcall]
  have htaken : ∀ flags data moments, packet = Tag.message :: flags :: data →
      Balances g₀.table ⟨.recv packet, s.layer, moments, s.layer.taken packet flags data⟩ := by
    rintro flags data moments rfl
    by_cases hadmits : s.layer.Admits flags data
    · have hinbox := inbox_taken_of_admits hadmits (Tag.message :: flags :: data)
      refine .taken rfl ?_ hinbox hadmits.2.2
      simp [Call.accepted?, hinbox, hadmits.1]
    · have hinbox := inbox_taken_of_not_admits hadmits (Tag.message :: flags :: data)
      refine .refused rfl ?_ hinbox
      -- equal arguments that were there before would not have been refused
      have hrefused : ¬ (data ≠ [] ∧ s.layer.inbox = some { number := asked flags, data }) := by
        rintro ⟨hdata, hheld⟩
        refine hadmits ⟨hdata, (h.waits _ hheld).1, fun held hheld' => ?_⟩
        rw [hheld] at hheld'
        rw [← Option.some.inj hheld']
      rw [← hinbox] at hrefused
      simp only [Call.accepted?, true_and, if_neg hrefused]
  cases hreceives with
  | malformed hpacket =>
      refine .refused rfl ?_ rfl
      rw [Call.accepted?]
      split
      · next hop =>
          obtain rfl := Op.recv.inj hop
          rw [if_neg]
          rintro ⟨rfl, -⟩
          exact hpacket _ _ rfl
      · rfl
  | unseen hpacket => exact htaken _ _ _ hpacket
  | seen hpacket => exact htaken _ _ _ hpacket

theorem accepted?_recv (h : Stands g₀ none s.layer) {links : Links Neighbour}
    (hlinks : g₀.node.links = some links) (hadmits : s.layer.Admits flags data) :
    ((Op.recv (Tag.message :: flags :: data)).call n limit handle s).1.accepted? =
      some { number := asked flags, data } := by
  have hreceives := receives_recv n limit (s := { s with history := [] }) hlinks h
    (Tag.message :: flags :: data)
  have hinbox := inbox_taken_of_admits hadmits (Tag.message :: flags :: data)
  have hafter : ((recv (place n limit) (Tag.message :: flags :: data)).run
      { s with history := [] }).2.layer.inbox = some { number := asked flags, data } := by
    generalize ((recv (place n limit) (Tag.message :: flags :: data)).run
      { s with history := [] }).2 = s' at hreceives ⊢
    cases hreceives with
    | malformed hpacket => exact absurd rfl (hpacket flags data)
    | unseen hpacket =>
        cases hpacket
        exact hinbox
    | seen hpacket =>
        cases hpacket
        exact hinbox
  exact if_pos ⟨rfl, hadmits.1, hafter⟩

theorem balances_post (number : Nat) (priority : Priority) :
    Balances g₀.table ((Op.post number priority).call n limit handle s).1 := by
  have hcall : ∀ s' : Stage η E, ((Op.post number priority).run n limit (Handlers.noted handle)
      { s with history := [] }).2 = s' → ((Op.post number priority).call n limit handle s).1 =
        ⟨.post number priority, s.layer, s'.history, s'.layer⟩ := by
    rintro s' rfl
    rfl
  have hkept : ∀ (g' : Messenger Neighbour η) moments, g'.inbox = s.layer.inbox →
      Balances g₀.table ⟨.post number priority, s.layer, moments, g'⟩ := by
    intro g' moments hinbox
    have hsettled : Call.settled ⟨.post number priority, s.layer, moments, g'⟩ = [] := by
      simp only [Call.settled, hinbox]
      cases s.layer.inbox <;> rfl
    exact ⟨by simp [hsettled, hinbox, Call.accepted?], by simp [hsettled]⟩
  cases hpost : s.layer.post number priority with
  | error error =>
      rw [hcall { s with history := [] } (by simp only [Op.run, hpost])]
      exact hkept _ _ rfl
  | ok g' =>
      rw [hcall (Scene.change { s with history := [] } fun _ => g') (by simp only [Op.run, hpost])]
      rcases post_cases hpost with hsame | ⟨rfl, hcleared⟩ | ⟨-, -, hpushed⟩
      · exact hkept _ _ (congrArg inbox hsame)
      · have hinbox : g'.inbox = if s.layer.holds number then none else s.layer.inbox := by
          rw [hcleared]
          exact inbox_discard
        by_cases hholds : s.layer.holds number
        · obtain ⟨data, hheld⟩ := holds_iff.mp hholds
          rw [if_pos hholds] at hinbox
          refine ⟨?_, ?_⟩ <;> simp [Call.settled, Call.accepted?, hinbox, hheld, Fate.Fits]
        · rw [if_neg hholds] at hinbox
          exact hkept _ _ hinbox
      · have hinbox : g'.inbox = s.layer.inbox := by
          rw [hpushed]
          rfl
        exact hkept _ _ hinbox

variable (n limit handle) in
theorem balances_call (h : Stands g₀ none s.layer) {links : Links Neighbour}
    (hlinks : g₀.node.links = some links) (hchild : g₀.node.child = .ok .child) (op : Op) :
    Balances g₀.table (op.call n limit handle s).1 := by
  have hstart : Conserves g₀.table s.layer.inbox { s with history := [] } := h.table ▸ .start s
  cases op with
  | recv packet => exact balances_recv h hlinks packet
  | post number priority => exact balances_post number priority
  | resend => exact (hstart.minor (Minor.resend _)).balances nofun nofun
  | schedule =>
      refine Conserves.balances ?_ nofun nofun
      have hturns := turns_schedule n limit (Handlers.noted handle)
        (s := { s with history := [] }) (h.node ▸ hchild)
      change Conserves _ _
        ((schedule (place n limit) (Handlers.noted handle)).run { s with history := [] }).2
      generalize ((schedule (place n limit) (Handlers.noted handle)).run
        { s with history := [] }).2 = s' at hturns ⊢
      induction hturns with
      | refl => exact hstart.minor (Minor.expire _)
      | tail _ hturn ih => exact ih.turn hturn
  | delivered report => exact (hstart.minor (Minor.onDelivered _)).balances nofun nofun
  | advance ticks =>
      have hlater : Conserves g₀.table s.layer.inbox
          { s with history := [], now := s.now + ticks } := ⟨h.table, rfl, nofun⟩
      exact (hlater.minor (Minor.expire _)).balances nofun nofun

variable (n limit handle) in
/-- What the calls of a run do together. -/
theorem balances_calls {links : Links Neighbour} (hlinks : g₀.node.links = some links)
    (hchild : g₀.node.child = .ok .child) (ops : List Op) (h : Stands g₀ none s.layer) :
    Stands g₀ none (Op.calls n limit handle ops s).2.layer ∧
    s.layer.inbox.toList ++ accepted (Op.calls n limit handle ops s).1 =
      (settled (Op.calls n limit handle ops s).1).map Prod.fst ++
        (Op.calls n limit handle ops s).2.layer.inbox.toList ∧
    ∀ held fate, (held, fate) ∈ settled (Op.calls n limit handle ops s).1 →
      fate.Fits g₀.table held := by
  induction ops generalizing s with
  | nil => exact ⟨h, List.append_nil _, nofun⟩
  | cons op ops ih =>
      have hcall : ∀ handler input, Keeps (E := E) g₀ (Handlers.noted handle handler input) :=
        fun handler input s hs => hs
      have hbalances := balances_call n limit handle h hlinks hchild op
      have hstands : Stands g₀ none (op.call n limit handle s).2.layer :=
        keeps_run n limit hlinks hchild hcall op { s with history := [] } h
      obtain ⟨hstands', hsum, hfits⟩ := ih hstands
      have hrun : Op.calls n limit handle (op :: ops) s =
          ((op.call n limit handle s).1 ::
            (Op.calls n limit handle ops (op.call n limit handle s).2).1,
            (Op.calls n limit handle ops (op.call n limit handle s).2).2) := rfl
      rw [hrun, accepted_cons, settled_cons, List.map_append]
      refine ⟨hstands', ?_, fun held fate hmem => ?_⟩
      · have hfirst := hbalances.sum
        calc s.layer.inbox.toList ++ ((op.call n limit handle s).1.accepted?.toList ++ _)
          _ = (op.call n limit handle s).1.settled.map Prod.fst ++
                ((op.call n limit handle s).2.layer.inbox.toList ++ _) := by
              rw [← List.append_assoc, ← List.append_assoc]
              exact congrArg (· ++ _) hfirst
          _ = _ := by rw [hsum, List.append_assoc]
      · rcases List.mem_append.mp hmem with hmem | hmem
        · exact hbalances.fits held fate hmem
        · exact hfits held fate hmem

end Calls

end Messenger

/-- Whatever is done with a message layer whose handlers do not call it, over whatever
child, received arguments are accounted for after every call. -/
theorem received_accounted (table : Table η) (config : Config) (parent : Option Neighbour)
    (n : Neighbours E) (limit : Nat) (handle : η → Option Bytes → StateM E (Option Bytes))
    (ops : List Op) (around : E) (now : Tick) :
    Accounted n limit handle table
      (Op.calls n limit handle ops ⟨.begun table config parent, around, now, []⟩).1
      (Op.calls n limit handle ops ⟨.begun table config parent, around, now, []⟩).2 := by
  obtain ⟨hstands, hsum, hfits⟩ := Messenger.balances_calls n limit handle
    (s := ⟨.begun table config parent, around, now, []⟩) rfl rfl ops
    (Messenger.stands_begun table config parent)
  generalize Op.calls n limit handle ops _ = run at hstands hsum hfits ⊢
  obtain ⟨calls, s⟩ := run
  have hqueued : ∀ held, s.layer.inbox = some held →
      ∃ entry ∈ s.layer.queue.order, entry.number = held.number := fun held hheld =>
    (hstands.tidy.queue.exists_mem_iff held.number).mpr ((hstands.waits held hheld).2 nofun)
  have hempty : s.layer.queue.order = [] → s.layer.inbox = none := by
    intro hnone
    rw [Option.eq_none_iff_forall_ne_some]
    intro held hheld
    obtain ⟨entry, hmem, -⟩ := hqueued held hheld
    simp [hnone] at hmem
  refine ⟨hqueued, hsum, hfits, hempty, fun hnone flags data message hmessage hdata hsize => ?_⟩
  refine Messenger.accepted?_recv hstands rfl ⟨hdata, ⟨message, ?_, hsize⟩, ?_⟩
  · rw [hstands.table]
    exact hmessage
  · simp [hempty hnone]

end LinkStack.Exchange
