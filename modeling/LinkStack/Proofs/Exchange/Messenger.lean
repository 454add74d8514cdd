import Mathlib.Logic.Relation
import LinkStack.Exchange.Messenger
import LinkStack.Proofs.Exchange.Outbound

/-!
The changes of state of a message layer, message by message.

`Tidy` is what the parts of the state have in common, and `Waits` what holds of
received arguments: their message is queued, so that its turn will come. Most
changes are minor ones (`Minor`): they leave the received arguments alone and take
no message out of the queue. The functions that go through several messages are
described by what they do to a single one.
-/

namespace LinkStack.Exchange.Messenger

open LinkStack.Catalog (Table)

variable {ρ η : Type} {g g' g'' : Messenger ρ η} {number n : Nat} {priority : Priority}

/-! ### Locks -/

theorem lock?_set {locks : List (Option Lock)} {lock : Option Lock}
    (hlocks : g'.locks = locks.set number lock) (hsame : g.locks = locks)
    (hlt : number < locks.length) :
    g'.lock? n = if n = number then lock else g.lock? n := by
  rw [lock?, lock?, hlocks, hsame, List.getElem?_set]
  by_cases hn : number = n
  · subst hn
    simp [hlt]
  · simp [hn, Ne.symm hn]

theorem lock?_of_length_le (h : g.locks.length ≤ number) : g.lock? number = none := by
  rw [lock?, List.getElem?_eq_none h]
  rfl

theorem lt_length_of_lock? {lock : Lock} (h : g.lock? number = some lock) :
    number < g.locks.length := by
  rw [← Nat.not_le]
  intro hle
  rw [lock?_of_length_le hle] at h
  simp at h

@[simp] theorem lock?_push : (g.push number priority).lock? n = g.lock? n := rfl

@[simp] theorem lock?_count {event : Traffic} : (g.count event).lock? n = g.lock? n := rfl

@[simp] theorem lock?_discard : (g.discard number).lock? n = g.lock? n := by
  rw [discard]
  split <;> rfl

theorem lock?_unlock : (g.unlock number).lock? n = if n = number then none else g.lock? n := by
  by_cases hlt : number < g.locks.length
  · exact lock?_set rfl rfl hlt
  · rw [unlock, List.set_eq_of_length_le (Nat.not_lt.mp hlt)]
    split
    · simp [*, lock?_of_length_le (Nat.not_lt.mp hlt)]
    · rfl

/-- A report changes nothing or gives up one lock. -/
theorem onDelivered_cases (g : Messenger ρ η) (report : Delivery) :
    g.onDelivered report = g ∨
    ∃ m, g.isLocked m ∧ g.onDelivered report = (g.unlock m).count .txDropped := by
  rw [onDelivered]
  split
  · next tag flags _ =>
      split
      · next hdropped => exact .inr ⟨flags.toNat, hdropped.2.2, rfl⟩
      · exact .inl rfl
  · exact .inl rfl

/-! ### Received arguments -/

theorem holds_iff : g.holds number ↔ ∃ data, g.inbox = some { number, data } := by
  rw [holds]
  cases g.inbox with
  | none => simp
  | some held =>
      obtain ⟨m, data⟩ := held
      simp [Held.mk.injEq]

theorem inbox_discard : (g.discard number).inbox = if g.holds number then none else g.inbox := by
  rw [discard]
  split <;> rfl

@[simp] theorem table_discard : (g.discard number).table = g.table := by
  rw [discard]
  split <;> rfl

@[simp] theorem queue_discard : (g.discard number).queue = g.queue := by
  rw [discard]
  split <;> rfl

@[simp] theorem stats_discard : (g.discard number).stats = g.stats := by
  rw [discard]
  split <;> rfl

/-! ### Minor changes -/

/-- The queue has a level, and the locks a place, for every message. -/
structure Tidy (g : Messenger ρ η) : Prop where
  queue : g.queue.Consistent
  levels : g.queue.levels.length = g.table.size
  locks : g.locks.length = g.table.size

/-- Received arguments have the declared size, and are those of a message that is
queued or whose turn it is. -/
def Waits (turn : Option Nat) (g : Messenger ρ η) : Prop :=
  ∀ held, g.inbox = some held →
    (∃ message, g.table.get? held.number = some message ∧ held.data.length = message.size) ∧
    (turn ≠ some held.number → g.queue.level held.number ≠ .clear)

structure Minor (g g' : Messenger ρ η) : Prop where
  node : g'.node = g.node
  table : g'.table = g.table
  config : g'.config = g.config
  inbox : g'.inbox = g.inbox
  tidy : g.Tidy → g'.Tidy
  level : ∀ n, g.queue.level n ≤ g'.queue.level n

namespace Minor

theorem refl (g : Messenger ρ η) : Minor g g :=
  ⟨rfl, rfl, rfl, rfl, id, fun _ => Nat.le_refl _⟩

theorem trans (h : Minor g g') (h' : Minor g' g'') : Minor g g'' where
  node := h'.node.trans h.node
  table := h'.table.trans h.table
  config := h'.config.trans h.config
  inbox := h'.inbox.trans h.inbox
  tidy := h'.tidy ∘ h.tidy
  level n := Nat.le_trans (h.level n) (h'.level n)

/-- A change of other parts of the state, or of locks. -/
theorem of_queue (hnode : g'.node = g.node) (htable : g'.table = g.table)
    (hconfig : g'.config = g.config) (hinbox : g'.inbox = g.inbox) (hqueue : g'.queue = g.queue)
    (hlocks : g'.locks.length = g.locks.length) : Minor g g' where
  node := hnode
  table := htable
  config := hconfig
  inbox := hinbox
  tidy h := ⟨hqueue ▸ h.queue, by rw [hqueue, htable, h.levels], by rw [hlocks, htable, h.locks]⟩
  level n := Nat.le_of_eq (by rw [hqueue])

theorem count (event : Traffic) : Minor g (g.count event) :=
  of_queue rfl rfl rfl rfl rfl rfl

theorem unlock (number : Nat) : Minor g (g.unlock number) :=
  of_queue rfl rfl rfl rfl rfl List.length_set

theorem arm (now : Tick) (number : Nat) (kind : LockKind) : Minor g (g.arm now number kind) :=
  of_queue rfl rfl rfl rfl rfl List.length_set

theorem push (number : Nat) (priority : Priority) : Minor g (g.push number priority) where
  node := rfl
  table := rfl
  config := rfl
  inbox := rfl
  tidy h := ⟨h.queue.push number priority, Outbound.length_levels_push.trans h.levels, h.locks⟩
  level _ := Outbound.le_level_push

theorem foldl {α : Type} {f : Messenger ρ η → α → Messenger ρ η} (hf : ∀ g a, Minor g (f g a))
    (l : List α) (g : Messenger ρ η) : Minor g (l.foldl f g) := by
  induction l generalizing g with
  | nil => exact refl g
  | cons a l ih => exact (hf g a).trans (ih (f g a))

theorem expireLock (now : Tick) (number : Nat) : Minor g (expireLock now g number) := by
  rw [Messenger.expireLock]
  split
  · exact refl g
  · split
    · exact refl g
    · split
      · refine Minor.trans ?_ ((push _ _).trans (count _))
        exact of_queue rfl rfl rfl rfl rfl List.length_set
      · exact (unlock _).trans (count _)

theorem expire (now : Tick) : Minor g (g.expire now) :=
  foldl (fun _ number => expireLock now number) _ g

theorem resend (now : Tick) : Minor g (g.resend now).2 := by
  refine foldl (fun g number => ?_) _ g
  split
  · exact refl g
  · refine Minor.trans ?_ ((push _ _).trans (count _))
    exact of_queue rfl rfl rfl rfl rfl List.length_set

theorem fill (priority : Priority) : Minor g (g.fill priority) :=
  foldl (fun _ i => push (i + 1) priority) _ g

theorem answer (number : Nat) (describe hasData : Bool) :
    Minor g (g.answer number describe hasData) := by
  rw [Messenger.answer]
  repeat' split
  all_goals first | exact push _ _ | exact refl g

theorem onDelivered (report : Delivery) : Minor g (g.onDelivered report) := by
  rcases onDelivered_cases g report with hsame | ⟨m, -, hdropped⟩
  · rw [hsame]
    exact refl g
  · rw [hdropped]
    exact (unlock m).trans (count _)

theorem waits {turn : Option Nat} (h : Minor g g') (hg : g.Waits turn) : g'.Waits turn := by
  intro held hheld
  rw [h.inbox] at hheld
  obtain ⟨hsize, hqueued⟩ := hg held hheld
  rw [h.table]
  refine ⟨hsize, fun hturn => ?_⟩
  have hpos := Nat.pos_of_ne_zero (hqueued hturn)
  exact Nat.ne_zero_of_lt (Nat.lt_of_lt_of_le hpos (h.level _))

end Minor

/-! ### Queueing -/

/-- A message is left as it is, taken out of the queue, or queued. -/
theorem post_cases (h : g.post number priority = .ok g') :
    g' = g ∨
    (priority = .clear ∧ g' = (({ g with queue := g.queue.remove number } :
      Messenger ρ η).unlock number).discard number) ∨
    (priority ≠ .clear ∧ number < g.table.size ∧ g' = g.push number priority) := by
  rw [post] at h
  by_cases hunknown : g.table.size ≤ number
  · simp [hunknown] at h
  by_cases hinvalid : Priority.max < priority
  · simp [hunknown, hinvalid] at h
  rw [if_neg hunknown, if_neg hinvalid] at h
  by_cases hrunning : g.running = some number
  · rw [if_pos hrunning] at h
    exact .inl (Except.ok.inj h).symm
  rw [if_neg hrunning] at h
  by_cases hclear : priority = .clear
  · rw [if_pos hclear] at h
    exact .inr (.inl ⟨hclear, (Except.ok.inj h).symm⟩)
  rw [if_neg hclear] at h
  split at h
  · exact .inl (Except.ok.inj h).symm
  · exact .inr (.inr ⟨hclear, Nat.not_le.mp hunknown, (Except.ok.inj h).symm⟩)

/-! ### Received packets -/

/-- Arguments that were taken in queue their message. -/
theorem answer_data (g : Messenger ρ η) (number : Nat) (describe : Bool) :
    ∃ priority, priority ≠ .clear ∧ g.answer number describe true = g.push number priority := by
  rw [answer]
  split
  · exact ⟨_, by decide, rfl⟩
  · split
    · exact ⟨.queryWait, by decide, rfl⟩
    · exact ⟨_, by decide, rfl⟩

/-- The number in a packet. -/
def asked (flags : UInt8) : Nat := flags.toNat % descriptorFlag

/-- The message a packet is for. -/
def addressee (table : Table η) (flags : UInt8) : Nat := min (asked flags) table.terminator

/-- The layer once a request for the whole catalog is queued. -/
def filled (g : Messenger ρ η) (flags : UInt8) : Messenger ρ η :=
  if asked flags = wholeCatalog then
    g.fill (if descriptorFlag ≤ flags.toNat then .descriptionLow else .low)
  else g

theorem Minor.filled (flags : UInt8) : Minor g (g.filled flags) := by
  rw [Messenger.filled]
  split
  · exact fill _
  · exact refl g

/-- Arguments of a packet that can be taken in: they have the declared size, and no
other message has arguments waiting. -/
def Admits (g : Messenger ρ η) (flags : UInt8) (data : Bytes) : Prop :=
  data ≠ [] ∧
  (∃ message, g.table.get? (asked flags) = some message ∧ data.length = message.size) ∧
  ∀ held, g.inbox = some held → held.number = asked flags

theorem lt_size_of_get? {table : Table η} {message : Catalog.Message η}
    (h : table.get? number = some message) : number < table.size :=
  (List.getElem?_eq_some_iff.mp h).1

theorem onPacket_eq (g : Messenger ρ η) (flags : UInt8) (data : Bytes) :
    g.onPacket flags data =
      match (g.filled flags).accept (addressee g.table flags)
        (if g.table.terminator < asked flags then [] else data) with
      | .error event => (false, (g.filled flags).count event)
      | .ok g' => (true, g'.answer (addressee g.table flags) (descriptorFlag ≤ flags.toNat)
        (decide ((if g.table.terminator < asked flags then [] else data) ≠ []))) := by
  by_cases hlast : g.table.terminator < asked flags
  · have hmin := Nat.min_eq_right (Nat.le_of_lt hlast)
    rw [asked] at hlast hmin
    simp only [onPacket, addressee, filled, asked, hlast, hmin, if_true]
    rfl
  · have hmin := Nat.min_eq_left (Nat.not_lt.mp hlast)
    rw [asked] at hlast hmin
    simp only [onPacket, addressee, filled, asked, hlast, hmin, if_false]
    rfl

theorem onPacket_of_admits {flags : UInt8} {data : Bytes} (h : g.Admits flags data) :
    g.onPacket flags data = (true, ({ g.filled flags with
      inbox := some { number := asked flags, data } } : Messenger ρ η).answer (asked flags)
        (descriptorFlag ≤ flags.toNat) true) := by
  obtain ⟨hdata, ⟨message, hmessage, hsize⟩, hfree⟩ := h
  have hminor := Minor.filled (g := g) flags
  have hlt : ¬ g.table.terminator < asked flags :=
    Nat.not_lt.mpr (Nat.le_pred_of_lt (lt_size_of_get? hmessage))
  have haddressee : addressee g.table flags = asked flags := Nat.min_eq_left (Nat.not_lt.mp hlt)
  have hroom : ¬ ((g.filled flags).inbox.isSome ∧ ¬ (g.filled flags).holds (asked flags)) := by
    rintro ⟨hsome, hother⟩
    rw [hminor.inbox] at hsome
    obtain ⟨held, hheld⟩ := Option.isSome_iff_exists.mp hsome
    refine hother (holds_iff.mpr ⟨held.data, ?_⟩)
    rw [hminor.inbox, hheld, ← hfree held hheld]
  have haccept : (g.filled flags).accept (asked flags) data = .ok { g.filled flags with
      inbox := some { number := asked flags, data } } := by
    have hdeclared : ¬ data.length ≠
        (((g.filled flags).table.get? (asked flags)).map (·.size)).getD 0 := by
      simp [hminor.table, hmessage, hsize]
    rw [accept, if_neg hdata, if_neg hdeclared, if_neg hroom]
  rw [onPacket_eq, if_neg hlt, haddressee, haccept]
  simp [hdata]

theorem onPacket_of_not_admits {flags : UInt8} {data : Bytes} (h : ¬ g.Admits flags data) :
    (∃ event, g.onPacket flags data = (false, (g.filled flags).count event)) ∨
    g.onPacket flags data = (true, (g.filled flags).answer (addressee g.table flags)
      (descriptorFlag ≤ flags.toNat) false) := by
  have hminor := Minor.filled (g := g) flags
  rw [onPacket_eq]
  by_cases hempty : (if g.table.terminator < asked flags then [] else data) = []
  · right
    rw [hempty, accept, if_pos rfl]
    simp
  have hlt : ¬ g.table.terminator < asked flags := fun hlt => hempty (if_pos hlt)
  have haddressee : addressee g.table flags = asked flags := Nat.min_eq_left (Nat.not_lt.mp hlt)
  rw [if_neg hlt] at hempty ⊢
  left
  rw [haddressee, accept, if_neg hempty]
  by_cases hsize : data.length ≠ (((g.filled flags).table.get? (asked flags)).map (·.size)).getD 0
  · rw [if_pos hsize]
    exact ⟨_, rfl⟩
  by_cases hbusy : (g.filled flags).inbox.isSome ∧ ¬ (g.filled flags).holds (asked flags)
  · rw [if_neg hsize, if_pos hbusy]
    exact ⟨_, rfl⟩
  refine absurd ⟨hempty, ?_, fun held hheld => ?_⟩ h
  · rw [Decidable.not_not, hminor.table] at hsize
    cases hmessage : g.table.get? (asked flags) with
    | none =>
        rw [hmessage] at hsize
        exact absurd (List.length_eq_zero_iff.mp hsize) hempty
    | some message =>
        rw [hmessage] at hsize
        exact ⟨message, rfl, hsize⟩
  · rw [← hminor.inbox] at hheld
    rw [hheld, not_and, Decidable.not_not] at hbusy
    obtain ⟨data', hdata'⟩ := holds_iff.mp (hbusy rfl)
    rw [hheld] at hdata'
    exact congrArg Held.number (Option.some.inj hdata')

/-- The layer after a packet, before the parent is shown it. -/
def taken (g : Messenger ρ η) (packet : Bytes) (flags : UInt8) (data : Bytes) :
    Messenger ρ η :=
  if (g.onPacket flags data).1 then (g.onPacket flags data).2.count (.rxPacket packet.length)
  else (g.onPacket flags data).2

/-! ### Edits -/

/-- A change of one part of the layer: every change of the layer is made of these, save that
messages are taken out of the queue in their turns, and that handlers are run. -/
inductive Edit (g : Messenger ρ η) : Messenger ρ η → Prop where
  | push (number : Nat) (priority : Priority) : Edit g (g.push number priority)
  | remove (number : Nat) : Edit g { g with queue := g.queue.remove number }
  | locks (locks : List (Option Lock)) : Edit g { g with locks }
  | inbox (inbox : Option Held) : Edit g { g with inbox }
  | stats (stats : Stats) : Edit g { g with stats }

abbrev Edits : Messenger ρ η → Messenger ρ η → Prop := Relation.ReflTransGen Edit

namespace Edits

theorem push (g : Messenger ρ η) (number : Nat) (priority : Priority) :
    Edits g (g.push number priority) :=
  .single (.push number priority)

theorem count (g : Messenger ρ η) (event : Traffic) : Edits g (g.count event) :=
  .single (.stats _)

theorem unlock (g : Messenger ρ η) (number : Nat) : Edits g (g.unlock number) :=
  .single (.locks _)

theorem arm (g : Messenger ρ η) (now : Tick) (number : Nat) (kind : LockKind) :
    Edits g (g.arm now number kind) :=
  .single (.locks _)

theorem discard (g : Messenger ρ η) (number : Nat) : Edits g (g.discard number) := by
  rw [Messenger.discard]
  split
  · exact .single (.inbox none)
  · exact .refl

theorem foldl {α : Type} {f : Messenger ρ η → α → Messenger ρ η} (hf : ∀ g a, Edits g (f g a))
    (l : List α) (g : Messenger ρ η) : Edits g (l.foldl f g) := by
  induction l generalizing g with
  | nil => exact .refl
  | cons a l ih => exact (hf g a).trans (ih (f g a))

theorem expire (g : Messenger ρ η) (now : Tick) : Edits g (g.expire now) := by
  refine foldl (fun g number => ?_) _ g
  rw [expireLock]
  split
  · exact .refl
  · split
    · exact .refl
    · split
      · exact (Relation.ReflTransGen.single (.locks _)).trans ((push _ _ _).trans (count _ _))
      · exact (unlock g _).trans (count _ _)

theorem resend (g : Messenger ρ η) (now : Tick) : Edits g (g.resend now).2 := by
  refine foldl (fun g number => ?_) _ g
  split
  · exact .refl
  · exact (Relation.ReflTransGen.single (.locks _)).trans ((push _ _ _).trans (count _ _))

theorem filled (g : Messenger ρ η) (flags : UInt8) : Edits g (g.filled flags) := by
  rw [Messenger.filled]
  split
  · exact foldl (fun g i => push g (i + 1) _) _ g
  · exact .refl

theorem answer (g : Messenger ρ η) (number : Nat) (describe hasData : Bool) :
    Edits g (g.answer number describe hasData) := by
  rw [Messenger.answer]
  repeat' split
  all_goals first | exact push _ _ _ | exact .refl

theorem taken (g : Messenger ρ η) (packet : Bytes) (flags : UInt8) (data : Bytes) :
    Edits g (g.taken packet flags data) := by
  have hfilled := filled g flags
  have hpacket : Edits g (g.onPacket flags data).2 := by
    by_cases hadmits : g.Admits flags data
    · rw [onPacket_of_admits hadmits]
      exact (hfilled.tail (.inbox _)).trans (answer _ _ _ _)
    · rcases onPacket_of_not_admits hadmits with ⟨event, hpacket⟩ | hpacket <;> rw [hpacket]
      · exact hfilled.trans (count _ _)
      · exact hfilled.trans (answer _ _ _ _)
  rw [Messenger.taken]
  split
  · exact hpacket.trans (count _ _)
  · exact hpacket

theorem post (h : g.post number priority = .ok g') : Edits g g' := by
  rcases post_cases h with rfl | ⟨-, rfl⟩ | ⟨-, -, rfl⟩
  · exact .refl
  · exact (Relation.ReflTransGen.single (.remove number)).trans
      ((unlock _ number).trans (discard _ number))
  · exact push _ _ _

theorem onDelivered (g : Messenger ρ η) (report : Delivery) : Edits g (g.onDelivered report) := by
  rcases onDelivered_cases g report with hsame | ⟨m, -, hdropped⟩
  · rw [hsame]
  · rw [hdropped]
    exact (unlock g m).trans (count _ _)

end Edits

end LinkStack.Exchange.Messenger
