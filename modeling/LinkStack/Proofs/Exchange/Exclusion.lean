import LinkStack.Proofs.Exchange.Received
import LinkStack.Proofs.Exchange.Spared

/-!
What a lock keeps out of the queue.

A message that waits for a reply is to be queued at the priorities of the exchange
alone (`Priority.reserved`), so that its arguments are not sent at an ordinary one.
Every operation asks for the lock or queues at a reserved priority, save one: a
request for the whole catalog queues every message that is not queued, locked or not.
A call of it that finds such a message `Floods`, and in a run without one every lock
excludes ordinary sends (`excludes_iff_not_floods`).

What is handed to the child is read off the history by a `Watch`, which knows the
entry whose turn it is and the layer as it was last seen.
-/

namespace LinkStack.Exchange

open LinkStack.Catalog (Table Message)

/-- The priorities at which a locked message may be queued. -/
def Priority.reserved : List Priority :=
  [description, descriptionLow, unlockArgs, queryArgs, queryWait, updateArgs]

variable {η E : Type}

/-! ### Reading the history -/

/-- A packet that is handed to the child: in whose turn, whether the message was locked,
and what. -/
structure Sending where
  entry : Entry
  locked : Bool
  packet : Bytes
  deriving DecidableEq, Repr

/-- What is known of a layer from its history. -/
structure Watch (η : Type) where
  turn : Option Entry := none
  layer : Messenger Neighbour η
  sendings : List Sending := []

namespace Watch

def handOver (w : Watch η) (packet : Bytes) : Watch η :=
  { w with sendings := w.sendings ++ w.turn.toList.map fun entry =>
      { entry, locked := w.layer.isLocked entry.number, packet } }

/-- The entry that a change takes out of the queue, or the one before. -/
def nextTurn (turn : Option Entry) (g g' : Messenger Neighbour η) : Option Entry :=
  match g.queue.pop with
  | some (entry, queue) => if g'.queue = queue then some entry else turn
  | none => turn

def see (w : Watch η) : Instant η → Watch η
  | .changed g g' => { w with layer := g', turn := nextTurn w.turn g g' }
  | .noted (.contact .child (.send packet _)) => w.handOver packet
  | .noted (.contact .child (.sendConfirmed packet _)) => w.handOver packet
  | .noted _ => w

end Watch

def watch (g : Messenger Neighbour η) (history : List (Instant η)) : Watch η :=
  history.foldl Watch.see { layer := g }

namespace Call

/-- After the call no locked message is queued at an ordinary priority, and during it
nothing was sent in the turn of one. -/
structure Excludes (call : Call η) : Prop where
  queued : ∀ entry ∈ call.after.queue.order,
    call.after.isLocked entry.number → entry.priority ∈ Priority.reserved
  sent : ∀ sending ∈ (watch call.before call.moments).sendings,
    sending.locked → sending.entry.priority ∈ Priority.reserved

/-- A request for the arguments of the whole catalog, while a message between the first
and the last is locked and not queued. -/
def Floods (call : Call η) : Prop :=
  ∃ flags data, call.op = .recv (Tag.message :: flags :: data) ∧
    flags.toNat = wholeCatalog ∧
    ∃ number, 0 < number ∧ number < call.before.table.terminator ∧
      call.before.isLocked number ∧ call.before.queue.priority? number = none

end Call

namespace Messenger

/-! ### Changes of state -/

section Changes

variable {ρ : Type} {g g' : Messenger ρ η} {number : Nat} {priority : Priority}

/-- No locked message is queued at an ordinary priority. -/
def Excludes (g : Messenger ρ η) : Prop :=
  ∀ m, g.isLocked m → g.queue.level m ≠ .clear → g.queue.level m ∈ Priority.reserved

/-- A request for the whole catalog would queue a locked message. -/
def Exposes (g : Messenger ρ η) : Prop :=
  ∃ m, 0 < m ∧ m < g.table.terminator ∧ g.isLocked m ∧ g.queue.level m = .clear

theorem low_lt_of_mem_reserved (h : priority ∈ Priority.reserved) : Priority.low < priority := by
  revert priority
  decide

namespace Excludes

/-- A change that is about one message. -/
theorem of_spared (h : g.Excludes) (number : Nat) (hspared : ∀ m, number ≠ m → Spared m g g')
    (hself : g'.isLocked number → g'.queue.level number ≠ .clear →
      g'.queue.level number ∈ Priority.reserved) : g'.Excludes := by
  intro m hlocked hqueued
  by_cases hm : number = m
  · subst hm
    exact hself hlocked hqueued
  · rw [(hspared m hm).isLocked] at hlocked
    rw [(hspared m hm).level] at hqueued ⊢
    exact h m hlocked hqueued

/-- A change of neither queue nor locks. -/
theorem of_eq (h : g.Excludes) (hqueue : g'.queue = g.queue) (hlocks : g'.locks = g.locks) :
    g'.Excludes := by
  intro m hlocked hqueued
  rw [isLocked, lock?, hlocks] at hlocked
  rw [hqueue] at hqueued ⊢
  exact h m hlocked hqueued

theorem unlock (h : g.Excludes) (number : Nat) : (g.unlock number).Excludes :=
  h.of_spared number (fun _ hm => .unlock hm) fun hlocked => by
    rw [isLocked, lock?_unlock, if_pos rfl] at hlocked
    simp at hlocked

theorem discard (h : g.Excludes) (number : Nat) : (g.discard number).Excludes := by
  rw [Messenger.discard]
  split
  · exact h.of_eq rfl rfl
  · exact h

/-- A message that is not queued may be locked in any way. -/
theorem relock (h : g.Excludes) (lock : Option Lock) (hclear : g.queue.level number = .clear) :
    ({ g with locks := g.locks.set number lock } : Messenger ρ η).Excludes :=
  h.of_spared number (fun _ hm => .relock hm lock) fun _ hqueued => absurd hclear hqueued

theorem push (h : g.Excludes) (hpriority : g.isLocked number → priority ∈ Priority.reserved) :
    (g.push number priority).Excludes := by
  refine h.of_spared number (fun _ hm => .push hm _) fun hlocked hqueued => ?_
  have hbefore := h number hlocked
  by_cases hlt : number < g.queue.levels.length
  · rcases Outbound.push_cases hlt priority with ⟨hle, hpush⟩ | ⟨hraised, hpush⟩
    · rw [Messenger.push, hpush] at hqueued ⊢
      exact hbefore hqueued
    · rw [Messenger.push, hpush, Outbound.level_set hlt, if_pos rfl]
      exact hpriority hlocked
  · rw [Messenger.push, Outbound.push_of_length_le (Nat.not_lt.mp hlt)] at hqueued ⊢
    exact hbefore hqueued

/-- A lock that is renewed, with its message queued again. -/
theorem renew (h : g.Excludes) {lock lock' : Lock} (hlock : g.lock? number = some lock)
    (hpriority : priority ∈ Priority.reserved) :
    (({ g with locks := g.locks.set number (some lock') } : Messenger ρ η).push number
      priority).Excludes := by
  refine push ?_ fun _ => hpriority
  refine h.of_spared number (fun _ hm => .relock hm _) fun _ hqueued => ?_
  exact h number (by rw [isLocked, hlock]; rfl) hqueued

theorem retryPriority_mem (kind : LockKind) : kind.retryPriority ∈ Priority.reserved := by
  cases kind <;> decide

theorem foldl {α : Type} {f : Messenger ρ η → α → Messenger ρ η}
    (hf : ∀ (g : Messenger ρ η) a, g.Excludes → (f g a).Excludes) (h : g.Excludes) (l : List α) :
    (l.foldl f g).Excludes := by
  induction l generalizing g with
  | nil => exact h
  | cons a l ih => exact ih (hf g a h)

theorem expire (h : g.Excludes) (now : Tick) : (g.expire now).Excludes := by
  refine foldl (fun g number h => ?_) h _
  rw [expireLock]
  cases hlock : g.lock? number with
  | none => exact h
  | some lock =>
      simp only
      split
      · exact h
      · split
        · exact (h.renew hlock (retryPriority_mem _)).of_eq rfl rfl
        · exact (h.unlock number).of_eq rfl rfl

theorem resend (h : g.Excludes) (now : Tick) : (g.resend now).2.Excludes := by
  refine foldl (fun g number h => ?_) h g.lockedNumbers
  cases hlock : g.lock? number with
  | none => exact h
  | some lock => exact (h.renew hlock (retryPriority_mem _)).of_eq rfl rfl

theorem onDelivered (h : g.Excludes) (report : Delivery) : (g.onDelivered report).Excludes := by
  rcases onDelivered_cases g report with hsame | ⟨m, -, hdropped⟩
  · rwa [hsame]
  · rw [hdropped]
    exact (h.unlock m).of_eq rfl rfl

theorem answer (h : g.Excludes) (number : Nat) (describe hasData : Bool) :
    (g.answer number describe hasData).Excludes := by
  rw [Messenger.answer]
  split
  · exact h.push fun _ => by decide
  · split
    · split
      · exact h.push fun _ => by decide
      · exact h
    · next hfree => exact h.push fun hlocked => absurd hlocked hfree

end Excludes

/-- A locked message takes no ordinary priority. -/
theorem post_of_locked (hlocked : g.isLocked number)
    (hpasses : Priority.passesLock priority = false)
    (hclear : priority ≠ .clear) (h : g.post number priority = .ok g') : g' = g := by
  rw [post] at h
  by_cases hunknown : g.table.size ≤ number
  · simp [hunknown] at h
  by_cases hinvalid : Priority.max < priority
  · simp [hunknown, hinvalid] at h
  rw [if_neg hunknown, if_neg hinvalid] at h
  by_cases hrunning : g.running = some number
  · rw [if_pos hrunning] at h
    exact (Except.ok.inj h).symm
  · rw [if_neg hrunning, if_neg hclear, if_pos ⟨hlocked, by simp [hpasses]⟩] at h
    exact (Except.ok.inj h).symm

theorem mem_reserved_of_passesLock (h : Priority.passesLock priority) :
    priority ∈ Priority.reserved := by
  simp only [Priority.passesLock, Bool.or_eq_true, decide_eq_true_eq] at h
  rcases h with (rfl | rfl) | rfl <;> decide

theorem Excludes.post (h : g.Excludes) (hpost : g.post number priority = .ok g') :
    g'.Excludes := by
  rcases post_cases hpost with rfl | ⟨-, rfl⟩ | ⟨hclear, -, rfl⟩
  · exact h
  · refine ((Excludes.unlock ?_ number).discard number)
    refine h.of_spared number (fun m hm => ?_) fun _ hqueued => absurd ?_ hqueued
    · exact ⟨Outbound.level_remove.trans (if_neg (Ne.symm hm)), rfl, id⟩
    · exact Outbound.level_remove.trans (if_pos rfl)
  · cases hpasses : Priority.passesLock priority with
    | true => exact h.push fun _ => mem_reserved_of_passesLock hpasses
    | false =>
        by_cases hlocked : g.isLocked number
        · rw [post_of_locked hlocked hpasses hclear hpost]
          exact h
        · exact h.push fun hlocked' => absurd hlocked' hlocked

/-! ### The whole catalog -/

/-- Without exposed messages, filling the queue raises no locked one. -/
theorem Excludes.fill (h : g.Excludes) (hexposes : priority = .low → ¬ g.Exposes)
    (hpriority : priority = .low ∨ priority ∈ Priority.reserved) : (g.fill priority).Excludes := by
  -- by induction on the messages filled, which are between the first and the last
  suffices ∀ (l : List Nat) (g : Messenger ρ η), (∀ i ∈ l, i + 1 < g.table.terminator) →
      (priority = .low → ¬ g.Exposes) → g.Excludes →
      (l.foldl (fun g i => g.push (i + 1) priority) g).Excludes by
    refine this _ g (fun i hi => ?_) hexposes h
    have hlt := List.mem_range.mp hi
    omega
  intro l
  induction l with
  | nil => exact fun g _ _ h => h
  | cons i l ih =>
      intro g hl hexposes h
      refine ih (g.push (i + 1) priority) (fun j hj => hl j (List.mem_cons_of_mem i hj)) ?_ ?_
      · rintro hlow ⟨m, hpos, hlt, hlocked, hclear⟩
        refine hexposes hlow ⟨m, hpos, hlt, hlocked, Nat.le_zero.mp ?_⟩
        exact Nat.le_trans Outbound.le_level_push (Nat.le_of_eq hclear)
      · rcases hpriority with hlow | hreserved
        · by_cases hlocked : g.isLocked (i + 1)
          · -- it is queued already, at a higher priority
            have hqueued : g.queue.level (i + 1) ≠ .clear := fun hclear =>
              hexposes hlow ⟨i + 1, Nat.succ_pos i, hl i List.mem_cons_self, hlocked, hclear⟩
            have hhigher := low_lt_of_mem_reserved (h (i + 1) hlocked hqueued)
            have hsame : g.queue.push (i + 1) priority = g.queue := by
              rcases Outbound.push_cases (Outbound.lt_length_of_level hqueued) priority with
                ⟨-, hpush⟩ | ⟨hraised, -⟩
              · exact hpush
              · rw [hlow] at hraised
                exact absurd hraised (Nat.lt_asymm hhigher)
            exact h.of_eq hsame rfl
          · exact h.push fun hlocked' => absurd hlocked' hlocked
        · exact h.push fun _ => hreserved

theorem Excludes.taken {flags : UInt8} (h : g.Excludes)
    (hexposes : flags.toNat = wholeCatalog → ¬ g.Exposes) (packet data : Bytes) :
    (g.taken packet flags data).Excludes := by
  have hfilled : (g.filled flags).Excludes := by
    rw [Messenger.filled]
    split
    · next hwhole =>
        refine h.fill (fun hlow => ?_) ?_
        · split at hlow
          · exact absurd hlow (by decide)
          · next hplain =>
              refine hexposes ?_
              rwa [asked, Nat.mod_eq_of_lt (Nat.not_le.mp hplain)] at hwhole
        · split
          · exact .inr (by decide)
          · exact .inl rfl
    · exact h
  rw [Messenger.taken]
  by_cases hadmits : g.Admits flags data
  · have htaken : ({ g.filled flags with
        inbox := some { number := asked flags, data } } : Messenger ρ η).Excludes :=
      hfilled.of_eq rfl rfl
    rw [onPacket_of_admits hadmits, if_pos rfl]
    exact (htaken.answer _ _ _).of_eq rfl rfl
  · rcases onPacket_of_not_admits hadmits with ⟨event, hpacket⟩ | hpacket <;> rw [hpacket]
    · exact hfilled.of_eq rfl rfl
    · exact (hfilled.answer _ _ _).of_eq rfl rfl

theorem level_foldl_push {l : List Nat} {m : Nat} (htidy : g.Tidy) (hm : m < g.table.size) :
    (l.foldl (fun g i => g.push (i + 1) priority) g).queue.level m =
      if ∃ i ∈ l, i + 1 = m then max (g.queue.level m) priority else g.queue.level m := by
  induction l generalizing g with
  | nil => simp
  | cons i l ih =>
      have hlevels : m < g.queue.levels.length := htidy.levels ▸ hm
      rw [List.foldl_cons, ih ((Minor.push _ _).tidy htidy) hm]
      by_cases hi : i + 1 = m
      · subst hi
        rw [Messenger.push, Outbound.level_push hlevels, if_pos rfl]
        simp
      · rw [Messenger.push, Outbound.level_push_of_ne (Ne.symm hi)]
        simp [hi]

/-- An exposed message is queued at an ordinary priority by a request for the whole catalog. -/
theorem Exposes.not_excludes {flags : UInt8} (h : g.Exposes) (hwhole : flags.toNat = wholeCatalog)
    (htidy : g.Tidy) (hsize : g.table.size ≤ Catalog.maxMessages) (packet data : Bytes) :
    ¬ (g.taken packet flags data).Excludes := by
  obtain ⟨m, hpos, hlt, hlocked, hclear⟩ := h
  have hterminator : g.table.terminator < wholeCatalog := by
    rw [Catalog.Table.terminator, wholeCatalog]
    rw [Catalog.maxMessages] at hsize
    rw [Catalog.Table.terminator] at hlt
    omega
  have hasked : asked flags = wholeCatalog := by
    rw [asked, hwhole]
    rfl
  have hother : addressee g.table flags ≠ m := by
    rw [addressee, hasked, Nat.min_eq_right (Nat.le_of_lt hterminator)]
    exact Nat.ne_of_gt hlt
  have hfilled : g.filled flags = g.fill .low := by
    rw [filled, if_pos hasked, if_neg (by rw [hwhole]; decide)]
  have hlevel : (g.fill .low).queue.level m = .low := by
    have hmem : ∃ i ∈ List.range (g.table.terminator - 1), i + 1 = m :=
      ⟨m - 1, List.mem_range.mpr (by omega), by omega⟩
    have hm : m < g.table.size := Nat.lt_of_lt_of_le hlt (Nat.sub_le _ _)
    rw [Messenger.fill, level_foldl_push htidy hm, if_pos hmem, hclear]
    rfl
  have hlock : (g.fill .low).isLocked m := by
    have hsame : ∀ (l : List Nat) (g : Messenger ρ η), (l.foldl (fun g i => g.push (i + 1)
        Priority.low) g).isLocked m = g.isLocked m := by
      intro l
      induction l with
      | nil => exact fun g => rfl
      | cons i l ih => exact fun g => ih _
    exact (hsame _ g).trans hlocked
  have hspared : Spared m (g.fill .low) (g.taken packet flags data) := by
    have hadmits : ¬ g.Admits flags data := by
      rintro ⟨-, ⟨message, hmessage, -⟩, -⟩
      have hbelow := lt_size_of_get? hmessage
      rw [hasked, wholeCatalog] at hbelow
      exact absurd hsize (Nat.not_le.mpr hbelow)
    rw [taken]
    rcases onPacket_of_not_admits hadmits with ⟨event, hpacket⟩ | hpacket <;> rw [hpacket, hfilled]
    · exact .count _
    · exact (Spared.answer hother _ _).trans (.count _)
  intro hexcludes
  have hmem := hexcludes m (by rw [hspared.isLocked]; exact hlock) (by
    rw [hspared.level, hlevel]
    decide)
  rw [hspared.level, hlevel] at hmem
  exact absurd hmem (by decide)

end Changes

/-! ### Following a turn -/

section Turns

variable {n : Neighbours E} {limit : Nat}
  {handle : η → Option Bytes → StateM E (Option Bytes)} {g₀ g : Messenger Neighbour η}
  {s s' : Stage η E} {turn : Option Entry} {entry : Entry} {step : Step} {message : Message η}

/-- What is seen of a call so far, since the layer was `g`: no locked message is queued
or has sent anything at an ordinary priority. The message whose turn it is has been
taken out of the queue. -/
structure Guarded (g : Messenger Neighbour η) (turn : Option Entry) (s : Stage η E) : Prop where
  excludes : s.layer.Excludes
  layer : (watch g s.history).layer = s.layer
  turn : ∀ entry, turn = some entry → (watch g s.history).turn = some entry ∧
    s.layer.queue.level entry.number = .clear ∧
    (s.layer.isLocked entry.number → entry.priority ∈ Priority.reserved)
  sent : ∀ sending ∈ (watch g s.history).sendings,
    sending.locked → sending.entry.priority ∈ Priority.reserved

theorem watch_concat (history : List (Instant η)) (moment : Instant η) :
    watch g (history ++ [moment]) = (watch g history).see moment := by
  rw [watch, List.foldl_append, List.foldl_cons, List.foldl_nil, watch]

/-- Nothing is taken out of a queue that stays as it is. -/
theorem nextTurn_of_queue {g' : Messenger Neighbour η} (h : g'.queue = g.queue) :
    Watch.nextTurn turn g g' = turn := by
  rw [Watch.nextTurn]
  cases hpop : g.queue.pop with
  | none => rfl
  | some popped =>
      obtain ⟨entry, queue⟩ := popped
      refine if_neg fun hsame => ?_
      rw [Outbound.pop] at hpop
      cases horder : g.queue.order with
      | nil => simp [horder] at hpop
      | cons first rest =>
          simp only [horder, Option.some.injEq, Prod.mk.injEq] at hpop
          rw [h, ← hpop.2] at hsame
          have hlength := congrArg List.length (congrArg Outbound.order hsame)
          simp [horder] at hlength

namespace Guarded

theorem start (s : Stage η E) (h : s.layer.Excludes) :
    Guarded s.layer none { s with history := [] } :=
  ⟨h, rfl, nofun, nofun⟩

/-- The turn of a message may end at any time, and ends unless there was no room. -/
theorem settle (h : Guarded g (some entry) s) (step : Step) :
    Guarded g (if step = .stalled then some entry else none) s := by
  split
  · exact h
  · exact { h with turn := nofun }

theorem change (h : Guarded g turn s) {f : Messenger Neighbour η → Messenger Neighbour η}
    (hexcludes : (f s.layer).Excludes) : Guarded g none (s.change f) := by
  refine ⟨hexcludes, ?_, nofun, ?_⟩ <;> rw [Scene.history_change, watch_concat]
  · rfl
  · exact h.sent

/-- A change that leaves the queue alone and locks nothing. -/
theorem keep (h : Guarded g turn s) {f : Messenger Neighbour η → Messenger Neighbour η}
    (hexcludes : (f s.layer).Excludes) (hqueue : (f s.layer).queue = s.layer.queue)
    (hlocked : ∀ m, (f s.layer).isLocked m → s.layer.isLocked m) :
    Guarded g turn (s.change f) := by
  refine { h.change hexcludes with turn := fun entry hentry => ?_ }
  obtain ⟨hturn, hclear, hreserved⟩ := h.turn entry hentry
  refine ⟨?_, ?_, fun h => hreserved (hlocked _ h)⟩
  · rw [Scene.history_change, watch_concat]
    exact (nextTurn_of_queue hqueue).trans hturn
  · rwa [Scene.layer_change, hqueue]

/-- A change of other parts of the state. -/
theorem quiet (h : Guarded g turn s) {f : Messenger Neighbour η → Messenger Neighbour η}
    (hqueue : (f s.layer).queue = s.layer.queue) (hlocks : (f s.layer).locks = s.layer.locks) :
    Guarded g turn (s.change f) := by
  refine h.keep (h.excludes.of_eq hqueue hlocks) hqueue fun m hm => ?_
  rwa [isLocked, lock?, hlocks] at hm

theorem discard (h : Guarded g turn s) (number : Nat) :
    Guarded g turn (s.change (·.discard number)) := by
  refine h.quiet ?_ ?_ <;> rw [Messenger.discard] <;> split <;> rfl

theorem unlock (h : Guarded g turn s) (number : Nat) :
    Guarded g turn (s.change (·.unlock number)) := by
  refine h.keep (h.excludes.unlock number) rfl fun m hm => ?_
  rw [isLocked, lock?_unlock] at hm
  split at hm
  · simp at hm
  · exact hm

/-- Something is noted that is not handed to the child. -/
theorem meet (h : Guarded g turn s) (around : E) {what : Event η}
    (hsee : ∀ w : Watch η, w.see (.noted what) = w) : Guarded g turn (s.meet around what) := by
  refine ⟨h.excludes, ?_, ?_, ?_⟩ <;> rw [Scene.history_meet, watch_concat, hsee]
  · exact h.layer
  · exact h.turn
  · exact h.sent

theorem probe (h : Guarded g turn s) (around : E) (room : Nat) :
    Guarded g turn (probed s around room) :=
  h.meet around fun _ => rfl

theorem see_transmission (w : Watch η) (confirmed : Bool) (bytes : Bytes)
    (answer : Except LayerError Nat) :
    w.see (.noted (transmission confirmed bytes answer)) = w.handOver bytes := by
  cases confirmed <;> rfl

/-- What the message whose turn it is hands to the child. -/
theorem transmit (h : Guarded g (some entry) s) (around : E) (confirmed : Bool) (bytes : Bytes)
    (answer : Except LayerError Nat) :
    Guarded g (some entry) (s.meet around (transmission confirmed bytes answer)) := by
  obtain ⟨hturn, -, hreserved⟩ := h.turn entry rfl
  refine ⟨h.excludes, ?_, ?_, ?_⟩ <;>
    rw [Scene.history_meet, watch_concat, see_transmission, Watch.handOver]
  · exact h.layer
  · exact h.turn
  · intro sending hmem hlocked
    rcases List.mem_append.mp hmem with hmem | hmem
    · exact h.sent sending hmem hlocked
    · rw [hturn, h.layer] at hmem
      obtain rfl := List.mem_singleton.mp hmem
      exact hreserved hlocked

theorem emits (h : Guarded g (some entry) s) {flags : Nat} {data : Bytes} {confirmed : Bool}
    (hemits : Emits n flags data confirmed s step s') : Guarded g (some entry) s' := by
  cases hemits with
  | full => exact h.probe _ _
  | tooLong => exact (h.probe _ _).quiet rfl rfl
  | sent => exact ((h.probe _ _).transmit _ _ _ _).quiet rfl rfl
  | refused => exact (h.probe _ _).transmit _ _ _ _
  | failed => exact ((h.probe _ _).transmit _ _ _ _).quiet rfl rfl

theorem invokes (h : Guarded g turn s) {number : Nat} {priority : Priority}
    {output : Option Bytes} (hinvokes : Invokes (.noted handle) number priority s output s') :
    Guarded g turn s' := by
  cases hinvokes with
  | unknown => exact h
  | unhandled => exact h.discard number
  | handled _ _ hcall =>
      obtain ⟨-, rfl⟩ := Prod.mk.inj hcall
      have hserving : Guarded g turn (serving number priority s) :=
        (h.discard number).quiet rfl rfl
      exact (hserving.meet _ fun _ => rfl).quiet rfl rfl

theorem describes (h : Guarded g (some entry) s)
    (hdescribes : Describes n entry message s step s') :
    Guarded g (if step = .stalled then some entry else none) s' := by
  cases hdescribes with
  | stalled hemits => exact h.emits hemits
  | done hemits hstep =>
      rw [if_neg hstep]
      refine (h.emits hemits).change (((h.emits hemits).excludes.unlock _).push fun hlocked => ?_)
      rw [isLocked, lock?_unlock, if_pos rfl] at hlocked
      simp at hlocked

theorem arm (h : Guarded g (some entry) s) (now : Tick) (kind : LockKind) :
    Guarded g none (s.change (·.arm now entry.number kind)) :=
  h.change (h.excludes.relock _ (h.turn entry rfl).2.1)

theorem queries (h : Guarded g (some entry) s) (hqueries : Queries n entry s step s') :
    Guarded g (if step = .stalled then some entry else none) s' := by
  cases hqueries with
  | held =>
      refine h.change (h.excludes.push fun hlocked => ?_)
      rw [if_pos hlocked]
      decide
  | sent _ hemits => exact (h.emits hemits).arm _ _
  | unsent _ hemits => exact (h.emits hemits).settle step

theorem supplies (h : Guarded g (some entry) s)
    (hsupplies : Supplies n (.noted handle) entry message (released entry s) step s') :
    Guarded g (if step = .stalled then some entry else none) s' := by
  have hreleased : Guarded g (some entry) (released entry s) := by
    rw [released]
    split
    · exact h.unlock _
    · exact h
  cases hsupplies with
  | @crowded around room =>
      have hprobed := hreleased.probe around room
      have hcounted : ((probed (released entry s) around room).layer.count .txDropped).Excludes :=
        hprobed.excludes.of_eq rfl rfl
      exact hprobed.change (hcounted.discard entry.number)
  | silent _ _ hinvokes => exact ((hreleased.probe _ _).invokes hinvokes).settle .quiet
  | misfit _ _ hinvokes =>
      exact (((hreleased.probe _ _).invokes hinvokes).quiet rfl rfl).settle .quiet
  | answered _ _ hinvokes hemits =>
      exact (((hreleased.probe _ _).invokes hinvokes).emits hemits).settle step
  | updated _ _ hinvokes hemits =>
      exact (((hreleased.probe _ _).invokes hinvokes).emits hemits).arm _ _

theorem visits (h : Guarded g (some entry) s) (hvisits : Visits n (.noted handle) entry s step s') :
    Guarded g (if step = .stalled then some entry else none) s' := by
  cases hvisits with
  | unknown => exact h.settle .quiet
  | describes _ _ hdescribes => exact h.describes hdescribes
  | queries _ _ hqueries => exact h.queries hqueries
  | replied _ _ hinvokes => exact ((h.unlock _).invokes hinvokes).settle .quiet
  | supplies _ _ hsupplies => exact h.supplies hsupplies

theorem pop (h : Guarded g none s) (htidy : s.layer.Tidy) {queue : Outbound}
    (hpop : s.layer.queue.pop = some (entry, queue)) :
    Guarded g (some entry) (s.change ({ · with queue })) := by
  obtain ⟨-, hpriority, hlevel, -, hlevels⟩ := htidy.queue.pop hpop
  have hexcludes : ({ s.layer with queue } : Messenger Neighbour η).Excludes := by
    intro m hlocked hqueued
    have hm : m ≠ entry.number := fun hm => hqueued ((hlevels m).trans (if_pos hm))
    rw [hlevels, if_neg hm] at hqueued ⊢
    exact h.excludes m hlocked hqueued
  refine { h.change hexcludes with turn := ?_ }
  rintro _ ⟨⟩
  refine ⟨?_, (hlevels _).trans (if_pos rfl), fun hlocked => ?_⟩
  · rw [Scene.history_change, watch_concat]
    simp only [Watch.see, Watch.nextTurn, hpop, if_true]
  · have hmem := h.excludes entry.number hlocked (hlevel ▸ hpriority)
    rwa [hlevel] at hmem

theorem turns (h : Guarded g none s) (hstands : Stands g₀ none s.layer)
    (hturn : Turn n (.noted handle) s s') : Guarded g none s' := by
  cases hturn with
  | full => exact h.probe _ _
  | idle => exact h.probe _ _
  | @visit around room entry queue step _ _ hpop hvisits hstep =>
      have hvisited := ((h.probe around room).pop hstands.tidy hpop).visits hvisits
      rwa [if_neg hstep] at hvisited
  | @putBack around room entry queue s' _ hpop hvisits =>
      have hvisited : Guarded g (some entry) s' :=
        ((h.probe around room).pop hstands.tidy hpop).visits hvisits
      exact hvisited.change (hvisited.excludes.push (hvisited.turn entry rfl).2.2)

end Guarded

end Turns

/-! ### The calls of a run -/

section Calls

variable {n : Neighbours E} {limit : Nat}
  {handle : η → Option Bytes → StateM E (Option Bytes)} {g₀ g : Messenger Neighbour η}
  {s s' : Stage η E}

theorem excludes_iff (htidy : g.Tidy) :
    g.Excludes ↔ ∀ entry ∈ g.queue.order,
      g.isLocked entry.number → entry.priority ∈ Priority.reserved := by
  constructor
  · intro h entry hmem hlocked
    obtain ⟨hqueued, hlevel⟩ := (htidy.queue.mem_iff entry).mp hmem
    rw [← hlevel] at hqueued ⊢
    exact h entry.number hlocked hqueued
  · intro h m hlocked hqueued
    exact h ⟨g.queue.level m, m⟩ ((htidy.queue.mem_iff _).mpr ⟨hqueued, rfl⟩) hlocked

theorem Guarded.call_excludes (h : Guarded g none s') (htidy : s'.layer.Tidy) (op : Op) :
    Call.Excludes ⟨op, g, s'.history, s'.layer⟩ :=
  ⟨(excludes_iff htidy).mp h.excludes, h.sent⟩

theorem exposes_iff : g.Exposes ↔ ∃ number, 0 < number ∧ number < g.table.terminator ∧
    g.isLocked number ∧ g.queue.priority? number = none := by
  refine exists_congr fun m => and_congr_right fun _ => and_congr_right fun _ =>
    and_congr_right fun _ => ?_
  rw [← Option.not_isSome_iff_eq_none, Outbound.isSome_priority?, ne_eq, Decidable.not_not]

variable (n limit handle) in
theorem guarded_call {links : Links Neighbour} (hlinks : g₀.node.links = some links)
    (hchild : g₀.node.child = .ok .child) (hstands : Stands g₀ none s.layer)
    (h : s.layer.Excludes) {op : Op} (hfloods : ¬ (op.call n limit handle s).1.Floods) :
    Guarded s.layer none (op.run n limit (.noted handle) { s with history := [] }).2 := by
  have hstart := Guarded.start s h
  cases op with
  | recv packet =>
      have hreceives := receives_recv n limit (s := { s with history := [] }) hlinks hstands packet
      change Guarded s.layer none ((recv (place n limit) packet).run { s with history := [] }).2
      generalize ((recv (place n limit) packet).run { s with history := [] }).2 = s' at hreceives ⊢
      have htaken : ∀ flags data, packet = Tag.message :: flags :: data →
          Guarded s.layer none
            (Scene.change { s with history := [] } (·.taken packet flags data)) := by
        rintro flags data rfl
        refine hstart.change (h.taken (fun hwhole hexposes => hfloods ?_) _ _)
        exact ⟨flags, data, rfl, hwhole, exposes_iff.mp hexposes⟩
      cases hreceives with
      | malformed => exact hstart.quiet rfl rfl
      | unseen hpacket =>
          have hseen := htaken _ _ hpacket
          exact ⟨hseen.excludes, hseen.layer, by simp, hseen.sent⟩
      | seen hpacket who =>
          exact (htaken _ _ hpacket).meet _ fun _ => by cases who <;> rfl
  | post number priority =>
      simp only [Op.run]
      split
      · next hpost => exact hstart.change (f := fun _ => _) (Excludes.post h hpost)
      · exact hstart
  | resend => exact hstart.change (f := fun g => (g.resend s.now).2) (h.resend _)
  | schedule =>
      have hturns := turns_schedule n limit (Handlers.noted handle)
        (s := { s with history := [] }) (hstands.node ▸ hchild)
      change Guarded s.layer none
        ((schedule (place n limit) (Handlers.noted handle)).run { s with history := [] }).2
      generalize ((schedule (place n limit) (Handlers.noted handle)).run
        { s with history := [] }).2 = s' at hturns ⊢
      -- only a layer that stands can have its next turn
      suffices Stands g₀ none s'.layer ∧ Guarded s.layer none s' from this.2
      induction hturns with
      | refl => exact ⟨hstands.minor (.expire _), hstart.change (h.expire _)⟩
      | tail _ hturn ih =>
          exact ⟨ih.1.turns (fun _ _ _ hs => hs) hturn, ih.2.turns ih.1 hturn⟩
  | delivered report => exact hstart.change (f := (·.onDelivered report)) (h.onDelivered report)
  | advance ticks =>
      have hlater : Guarded s.layer none { s with history := [], now := s.now + ticks } :=
        .start { s with now := s.now + ticks } h
      exact hlater.change (f := (·.expire (s.now + ticks))) (h.expire _)

theorem not_excludes_of_floods {links : Links Neighbour} (hlinks : g₀.node.links = some links)
    (hsize : g₀.table.size ≤ Catalog.maxMessages) (hstands : Stands g₀ none s.layer) {op : Op}
    (hafter : Stands g₀ none (op.call n limit handle s).1.after)
    (hfloods : (op.call n limit handle s).1.Floods) :
    ¬ (op.call n limit handle s).1.Excludes := by
  obtain ⟨flags, data, hop, hwhole, hexposes⟩ := hfloods
  obtain rfl : op = .recv (Tag.message :: flags :: data) := hop
  intro hexcludes
  refine (exposes_iff.mpr hexposes).not_excludes hwhole hstands.tidy (hstands.table ▸ hsize)
    (Tag.message :: flags :: data) data ?_
  have hsame : ((Op.recv (Tag.message :: flags :: data)).call n limit handle s).1.after =
      s.layer.taken (Tag.message :: flags :: data) flags data := by
    have hreceives := receives_recv n limit (s := { s with history := [] }) hlinks hstands
      (Tag.message :: flags :: data)
    change ((recv (place n limit) (Tag.message :: flags :: data)).run
      { s with history := [] }).2.layer = _
    generalize ((recv (place n limit) (Tag.message :: flags :: data)).run
      { s with history := [] }).2 = s' at hreceives ⊢
    cases hreceives with
    | malformed hpacket => exact absurd rfl (hpacket _ _)
    | unseen hpacket =>
        cases hpacket
        rfl
    | seen hpacket =>
        cases hpacket
        rfl
  change (s.layer.taken (Tag.message :: flags :: data) flags data).Excludes
  rw [← hsame]
  exact (excludes_iff hafter.tidy).mpr hexcludes.queued

variable (n limit handle) in
theorem excludes_calls {links : Links Neighbour} (hlinks : g₀.node.links = some links)
    (hchild : g₀.node.child = .ok .child) (hsize : g₀.table.size ≤ Catalog.maxMessages)
    (ops : List Op) (hstands : Stands g₀ none s.layer) (h : s.layer.Excludes) :
    (∀ call ∈ (Op.calls n limit handle ops s).1, call.Excludes) ↔
      ∀ call ∈ (Op.calls n limit handle ops s).1, ¬ call.Floods := by
  induction ops generalizing s with
  | nil =>
      have hcalls : (Op.calls n limit handle [] s).1 = [] := rfl
      rw [hcalls]
      exact iff_of_true (List.forall_mem_nil _) (List.forall_mem_nil _)
  | cons op ops ih =>
      have hcall : ∀ handler input, Keeps (E := E) g₀ (Handlers.noted handle handler input) :=
        fun handler input s hs => hs
      have hafter : Stands g₀ none (op.call n limit handle s).2.layer :=
        keeps_run n limit hlinks hchild hcall op { s with history := [] } hstands
      have hcalls : (Op.calls n limit handle (op :: ops) s).1 = (op.call n limit handle s).1 ::
          (Op.calls n limit handle ops (op.call n limit handle s).2).1 := rfl
      rw [hcalls, List.forall_mem_cons, List.forall_mem_cons]
      by_cases hfloods : (op.call n limit handle s).1.Floods
      · have hexcludes := not_excludes_of_floods hlinks hsize hstands hafter hfloods
        exact iff_of_false (fun hall => hexcludes hall.1) fun hall => hall.1 hfloods
      · have hguarded := guarded_call n limit handle hlinks hchild hstands h hfloods
        exact and_congr (iff_of_true (hguarded.call_excludes hafter.tidy op) hfloods)
          (ih hafter hguarded.excludes)

end Calls

end Messenger

/-- Whatever is done with a message layer whose handlers and neighbours do not call it,
every lock excludes ordinary sends unless the arguments of the whole catalog are asked
for while a message is locked and not queued. -/
theorem excludes_iff_not_floods {table : Table η} (hsize : table.size ≤ Catalog.maxMessages)
    (config : Config) (parent : Option Neighbour) (n : Neighbours E) (limit : Nat)
    (handle : η → Option Bytes → StateM E (Option Bytes)) (ops : List Op) (around : E)
    (now : Tick) :
    (∀ call ∈ (Op.calls n limit handle ops ⟨.begun table config parent, around, now, []⟩).1,
      call.Excludes) ↔
    ∀ call ∈ (Op.calls n limit handle ops ⟨.begun table config parent, around, now, []⟩).1,
      ¬ call.Floods := by
  have hlinks : (Messenger.begun table config parent).node.links =
      some ⟨some .child, parent⟩ := rfl
  refine Messenger.excludes_calls n limit handle hlinks rfl hsize ops
    (Messenger.stands_begun table config parent) fun m hlocked => ?_
  simp [Messenger.isLocked, Messenger.lock?_begun] at hlocked

/-! ### A request for the whole catalog -/

section Overtaken

/-- A catalog of which one message has arguments. -/
def oneArgument : Catalog.Draft Unit where
  slots := [some { descriptor := "t", size := 0, handler := none, priority := 0 },
    some { descriptor := "v", size := 1, handler := some (), priority := 0 },
    some { descriptor := "%!", size := 0, handler := none, priority := 0 }]
  used := 3

def oneArgumentTable : Table Unit where
  messages := [
    { descriptor := { source := "t", tokens := [.literal "t"] }, size := 0, handler := none,
      priority := 0 },
    { descriptor := { source := "v", tokens := [.literal "v"] }, size := 1, handler := some (),
      priority := 0 },
    { descriptor := { source := "%!", tokens := [.terminator] }, size := 0, handler := none,
      priority := 0 }]

theorem finish_oneArgument : oneArgument.finish = .ok oneArgumentTable := by
  with_unfolding_all rfl

/-- The whole catalog is asked for while message 1 waits for its reply. -/
def overtakenOps : List Op :=
  [.post 1 .queryArgs, .schedule, .recv [Tag.message, 127], .schedule]

def overtaken : List (Call Unit) :=
  (Op.calls (.ample 256) 0 (fun _ _ => pure (some [0x55])) overtakenOps
    ⟨.begun oneArgumentTable {} none, (), 0, []⟩).1

theorem sent_overtaken : ¬ ∀ call ∈ overtaken,
    ∀ sending ∈ (watch call.before call.moments).sendings,
      sending.locked → sending.entry.priority ∈ Priority.reserved := by
  decide +kernel

theorem floods_overtaken : ∃ call ∈ overtaken, call.Floods := by
  refine Classical.byContradiction fun hnone => ?_
  have hsize : oneArgumentTable.size ≤ Catalog.maxMessages := by decide
  have hexcludes := (excludes_iff_not_floods hsize {} none (.ample 256) 0
    (fun _ _ => pure (some [0x55])) overtakenOps () 0).mpr
      fun call hmem hfloods => hnone ⟨call, hmem, hfloods⟩
  exact sent_overtaken fun call hmem => (hexcludes call hmem).sent

theorem not_forall_excludes :
    ¬ ∀ (draft : Catalog.Draft Unit) (table : Table Unit), draft.finish = .ok table →
      ∀ (config : Config) (parent : Option Neighbour) (n : Neighbours Unit) (limit : Nat)
        (handle : Unit → Option Bytes → StateM Unit (Option Bytes)) (ops : List Op) (now : Tick),
      ∀ call ∈ (Op.calls n limit handle ops ⟨.begun table config parent, (), now, []⟩).1,
        call.Excludes := by
  intro hall
  have hexcludes := hall oneArgument oneArgumentTable finish_oneArgument {} none (.ample 256) 0
    (fun _ _ => pure (some [0x55])) overtakenOps 0
  exact sent_overtaken fun call hmem => (hexcludes call hmem).sent

end Overtaken

end LinkStack.Exchange
