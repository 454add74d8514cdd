import LinkStack.Proofs.Exchange.Received
import LinkStack.Proofs.Exchange.Spared

/-!
What becomes of a request for the arguments of a message.

A request is made when its message has its turn, again after every timeout while
there are retries left, and given up after the last. Giving up releases the message
but does not take it out of the queue: if the last retry still stands there, the
message is asked for once more, with a new lock and all its retries. As long as that
does not happen (`AskedAgain`), the request is bounded, whatever else is done with
the layer, from inside of handlers too (`bounded_iff_not_askedAgain`).
-/

namespace LinkStack.Exchange

open LinkStack.Catalog (Table)

variable {η E : Type}

/-! ### Reading the history -/

/-- A packet that asks the peer for a message. -/
def asks (number : Nat) : Instant η → Bool
  | .noted (.contact .child (.send packet _)) => packet = Exchange.packet number []
  | .noted (.contact .child (.sendConfirmed packet _)) => packet = Exchange.packet number []
  | _ => false

/-- A lock that is released without a reply, and counted. -/
def givesUp (number : Nat) : Instant η → Bool
  | .changed g g' => g.isLocked number && !g'.isLocked number &&
      Messenger.risen g.stats.txDropped g'.stats.txDropped
  | .noted _ => false

/-- A message that is given up while it is still queued. -/
def abandons (number : Nat) : Instant η → Bool
  | .changed g g' => givesUp number (.changed g g') && (g.queue.priority? number).isSome
  | .noted _ => false

/-- A change after which a message is locked. -/
def leavesLocked (number : Nat) : Instant η → Bool
  | .changed _ g' => g'.isLocked number
  | .noted _ => false

/-- A request is made once and again as often as there are retries, it is given up
once, and then the message is released and not asked for again. -/
structure Bounded (number retries : Nat) (history : List (Instant η)) : Prop where
  requests : history.countP (asks number) ≤ 1 + retries
  drops : history.countP (givesUp number) ≤ 1
  ended : history.Pairwise fun earlier later =>
    givesUp number earlier → asks number later = false ∧ leavesLocked number later = false

/-- A message is given up while it is still queued, and asked for later. -/
def AskedAgain (number : Nat) (history : List (Instant η)) : Prop :=
  ∃ earlier later, [earlier, later].Sublist history ∧ abandons number earlier ∧ asks number later

/-- A child that has no room or room for a request, and takes whatever it is sent. -/
structure Obliging (n : Neighbours E) : Prop where
  room : ∀ around, ((n.layer .child).capacity around).1 = 0 ∨
    header ≤ ((n.layer .child).capacity around).1
  takes : ∀ confirmed bytes around,
    (Messenger.transmit n confirmed bytes around).1 = .ok bytes.length

/-- What may be done while a request stands: no packet for the message is received,
nothing else queues it, and unanswered requests are not repeated by hand. -/
def Op.Spares (table : Table η) (number : Nat) : Op → Prop
  | recv packet => ∀ flags data, packet = Tag.message :: flags :: data →
    ¬ Messenger.Addresses table flags number
  | post other _ => other ≠ number
  | resend => False
  | _ => True

/-! ### Phases of a request -/

/-- A request has not been made, or waits for its reply, or is given up and perhaps
left in the queue, or was made again after that. -/
inductive Phase (number retries : Nat) (history : List (Instant η)) (level : Priority)
    (lock : Option Lock) : Prop where
  | fresh (hlock : lock = none) (hasked : history.countP (asks number) = 0)
      (hkept : ∀ moment ∈ history, givesUp number moment = false)
  | asking {l : Lock} (hlock : lock = some l) (hretries : l.retries.toNat ≤ retries)
      (hasked : history.countP (asks number) + (if level = .queryArgs then 1 else 0) ≤
        1 + l.retries.toNat)
      (hkept : ∀ moment ∈ history, givesUp number moment = false)
  | ended (hlock : lock = none) (hbounded : Bounded number retries history)
      (hleft : level = .queryArgs → ∃ moment ∈ history, abandons number moment)
  | again (hagain : AskedAgain number history)

/-- A moment that changes nothing for a request. -/
structure Idle (number : Nat) (lock : Option Lock) (moment : Instant η) : Prop where
  asks : asks number moment = false
  givesUp : givesUp number moment = false
  unlocked : lock = none → leavesLocked number moment = false

theorem kept_concat {number : Nat} {history : List (Instant η)} {moment : Instant η}
    (h : ∀ m ∈ history, givesUp number m = false) (hmoment : givesUp number moment = false) :
    ∀ m ∈ history ++ [moment], givesUp number m = false := by
  intro m hm
  rcases List.mem_append.mp hm with hm | hm
  · exact h m hm
  · rwa [List.mem_singleton.mp hm]

theorem AskedAgain.concat {number : Nat} {history : List (Instant η)}
    (h : AskedAgain number history) (moment : Instant η) :
    AskedAgain number (history ++ [moment]) := by
  obtain ⟨earlier, later, hsublist, hevents⟩ := h
  exact ⟨earlier, later, hsublist.trans (List.sublist_append_left _ _), hevents⟩

/-- A history in which nothing was given up. -/
theorem Bounded.of_kept {number retries : Nat} {history : List (Instant η)}
    (hkept : ∀ m ∈ history, givesUp number m = false)
    (hrequests : history.countP (asks number) ≤ 1 + retries) : Bounded number retries history where
  requests := hrequests
  drops := by
    have hnone : history.countP (givesUp number) = 0 :=
      List.countP_eq_zero.mpr fun m hm => by simp [hkept m hm]
    rw [hnone]
    exact Nat.zero_le 1
  ended := List.pairwise_iff_forall_sublist.mpr fun hsublist hgiven => by
    simp [hkept _ (hsublist.subset List.mem_cons_self)] at hgiven

/-- A history at whose end something is given up. -/
theorem Bounded.giveUp {number retries : Nat} {history : List (Instant η)} {moment : Instant η}
    (hkept : ∀ m ∈ history, givesUp number m = false)
    (hrequests : history.countP (asks number) ≤ 1 + retries) (hasks : asks number moment = false) :
    Bounded number retries (history ++ [moment]) where
  requests := by simpa [hasks] using hrequests
  drops := by
    have hnone : history.countP (givesUp number) = 0 :=
      List.countP_eq_zero.mpr fun m hm => by simp [hkept m hm]
    rw [List.countP_append, hnone, Nat.zero_add]
    exact List.countP_le_length
  ended := by
    refine List.pairwise_append.mpr
      ⟨(of_kept hkept hrequests).ended, List.pairwise_singleton _ _, ?_⟩
    intro earlier hmem later _ hgiven
    simp [hkept earlier hmem] at hgiven

theorem Bounded.concat {number retries : Nat} {history : List (Instant η)} {moment : Instant η}
    (h : Bounded number retries history) (hidle : Idle number none moment) :
    Bounded number retries (history ++ [moment]) where
  requests := by simpa [hidle.asks] using h.requests
  drops := by simpa [hidle.givesUp] using h.drops
  ended := by
    refine List.pairwise_append.mpr ⟨h.ended, List.pairwise_singleton _ _, ?_⟩
    intro earlier _ later hlater _
    rw [List.mem_singleton.mp hlater]
    exact ⟨hidle.asks, hidle.unlocked rfl⟩

/-- After a give-up a bounded request is not made again. -/
theorem Bounded.not_askedAgain {number retries : Nat} {history : List (Instant η)}
    (h : Bounded number retries history) : ¬ AskedAgain number history := by
  rintro ⟨earlier, later, hsublist, habandons, hasks⟩
  have hgiven : givesUp number earlier := by
    cases earlier with
    | changed g g' => exact (Bool.and_eq_true _ _ ▸ habandons).1
    | noted what => exact habandons
  have hpair := List.pairwise_iff_forall_sublist.mp h.ended hsublist hgiven
  simp [hasks] at hpair

namespace Phase

variable {number retries : Nat} {history : List (Instant η)} {level : Priority}
  {lock : Option Lock} {moment : Instant η}

theorem idle (h : Phase number retries history level lock) (hidle : Idle number lock moment) :
    Phase number retries (history ++ [moment]) level lock := by
  cases h with
  | fresh hlock hasked hkept =>
      exact .fresh hlock (by simpa [hidle.asks] using hasked) (kept_concat hkept hidle.givesUp)
  | asking hlock hretries hasked hkept =>
      exact .asking hlock hretries (by simpa [hidle.asks] using hasked)
        (kept_concat hkept hidle.givesUp)
  | ended hlock hbounded hleft =>
      subst hlock
      refine .ended rfl (hbounded.concat hidle) fun hqueued => ?_
      obtain ⟨m, hm, habandons⟩ := hleft hqueued
      exact ⟨m, List.mem_append_left _ hm, habandons⟩
  | again hagain => exact .again (hagain.concat moment)

/-- The message is asked for, and will be locked with the retries it had. -/
theorem ask {l : Lock} (h : Phase number retries history .queryArgs lock)
    (hasks : asks number moment) (hgivesUp : givesUp number moment = false)
    (hretries : l.retries = (lock.map (·.retries)).getD 0) :
    Phase number retries (history ++ [moment]) .clear (some l) := by
  have hnot : ¬ Priority.clear = Priority.queryArgs := by decide
  cases h with
  | fresh hlock hasked hkept =>
      subst hlock
      refine .asking rfl ?_ ?_ (kept_concat hkept hgivesUp)
      · simp [hretries]
      · simp [hasked, hasks, hnot]
  | asking hlock hle hasked hkept =>
      subst hlock
      refine .asking rfl ?_ ?_ (kept_concat hkept hgivesUp)
      · simpa [hretries] using hle
      · simpa [hasks, hnot, hretries] using hasked
  | ended hlock hbounded hleft =>
      -- it is queued although it was given up, so it was queued when that happened
      obtain ⟨m, hm, habandons⟩ := hleft rfl
      refine .again ⟨m, moment, ?_, habandons, hasks⟩
      exact (List.singleton_sublist.mpr hm).append (List.Sublist.refl [moment])
  | again hagain => exact .again (hagain.concat moment)

theorem retry {l l' : Lock} (h : Phase number retries history level (some l))
    (hidle : Idle number (some l) moment) (hretries : l'.retries.toNat = l.retries.toNat + 1)
    (hlt : l.retries.toNat < retries) :
    Phase number retries (history ++ [moment]) .queryArgs (some l') := by
  cases h with
  | fresh hlock => cases hlock
  | asking hlock hle hasked hkept =>
      cases hlock
      refine .asking rfl (by omega) ?_ (kept_concat hkept hidle.givesUp)
      have hbefore : history.countP (asks number) ≤ 1 + l.retries.toNat := by omega
      simp only [List.countP_append, List.countP_singleton, hidle.asks, if_true]
      simp only [Bool.false_eq_true, if_false]
      omega
  | ended hlock => cases hlock
  | again hagain => exact .again (hagain.concat moment)

theorem giveUp {l : Lock} (h : Phase number retries history level (some l))
    (hasks : asks number moment = false)
    (hleft : level = .queryArgs → abandons number moment) :
    Phase number retries (history ++ [moment]) level none := by
  cases h with
  | fresh hlock => cases hlock
  | asking hlock hle hasked hkept =>
      cases hlock
      refine .ended rfl (Bounded.giveUp hkept (by omega) hasks) fun hqueued => ?_
      exact ⟨moment, by simp, hleft hqueued⟩
  | ended hlock => cases hlock
  | again hagain => exact .again (hagain.concat moment)

/-- The request is bounded unless it was made again. -/
theorem bounded_iff (h : Phase number retries history level lock) :
    Bounded number retries history ↔ ¬ AskedAgain number history := by
  refine ⟨Bounded.not_askedAgain, fun hnot => ?_⟩
  cases h with
  | fresh _ hasked hkept => exact .of_kept hkept (by omega)
  | asking _ hle hasked hkept => exact .of_kept hkept (by omega)
  | ended _ hbounded => exact hbounded
  | again hagain => exact absurd hagain hnot

end Phase

/-! ### Following a request -/

namespace Messenger

/-- A packet with another number does not ask for a message. -/
theorem packet_ne {flags number : Nat} (hflags : flags < 256) (hnumber : number < 256)
    (hne : flags ≠ number) (data : Bytes) : packet flags data ≠ packet number [] := by
  intro hsame
  simp only [packet, List.cons.injEq, true_and] at hsame
  have hbyte := congrArg UInt8.toNat hsame.1
  rw [UInt8.toNat_ofNat_of_lt' hflags, UInt8.toNat_ofNat_of_lt' hnumber] at hbyte
  exact hne hbyte

/-- A message that is queued only to be asked for, and where its request stands. -/
structure Traced (number retries : Nat) (s : Stage η E) : Prop where
  calm : s.layer.queue.level number = .clear ∨ s.layer.queue.level number = .queryArgs
  kind : ∀ l, s.layer.lock? number = some l → l.kind = .query
  free : ¬ s.layer.holds number
  phase : Phase number retries s.history (s.layer.queue.level number) (s.layer.lock? number)

/-- An action that keeps a request traced while the layer stands. -/
def Traces (g₀ : Messenger Neighbour η) (number retries : Nat) {α : Type}
    (act : StateM (Stage η E) α) : Prop :=
  ∀ s, Stands g₀ none s.layer → Traced number retries s → Traced number retries (act s).2

theorem idle_changed {number : Nat} {g g' : Messenger Neighbour η}
    (hlock : g'.lock? number = g.lock? number) :
    Idle number (g.lock? number) (.changed g g') := by
  have hlocked : g'.isLocked number = g.isLocked number := by rw [isLocked, hlock, isLocked]
  refine ⟨rfl, ?_, fun hnone => ?_⟩
  · simp [givesUp, hlocked]
  · simp [leavesLocked, isLocked, hlock, hnone]

/-- A change that does not release a message that is locked or will be. -/
theorem idle_locked {number : Nat} (g g' : Messenger Neighbour η) {l : Lock}
    (h : g.isLocked number → g'.isLocked number) : Idle number (some l) (.changed g g') := by
  refine ⟨rfl, ?_, nofun⟩
  cases hlocked : g.isLocked number with
  | false => simp [givesUp, hlocked]
  | true => simp [givesUp, h hlocked]

theorem idle_noted {number : Nat} {lock : Option Lock} {what : Event η}
    (h : asks number (.noted what) = false) : Idle number lock (.noted what) :=
  ⟨h, rfl, fun _ => rfl⟩

theorem asks_transmission (number : Nat) (confirmed : Bool) (bytes : Bytes)
    (answer : Except LayerError Nat) :
    asks number (.noted (transmission confirmed bytes answer) : Instant η) =
      decide (bytes = packet number []) := by
  cases confirmed <;> rfl

/-- A request is sent to such a child, or finds no room. -/
theorem emits_request {n : Neighbours E} {number : Nat} {confirmed : Bool} {s s' : Stage η E}
    {step : Step} (hchild : Obliging n)
    (hemits : Emits n number [] confirmed s step s') :
    (step = .stalled ∧ ∃ around, s' = probed s around 0) ∨
    (step = .sent ∧ ∃ around room around' answer, s' = ((probed s around room).meet around'
      (transmission confirmed (packet number []) answer)).change
        (·.count (.txPacket (packet number []).length))) := by
  cases hemits with
  | full => exact .inl ⟨rfl, _, rfl⟩
  | @tooLong around room hroom hsome hlong =>
      have hobliging := hchild.room s.around
      rw [hroom] at hobliging
      rcases hobliging with hnone | hfits
      · exact absurd hnone hsome
      · exact absurd hlong (Nat.not_lt.mpr hfits)
  | sent => exact .inr ⟨rfl, _, _, _, _, rfl⟩
  | @refused around around' room answer hroom hfits hanswer hrefused =>
      have htakes := hchild.takes confirmed (packet number []) around
      rw [hanswer] at htakes
      rcases hrefused with ⟨taken, rfl, hless⟩ | ⟨layer, rfl⟩
      · exact absurd hless (Nat.not_lt.mpr (Nat.le_of_eq (Except.ok.inj htakes).symm))
      · cases htakes
  | @failed around around' room error hroom hfits hanswer =>
      have htakes := hchild.takes confirmed (packet number []) around
      rw [hanswer] at htakes
      cases htakes

/-- A lock for a request keeps the retries of the one before. -/
theorem lock?_arm {g : Messenger Neighbour η} {number : Nat} (now : Tick)
    (hlt : number < g.locks.length)
    (hkind : ∀ l, g.lock? number = some l → l.kind = .query) :
    ∃ l, (g.arm now number .query).lock? number = some l ∧ l.kind = .query ∧
      l.retries = ((g.lock? number).map (·.retries)).getD 0 := by
  refine ⟨_, (lock?_set rfl rfl hlt).trans (if_pos rfl), rfl, ?_⟩
  cases hlock : g.lock? number with
  | none => rfl
  | some l => simp [hkind l hlock]

namespace Traced

variable {n : Neighbours E} {call : Handlers η E} {g₀ : Messenger Neighbour η}
  {number retries m : Nat} {s s' : Stage η E} {priority : Priority} {step : Step} {entry : Entry}
  {message : Catalog.Message η}

theorem change (h : Traced number retries s) {f : Messenger Neighbour η → Messenger Neighbour η}
    (hspared : Spared number s.layer (f s.layer)) : Traced number retries (s.change f) := by
  refine ⟨?_, ?_, h.free ∘ hspared.holds, ?_⟩
  · rw [Scene.layer_change, hspared.level]
    exact h.calm
  · rw [Scene.layer_change, hspared.lock]
    exact h.kind
  · rw [Scene.layer_change, hspared.level, hspared.lock]
    exact h.phase.idle (idle_changed hspared.lock)

theorem meet (h : Traced number retries s) (around : E) {what : Event η}
    (hasks : asks number (.noted what) = false) : Traced number retries (s.meet around what) :=
  ⟨h.calm, h.kind, h.free, h.phase.idle (idle_noted hasks)⟩

theorem probe (h : Traced number retries s) (around : E) (room : Nat) :
    Traced number retries (probed s around room) :=
  h.meet around rfl

theorem emits (h : Traced number retries s) {flags : Nat} {data : Bytes} {confirmed : Bool}
    (hother : packet flags data ≠ packet number [])
    (hemits : Emits n flags data confirmed s step s') : Traced number retries s' := by
  have hasks : ∀ answer, asks number
      (.noted (transmission confirmed (packet flags data) answer) : Instant η) = false :=
    fun answer => (asks_transmission number confirmed _ answer).trans (decide_eq_false hother)
  cases hemits with
  | full => exact h.probe _ _
  | tooLong => exact (h.probe _ _).change (.count _)
  | sent => exact ((h.probe _ _).meet _ (hasks _)).change (.count _)
  | refused => exact (h.probe _ _).meet _ (hasks _)
  | failed => exact ((h.probe _ _).meet _ (hasks _)).change (.count _)

section Others

variable (hcall : ∀ handler input, Traces g₀ number retries (call handler input))

include hcall

theorem invokes (h : Traced number retries s) (hstands : Stands g₀ (some m) s.layer)
    {output : Option Bytes} (hinvokes : Invokes call m priority s output s') :
    Traced number retries s' := by
  cases hinvokes with
  | unknown => exact h
  | unhandled => exact h.change (.discard m)
  | @handled _ handler _ _ _ _ hrun =>
      have hserving : Traced number retries (serving m priority s) :=
        (h.change (.discard m)).change (.of_eq rfl rfl rfl)
      have hafter := hcall handler (input s.layer m) _ (hstands.serving priority) hserving
      rw [hrun] at hafter
      exact hafter.change (.of_eq rfl rfl rfl)

omit hcall in
theorem describes (h : Traced number retries s) (hne : entry.number ≠ number)
    (hlt : entry.number < Catalog.maxMessages) (hnumber : number < Catalog.maxMessages)
    (hdescribes : Describes n entry message s step s') : Traced number retries s' := by
  have hother : packet (entry.number + descriptorFlag) message.descriptor.toUTF8 ≠
      packet number [] := by
    simp only [Catalog.maxMessages] at hlt hnumber
    exact packet_ne (by rw [descriptorFlag]; omega) (by omega) (by rw [descriptorFlag]; omega) _
  cases hdescribes with
  | stalled hemits => exact h.emits hother hemits
  | done hemits => exact (h.emits hother hemits).change ((Spared.unlock hne).trans (.push hne _))

omit hcall in
theorem queries (h : Traced number retries s) (hne : entry.number ≠ number)
    (hother : ∀ data, packet entry.number data ≠ packet number [])
    (hqueries : Queries n entry s step s') : Traced number retries s' := by
  cases hqueries with
  | held => exact h.change (.push hne _)
  | sent _ hemits => exact (h.emits (hother []) hemits).change (.arm hne _ _)
  | unsent _ hemits => exact h.emits (hother []) hemits

theorem supplies (h : Traced number retries s) (hstands : Stands g₀ (some entry.number) s.layer)
    (hne : entry.number ≠ number) (hother : ∀ data, packet entry.number data ≠ packet number [])
    (hsupplies : Supplies n call entry message (released entry s) step s') :
    Traced number retries s' := by
  have hreleased : Traced number retries (released entry s) ∧
      Stands g₀ (some entry.number) (released entry s).layer := by
    rw [released]
    split
    · exact ⟨h.change (.unlock hne), hstands.minor (.unlock _)⟩
    · exact ⟨h, hstands⟩
  obtain ⟨hreleased, hstands⟩ := hreleased
  cases hsupplies with
  | crowded => exact (hreleased.probe _ _).change ((Spared.count _).trans (.discard _))
  | silent _ _ hinvokes => exact (hreleased.probe _ _).invokes hcall hstands hinvokes
  | misfit _ _ hinvokes =>
      exact ((hreleased.probe _ _).invokes hcall hstands hinvokes).change (.count _)
  | answered _ _ hinvokes hemits =>
      exact ((hreleased.probe _ _).invokes hcall hstands hinvokes).emits (hother _) hemits
  | updated _ _ hinvokes hemits =>
      exact (((hreleased.probe _ _).invokes hcall hstands hinvokes).emits (hother _) hemits).change
        (.arm hne _ _)

/-- The turn of another message. -/
theorem visits (h : Traced number retries s) (hstands : Stands g₀ (some entry.number) s.layer)
    (hne : entry.number ≠ number) (hlt : entry.number < Catalog.maxMessages)
    (hnumber : number < Catalog.maxMessages) (hvisits : Visits n call entry s step s') :
    Traced number retries s' := by
  have hother : ∀ data, packet entry.number data ≠ packet number [] := by
    simp only [Catalog.maxMessages] at hlt hnumber
    exact packet_ne (by omega) (by omega) hne
  cases hvisits with
  | unknown => exact h
  | describes _ _ hdescribes => exact h.describes hne hlt hnumber hdescribes
  | queries _ _ hqueries => exact h.queries hne hother hqueries
  | replied _ _ hinvokes =>
      exact (h.change (.unlock hne)).invokes hcall (hstands.minor (.unlock _)) hinvokes
  | supplies _ _ hsupplies => exact h.supplies hcall hstands hne hother hsupplies

end Others

end Traced

/-- A message that has been taken out of the queue to be asked for. -/
structure Due (number retries : Nat) (s : Stage η E) : Prop where
  tidy : s.layer.Tidy
  lt : number < s.layer.table.size
  level : s.layer.queue.level number = .clear
  kind : ∀ l, s.layer.lock? number = some l → l.kind = .query
  free : ¬ s.layer.holds number
  phase : Phase number retries s.history .queryArgs (s.layer.lock? number)

namespace Due

variable {number retries : Nat} {s : Stage η E}

theorem probe (h : Due number retries s) (around : E) (room : Nat) :
    Due number retries (probed s around room) :=
  { h with phase := h.phase.idle (idle_noted rfl) }

/-- Without room the message goes back to its place. -/
theorem putBack (h : Due number retries s) :
    Traced number retries (s.change (·.push number .queryArgs)) := by
  have hlevel : (s.layer.push number .queryArgs).queue.level number = .queryArgs := by
    rw [push, Outbound.level_push (h.tidy.levels ▸ h.lt), if_pos rfl, h.level]
    rfl
  refine ⟨.inr hlevel, h.kind, h.free, ?_⟩
  rw [Scene.layer_change, hlevel]
  exact h.phase.idle (idle_changed rfl)

/-- The message is asked for and locked. -/
theorem ask (h : Due number retries s) (around : E) {what : Event η} (event : Traffic) (now : Tick)
    (hasks : asks number (.noted what)) :
    Traced number retries (((s.meet around what).change (·.count event)).change
      (·.arm now number .query)) := by
  obtain ⟨l, hl, hkind, hretries⟩ :=
    lock?_arm (g := s.layer.count event) now (h.tidy.locks ▸ h.lt) h.kind
  refine ⟨.inl h.level, fun l' hl' => ?_, h.free, ?_⟩
  · rw [Option.some.inj (hl'.symm.trans hl), hkind]
  · have hasked := h.phase.ask hasks rfl hretries
    have hcounted := hasked.idle (idle_locked s.layer (s.layer.count event) id)
    have harmed := hcounted.idle (idle_locked (s.layer.count event)
      ((s.layer.count event).arm now number .query) fun _ => by rw [isLocked, hl]; rfl)
    rw [Scene.layer_change, Scene.layer_change, Scene.layer_meet, hl]
    exact h.level ▸ harmed

end Due

namespace Traced

variable {n : Neighbours E} {call : Handlers η E} {g₀ : Messenger Neighbour η}
  {number retries : Nat} {s s' : Stage η E} {step : Step} {entry : Entry}

theorem due (h : Traced number retries s) (hstands : Stands g₀ none s.layer) {queue : Outbound}
    (hpop : s.layer.queue.pop = some (entry, queue)) (hentry : entry.number = number) (around : E)
    (room : Nat) : entry.priority = .queryArgs ∧
      Due number retries ((probed s around room).change ({ · with queue })) := by
  obtain ⟨-, hpriority, hlevel, -, hlevels⟩ := hstands.tidy.queue.pop hpop
  obtain ⟨hpopped, hlt⟩ := hstands.pop hpop
  subst hentry
  have hquery : entry.priority = .queryArgs := by
    rcases h.calm with hclear | hquery
    · exact absurd (hlevel.symm.trans hclear) hpriority
    · exact hlevel.symm.trans hquery
  have hphase := h.phase
  rw [hlevel, hquery] at hphase
  refine ⟨hquery, hpopped.tidy, hpopped.table ▸ hlt, ?_, h.kind, h.free, ?_⟩
  · exact (hlevels _).trans (if_pos rfl)
  · exact (hphase.idle (idle_noted rfl)).idle (idle_changed rfl)

/-- The turn of the message itself: it is asked for, or finds no room. -/
theorem visits_due (h : Due entry.number retries s) (hchild : Obliging n)
    (hquery : entry.priority = .queryArgs) (hvisits : Visits n call entry s step s') :
    (step = .sent ∧ Traced entry.number retries s') ∨ (step = .stalled ∧
      Traced entry.number retries (s'.change (·.push entry.number entry.priority))) := by
  cases hvisits with
  | unknown hunknown => exact absurd h.lt (Nat.not_lt.mpr (List.getElem?_eq_none_iff.mp hunknown))
  | describes _ hdescribe => exact absurd hdescribe (by rw [hquery]; decide)
  | replied _ hwait => exact absurd hwait (by rw [hquery]; decide)
  | supplies _ hargs => exact absurd hquery hargs.2.1
  | queries _ _ hqueries =>
      cases hqueries with
      | held hholds => exact absurd hholds h.free
      | sent _ hemits =>
          obtain ⟨hstalled, -⟩ | ⟨-, around, room, around', answer, rfl⟩ :=
            emits_request hchild hemits
          · cases hstalled
          · left
            refine ⟨rfl, (h.probe around room).ask around' _ _ ?_⟩
            rw [asks_transmission]
            exact decide_eq_true rfl
      | unsent _ hemits hstep =>
          obtain ⟨rfl, around, rfl⟩ | ⟨hsent, -⟩ := emits_request hchild hemits
          · right
            rw [hquery]
            exact ⟨rfl, (h.probe around 0).putBack⟩
          · exact absurd hsent hstep

theorem turn (hcall : ∀ handler input, Traces g₀ number retries (call handler input))
    (hchild : Obliging n) (hsize : g₀.table.size ≤ Catalog.maxMessages) (hnumber : number < g₀.table.size)
    (h : Traced number retries s) (hstands : Stands g₀ none s.layer) (hturn : Turn n call s s') :
    Traced number retries s' := by
  cases hturn with
  | full => exact h.probe _ _
  | idle => exact h.probe _ _
  | @visit around room entry queue step _ hroom hpop hvisits hstep =>
      by_cases hentry : entry.number = number
      · obtain ⟨hquery, hdue⟩ := h.due hstands hpop hentry around room
        subst hentry
        rcases visits_due hdue hchild hquery hvisits with ⟨-, hasked⟩ | ⟨hstalled, -⟩
        · exact hasked
        · exact absurd hstalled hstep
      · obtain ⟨hpopped, hlt⟩ := hstands.pop hpop
        have hspared := Spared.pop hstands.tidy.queue hpop hentry
        exact visits (s := (probed s around room).change ({ · with queue })) hcall
          ((h.probe around room).change hspared) hpopped hentry (by omega) (by omega) hvisits
  | @putBack around room entry queue s' hroom hpop hvisits =>
      by_cases hentry : entry.number = number
      · obtain ⟨hquery, hdue⟩ := h.due hstands hpop hentry around room
        subst hentry
        rcases visits_due hdue hchild hquery hvisits with ⟨hsent, -⟩ | ⟨-, hback⟩
        · cases hsent
        · exact hback
      · obtain ⟨hpopped, hlt⟩ := hstands.pop hpop
        have hspared := Spared.pop hstands.tidy.queue hpop hentry
        exact (visits (s := (probed s around room).change ({ · with queue })) hcall
          ((h.probe around room).change hspared) hpopped hentry (by omega) (by omega)
          hvisits).change (.push hentry _)

/-- A lock is released without a reply, and counted. -/
theorem giveUp (h : Traced number retries s) {f : Messenger Neighbour η → Messenger Neighbour η}
    {l : Lock} (hlock : s.layer.lock? number = some l) (hlock' : (f s.layer).lock? number = none)
    (hlevel : (f s.layer).queue.level number = s.layer.queue.level number)
    (hholds : (f s.layer).holds number → s.layer.holds number)
    (hcounted : risen s.layer.stats.txDropped (f s.layer).stats.txDropped) :
    Traced number retries (s.change f) := by
  have hgiven : givesUp number (.changed s.layer (f s.layer)) := by
    simp [givesUp, isLocked, hlock, hlock', hcounted]
  have hphase := h.phase
  rw [hlock] at hphase
  refine ⟨?_, ?_, h.free ∘ hholds, ?_⟩
  · rw [Scene.layer_change, hlevel]
    exact h.calm
  · simp [hlock']
  · rw [Scene.layer_change, hlevel, hlock']
    refine hphase.giveUp rfl fun hqueued => ?_
    have hsome : (s.layer.queue.priority? number).isSome :=
      Outbound.isSome_priority?.mpr (by rw [hqueued]; decide)
    rw [abandons, hgiven, hsome]
    rfl

theorem expire (h : Traced number s.layer.config.queryRetries.toNat s) (htidy : s.layer.Tidy)
    (now : Tick) : Traced number s.layer.config.queryRetries.toNat (s.change (·.expire now)) := by
  cases expires_expire (n := number) htidy now with
  | kept hspared => exact h.change hspared
  | dropped hlock hlock' hlevel hholds hcounted =>
      exact h.giveUp hlock hlock' hlevel hholds hcounted
  | @again l hlock hretries hlock' hlevel hholds =>
      -- the retry is queued at once, but made only when its turn comes
      obtain ⟨since, hlock'⟩ := hlock'
      have hkind := h.kind l hlock
      have hraised : (s.layer.expire now).queue.level number = .queryArgs := by
        rw [hlevel, hkind]
        rcases h.calm with hclear | hquery
        · rw [hclear]
          rfl
        · rw [hquery]
          rfl
      have hphase := h.phase
      rw [hlock] at hphase
      refine ⟨.inr hraised, fun l' hl' => ?_, h.free ∘ hholds, ?_⟩
      · rw [← Option.some.inj (hlock'.symm.trans hl')]
        exact hkind
      · rw [Scene.layer_change, hraised, hlock']
        refine hphase.retry (idle_locked _ _ fun _ => by rw [isLocked, hlock']; rfl) ?_
          (UInt8.lt_iff_toNat_lt.mp hretries)
        have hlt := UInt8.lt_iff_toNat_lt.mp hretries
        have hmax := s.layer.config.queryRetries.toNat_lt
        rw [UInt8.toNat_add, UInt8.toNat_one]
        exact Nat.mod_eq_of_lt (by omega)

theorem delivered (h : Traced number retries s) (report : Delivery) :
    Traced number retries (s.change (·.onDelivered report)) := by
  rcases onDelivered_cases s.layer report with hsame | ⟨m, hlocked, hdropped⟩
  · exact h.change (hsame.symm ▸ .refl s.layer)
  · by_cases hm : m = number
    · subst hm
      obtain ⟨l, hlock⟩ := Option.isSome_iff_exists.mp hlocked
      refine h.giveUp hlock ?_ ?_ ?_ ?_ <;> rw [hdropped]
      · exact lock?_unlock.trans (if_pos rfl)
      · rfl
      · exact id
      · exact risen_bump _
    · exact h.change (hdropped.symm ▸ (Spared.unlock hm).trans (.count _))

end Traced

section Users

variable {n : Neighbours E} {limit : Nat} {g₀ : Messenger Neighbour η} {call : Handlers η E}
  {number : Nat} {s : Stage η E}

section Calls

variable (hchild : g₀.node.child = .ok .child) (hobliging : Obliging n)
  (hsize : g₀.table.size ≤ Catalog.maxMessages) (hnumber : number < g₀.table.size)
  (hkeeps : ∀ handler input, Keeps g₀ (call handler input))
  (hcall : ∀ handler input, Traces g₀ number g₀.config.queryRetries.toNat (call handler input))

include hchild hobliging hsize hnumber hkeeps hcall

theorem traces_schedule :
    Traces g₀ number g₀.config.queryRetries.toNat (schedule (place n limit) call).run := by
  intro s hstands h
  have hturns := turns_schedule n limit call (hstands.node ▸ hchild)
  generalize ((schedule (place n limit) call).run s).2 = s' at hturns ⊢
  -- by induction on the turns; only a layer that stands can have the next one
  suffices Stands g₀ none s'.layer ∧ Traced number g₀.config.queryRetries.toNat s' from this.2
  induction hturns with
  | refl =>
      refine ⟨hstands.minor (Minor.expire _), ?_⟩
      rw [← hstands.config] at h ⊢
      exact h.expire hstands.tidy _
  | tail _ hturn ih =>
      exact ⟨ih.1.turns hkeeps hturn, ih.2.turn hcall hobliging hsize hnumber ih.1 hturn⟩

theorem traces_run (hlinks : ∃ links, g₀.node.links = some links) {op : Op}
    (hspares : op.Spares g₀.table number) :
    Traces g₀ number g₀.config.queryRetries.toNat (op.run n limit call) := by
  intro s hstands h
  cases op with
  | recv packet =>
      obtain ⟨links, hlinks⟩ := hlinks
      have hreceives := receives_recv n limit hlinks hstands packet
      change Traced number _ ((recv (place n limit) packet).run s).2
      generalize ((recv (place n limit) packet).run s).2 = s' at hreceives ⊢
      have hspared : ∀ flags data, packet = Tag.message :: flags :: data →
          Spared number s.layer (s.layer.taken packet flags data) := fun flags data hpacket =>
        Spared.taken (hstands.table ▸ hspares flags data hpacket) _ _
      cases hreceives with
      | malformed => exact h.change (.count _)
      | @unseen flags data around hpacket =>
          have htaken := h.change (f := (·.taken packet flags data)) (hspared _ _ hpacket)
          exact ⟨htaken.calm, htaken.kind, htaken.free, htaken.phase⟩
      | @seen flags data around answer hpacket who =>
          exact (h.change (f := (·.taken packet flags data)) (hspared _ _ hpacket)).meet around
            (by cases who <;> rfl)
  | post other priority =>
      simp only [Op.run]
      split
      · next hpost => exact h.change (f := fun _ => _) (Spared.post hspares hpost)
      · exact h
  | resend => exact absurd hspares id
  | schedule => exact traces_schedule hchild hobliging hsize hnumber hkeeps hcall s hstands h
  | delivered report => exact h.delivered report
  | advance ticks =>
      have hlater : Traced number g₀.config.queryRetries.toNat { s with now := s.now + ticks } :=
        ⟨h.calm, h.kind, h.free, h.phase⟩
      rw [← hstands.config] at hlater ⊢
      exact Traced.expire (s := { s with now := s.now + ticks }) hlater hstands.tidy _

end Calls

theorem traces_of_uses {table : Table η} {config : Config} {parent : Option Neighbour}
    (hobliging : Obliging n) (hsize : table.size ≤ Catalog.maxMessages)
    (hnumber : number < table.size) {α : Type} {act : StateM (Stage η E) α}
    (h : Uses n limit (Op.Spares table number) act) :
    Traces (begun table config parent) number config.queryRetries.toNat act := by
  induction h with
  | pure a => exact fun s _ h => h
  | bind hx _ ihx ihf =>
      intro s hstands h
      have hstands' := keeps_of_uses table config parent hx s hstands
      exact ihf _ _ hstands' (ihx s hstands h)
  | look view => exact fun s _ h => h
  | outside act => exact fun s _ h => ⟨h.calm, h.kind, h.free, h.phase⟩
  | op hspares hcall ihcall =>
      refine traces_run rfl hobliging hsize hnumber (fun handler input => ?_) ihcall ⟨_, rfl⟩
        hspares
      exact keeps_of_uses table config parent (hcall handler input)

/-- The message is queued to be asked for. -/
theorem traced_post {retries : Nat} (hstands : Stands g₀ none s.layer)
    (hnumber : number < g₀.table.size) (hhistory : s.history = [])
    (hlevel : s.layer.queue.level number = .clear) (hlock : s.layer.lock? number = none) :
    Traced number retries ((Op.post number .queryArgs).run n limit call s).2 := by
  have hfree : ¬ s.layer.holds number := fun hholds => by
    obtain ⟨data, hheld⟩ := holds_iff.mp hholds
    exact (hstands.waits _ hheld).2 nofun hlevel
  have hkind : ∀ l, s.layer.lock? number = some l → l.kind = .query := by simp [hlock]
  have hfresh : ∀ level, Phase number retries s.history level (s.layer.lock? number) :=
    fun level => .fresh hlock (by rw [hhistory]; rfl) (by simp [hhistory])
  have htraced : Traced number retries s := ⟨.inl hlevel, hkind, hfree, hfresh _⟩
  simp only [Op.run]
  cases hpost : s.layer.post number .queryArgs with
  | error error => exact htraced
  | ok g =>
      rcases post_cases hpost with rfl | ⟨hclear, -⟩ | ⟨-, -, rfl⟩
      · exact htraced.change (f := fun _ => _) (.refl _)
      · exact absurd hclear (by decide)
      · have hdue : Due number retries s :=
          ⟨hstands.tidy, hstands.table ▸ hnumber, hlevel, hkind, hfree, hfresh _⟩
        exact hdue.putBack

end Users

end Messenger

/-- What an application can make of a layer that it has linked to a child. -/
def Reached (n : Neighbours E) (limit : Nat) (table : Table η) (config : Config)
    (s : Stage η E) : Prop :=
  ∃ (past : StateM (Stage η E) Unit) (parent : Option Neighbour) (around : E) (now : Tick),
    Uses n limit (fun _ => True) past ∧ s = (past ⟨.begun table config parent, around, now, []⟩).2

/-- A request for a message is queued, and the history begins anew. -/
def requested (n : Neighbours E) (limit number : Nat) (s : Stage η E) : Stage η E :=
  ((Op.post number .queryArgs).run n limit (fun _ _ => pure none) { s with history := [] }).2

/-- Whatever has been done with a message layer before, and whatever is done with it
while a request for a message stands, the request is bounded unless the message is
given up while it is still queued and asked for again. -/
theorem bounded_iff_not_askedAgain {table : Table η} {config : Config} {n : Neighbours E}
    {limit number : Nat} (hsize : table.size ≤ Catalog.maxMessages) (hchild : Obliging n)
    (hnumber : number < table.size) {s : Stage η E} (hs : Reached n limit table config s)
    (hqueued : s.layer.queue.priority? number = none) (hlocked : s.layer.isLocked number = false)
    {act : StateM (Stage η E) Unit} (hact : Uses n limit (Op.Spares table number) act) :
    Bounded number config.queryRetries.toNat (act (requested n limit number s)).2.history ↔
      ¬ AskedAgain number (act (requested n limit number s)).2.history := by
  obtain ⟨past, parent, around, now, hpast, rfl⟩ := hs
  have hstands : Messenger.Stands (.begun table config parent) none
      (past ⟨.begun table config parent, around, now, []⟩).2.layer :=
    Messenger.keeps_of_uses table config parent hpast _ (Messenger.stands_begun table config parent)
  generalize (past ⟨.begun table config parent, around, now, []⟩).2 = s at *
  have hlevel : s.layer.queue.level number = .clear := by
    refine Decidable.byContradiction fun hother => ?_
    have hsome := Outbound.isSome_priority?.mpr hother
    simp [hqueued] at hsome
  have hlock : s.layer.lock? number = none :=
    Option.isNone_iff_eq_none.mp (Option.isSome_eq_false_iff.mp hlocked)
  have htraced : Messenger.Traced number config.queryRetries.toNat (requested n limit number s) :=
    Messenger.traced_post (s := { s with history := [] }) hstands hnumber rfl hlevel hlock
  have hrequested : Messenger.Stands (.begun table config parent) none
      (requested n limit number s).layer :=
    Messenger.keeps_run n limit rfl rfl (fun _ _ s hs => hs) (.post number .queryArgs)
      { s with history := [] } hstands
  exact (Messenger.traces_of_uses hchild hsize hnumber hact _ hrequested htraced).phase.bounded_iff

/-! ### A request that is made again -/

section Drift

/-- A catalog of one message. -/
def oneMessage : Table Unit :=
  { messages := [
    { descriptor := { source := "a", tokens := [.literal "a"] }, size := 1, handler := none,
      priority := 0 },
    { descriptor := { source := "%!", tokens := [.terminator] }, size := 0, handler := none,
      priority := 0 }] }

/-- A child that always has room. -/
def wideChild : Layer (StateM Unit) where
  name := pure "wide"
  recv bytes := pure bytes.length
  send bytes := pure bytes.length
  capacity := pure 256
  delivered _ := pure ()
  stats := pure {}

def wide : Neighbours Unit where
  layer _ := wideChild
  alive _ := pure true

theorem obliging_wide : Obliging wide where
  room _ := .inr (show header ≤ 256 by decide)
  takes confirmed _ _ := by cases confirmed <;> rfl

def oneRetry : Config := { queryTimeout := 10, queryRetries := 1 }

/-- Operations one after the other, without handlers. -/
def Op.runAll (ops : List Op) : StateM (Stage Unit Unit) Unit :=
  ops.forM fun op => do let _ ← op.run wide 0 fun _ _ => pure none

theorem uses_runAll {allowed : Op → Prop} {ops : List Op} (h : ∀ op ∈ ops, allowed op) :
    Uses wide 0 allowed (Op.runAll ops) := by
  induction ops with
  | nil => exact .pure _
  | cons op ops ih =>
      have hop : Uses wide 0 allowed
          (op.run wide 0 fun _ _ => pure none : StateM (Stage Unit Unit) _) :=
        .op (h op List.mem_cons_self) fun _ _ => .pure _
      exact .bind (.bind hop fun _ => .pure _) fun _ =>
        ih fun op' hmem => h op' (List.mem_cons_of_mem _ hmem)

/-- Two timeouts between one schedule and the next, twice. -/
def driftOps : List Op :=
  [.schedule, .advance 10, .advance 10, .schedule, .advance 10, .advance 10, .schedule]

def fresh : Stage Unit Unit := ⟨.begun oneMessage oneRetry none, (), 0, []⟩

theorem spares_driftOps : ∀ op ∈ driftOps, op.Spares oneMessage 0 := by
  simp [driftOps, Op.Spares]

theorem reached_fresh : Reached wide 0 oneMessage oneRetry fresh :=
  ⟨pure (), none, (), 0, .pure _, rfl⟩

theorem askedAgain_driftOps :
    AskedAgain 0 (Op.runAll driftOps (requested wide 0 0 fresh)).2.history := by
  refine Classical.byContradiction fun hnot => ?_
  have hbounded := (bounded_iff_not_askedAgain (by decide) obliging_wide (by decide) reached_fresh
    (by decide +kernel) (by decide +kernel) (uses_runAll spares_driftOps)).mpr hnot
  exact absurd hbounded.requests (by decide +kernel)

theorem not_forall_request_bounded :
    ¬ ∀ (table : Table Unit) (config : Config) (n : Neighbours Unit) (limit number : Nat),
      table.size ≤ Catalog.maxMessages → config.confirmQueries = false → Obliging n →
      number < table.size → ∀ s, Reached n limit table config s →
      s.layer.queue.priority? number = none → s.layer.isLocked number = false →
      ∀ act : StateM (Stage Unit Unit) Unit,
        Uses n limit (fun op => op = .schedule ∨ ∃ ticks, op = .advance ticks) act →
        Bounded number config.queryRetries.toNat (act (requested n limit number s)).2.history := by
  intro hall
  have hbounded := hall oneMessage oneRetry wide 0 0 (by decide) rfl obliging_wide (by decide) fresh
    reached_fresh (by decide +kernel) (by decide +kernel) (Op.runAll driftOps)
    (uses_runAll (by simp [driftOps]))
  exact absurd hbounded.requests (by decide +kernel)

end Drift

end LinkStack.Exchange
