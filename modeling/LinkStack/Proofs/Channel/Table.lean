import LinkStack.Proofs.Channel.Clients
import LinkStack.Proofs.Channel.Programs

/-!
What a datagram channel keeps to in every run: its table stays within the limit and has no address
twice, what is registered stays registered, and after the silent clients have been forgotten every
learned one was heard from in time (`kept_run`). They are forgotten at the end of every poll, before
the clients are counted and before a packet is written (`Forgets`).

Two invariants carry this. One is about the table as it is (`Log.Sound`): a learned client was last
seen when its last datagram came. The other one is about all tables that are on record.
-/

namespace LinkStack.Channel

variable {E α : Type} {config : UdpConfig} {l l' : Log}

/-! ### Reading a record -/

def Event.sender? : Event → Option SocketAddress
  | heard sender _ => some sender
  | _ => none

def Event.tables : Event → List (Clients SocketAddress)
  | registered _ _ before after | changed before after => [before, after]
  | _ => []

/-- The tables on record, and the present one. -/
def Log.tables (l : Log) : List (Clients SocketAddress) := l.past.flatMap (·.2.tables) ++ [l.table]

/-- An address was heard from, and less than a timeout has passed since. -/
def HeardWithin (past : List Entry) (timeout now : Nat) (address : SocketAddress) : Prop :=
  ∃ entry ∈ past, entry.2.sender? = some address ∧ now < entry.1 + timeout

instance (past : List Entry) (timeout now : Nat) (address : SocketAddress) :
    Decidable (HeardWithin past timeout now address) :=
  inferInstanceAs (Decidable (∃ entry ∈ past, _))

theorem HeardWithin.append {past : List Entry} {timeout now : Nat} {address : SocketAddress}
    (h : HeardWithin past timeout now address) (more : List Entry) :
    HeardWithin (past ++ more) timeout now address := by
  obtain ⟨entry, hentry, hheard⟩ := h
  exact ⟨entry, List.mem_append_left _ hentry, hheard⟩

/-- Every entry obeys a law, which is about what stands before it and after it. -/
def Lawful (law : List Entry → Entry → List Entry → Prop) (past : List Entry) : Prop :=
  ∀ earlier entry later, past = earlier ++ entry :: later → law earlier entry later

theorem Lawful.append {law : List Entry → Entry → List Entry → Prop} {past more : List Entry}
    (h : Lawful law past)
    (hmono : ∀ earlier entry later, law earlier entry later → law earlier entry (later ++ more))
    (hmore : ∀ earlier entry later, more = earlier ++ entry :: later →
      law (past ++ earlier) entry later) : Lawful law (past ++ more) := by
  intro earlier entry later heq
  rcases List.append_eq_append_iff.mp heq with ⟨between, rfl, hmoreq⟩ | ⟨between, hpast, hrest⟩
  · exact hmore between entry later hmoreq
  · cases between with
    | nil =>
        rw [List.append_nil] at hpast
        have hfirst := hmore [] entry later hrest.symm
        rwa [List.append_nil, hpast] at hfirst
    | cons first between =>
        obtain ⟨rfl, rfl⟩ := List.cons.inj hrest
        exact hmono _ _ _ (h _ _ _ hpast)

/-- There is only one way to split a single entry. -/
theorem split_singleton {added entry : Entry} {earlier later : List Entry}
    (h : [added] = earlier ++ entry :: later) : earlier = [] ∧ entry = added ∧ later = [] := by
  rcases List.singleton_eq_append_iff.mp h with ⟨hearlier, hentry⟩ | ⟨-, hnil⟩
  · exact ⟨hearlier, List.cons.inj hentry⟩
  · cases hnil

theorem split_pair {first second entry : Entry} {earlier later : List Entry}
    (h : [first, second] = earlier ++ entry :: later) :
    (earlier = [] ∧ entry = first ∧ later = [second]) ∨
      (earlier = [first] ∧ entry = second ∧ later = []) := by
  cases earlier with
  | nil =>
      obtain ⟨rfl, rfl⟩ := List.cons.inj h
      exact .inl ⟨rfl, rfl, rfl⟩
  | cons first' earlier =>
      obtain ⟨rfl, hrest⟩ := List.cons.inj h
      obtain ⟨rfl, rfl, rfl⟩ := split_singleton hrest
      exact .inr ⟨rfl, rfl, rfl⟩

/-- A change that forgets the silent clients leaves exactly those that are registered or were heard
from in time. -/
def ForgetsSilent (config : UdpConfig) (earlier : List Entry) : Entry → List Entry → Prop
  | (now, .changed before after), _ => after = before.expire now →
      ∀ c, c ∈ after.list ↔ c ∈ before.list ∧
        (c.pinned = true ∨ HeardWithin earlier config.clientTimeout now c.address)
  | _, _ => True

/-- The silent clients have just been forgotten when a poll has ended and when the clients have been
counted, and they are forgotten before anything else is done about a packet that is not too long. -/
def Forgets (config : UdpConfig) (earlier : List Entry) : Entry → List Entry → Prop
  | (now, .polled _), _ => ∃ before rest,
      earlier = rest ++ [(now, .changed before (before.expire now))]
  | (now, .counted clients), _ => ∃ before rest,
      earlier = rest ++ [(now, .changed before (before.expire now))] ∧
      clients = (before.expire now).size
  | (now, .writes length), later => length ≤ config.maxPacket → ∃ before rest,
      later = (now, .changed before (before.expire now)) :: rest
  | _, _ => True

theorem Forgets.append {earlier later : List Entry} {entry : Entry}
    (h : Forgets config earlier entry later) (more : List Entry) :
    Forgets config earlier entry (later ++ more) := by
  obtain ⟨now, event⟩ := entry
  cases event with
  | writes length =>
      intro hlength
      obtain ⟨before, rest, rfl⟩ := h hlength
      exact ⟨before, rest ++ more, rfl⟩
  | heard | registered | changed | polled | counted => exact h

/-- What a channel keeps to. -/
structure Log.Kept (config : UdpConfig) (l : Log) : Prop where
  bounded : ∀ t ∈ l.tables, t.size ≤ config.maxClients
  distinct : ∀ t ∈ l.tables, t.addresses.Nodup
  /-- An address that is registered in one table is so in all that come after it. -/
  pinned : l.tables.Pairwise fun t t' => ∀ address, t.Pins address → t'.Pins address
  registered : ∀ now address before after,
    (now, .registered address (.ok ()) before after) ∈ l.past → after.Pins address
  /-- What is refused is a new address for a full table, which stays as it is. -/
  refused : ∀ now address error before after,
    (now, .registered address (.error error) before after) ∈ l.past →
    error = .tooManyClients config.maxClients ∧ after = before ∧
      address ∉ before.addresses ∧ config.maxClients ≤ before.size
  expired : Lawful (ForgetsSilent config) l.past
  forgets : Lawful (Forgets config) l.past

/-! ### Single moves -/

namespace Move

variable {now : Nat} {t t' : Clients SocketAddress} {events : List Event}

theorem tables (h : Move config now t events t') : events.flatMap Event.tables = [t, t'] := by
  cases h <;> rfl

theorem grows_or_expires (h : Move config now t events t') : t.Grows t' ∨ t' = t.expire now := by
  cases h with
  | heard sender length => exact .inl (t.grows_touch now sender)
  | registered h => exact .inl (Clients.grows_register h)
  | polled | counted | writes => exact .inr rfl
  | other | refused | tooLong => exact .inl (.refl t)

theorem maxClients (h : Move config now t events t') : t'.maxClients = t.maxClients := by
  rcases h.grows_or_expires with hgrows | rfl
  · exact hgrows.maxClients
  · rfl

theorem timeout (h : Move config now t events t') : t'.timeout = t.timeout := by
  rcases h.grows_or_expires with hgrows | rfl
  · exact hgrows.timeout
  · rfl

theorem sound (h : Move config now t events t') (ht : t.Sound) : t'.Sound := by
  rcases h.grows_or_expires with hgrows | rfl
  · exact hgrows.sound ht
  · exact ht.expire now

theorem pins (h : Move config now t events t') (address : SocketAddress) (hpin : t.Pins address) :
    t'.Pins address := by
  rcases h.grows_or_expires with hgrows | rfl
  · exact hgrows.pins address hpin
  · exact Clients.pins_expire hpin

/-- A learned client was there before, and no datagram has come from it, or one has come just
now. -/
theorem learned (h : Move config now t events t') {c : Client SocketAddress} (hc : c ∈ t'.list)
    (hlearned : c.pinned = false) :
    (c ∈ t.list ∧ ∀ event ∈ events, event.sender? ≠ some c.address) ∨
      (c.lastSeen = now ∧ ∃ event ∈ events, event.sender? = some c.address) := by
  cases h with
  | heard sender length =>
      rcases Clients.mem_touch hc with ⟨hold, hother⟩ | ⟨haddress, hseen⟩
      · left
        refine ⟨hold, fun event hevent => ?_⟩
        rcases List.mem_pair.mp hevent with rfl | rfl
        · exact fun heq => hother (Option.some.inj heq).symm
        · exact nofun
      · exact .inr ⟨hseen, _, .head _, congrArg some haddress.symm⟩
  | registered h =>
      rcases Clients.mem_register h hc with hold | hpinned
      · exact .inl ⟨hold, by simp [Event.sender?]⟩
      · rw [hpinned] at hlearned
        cases hlearned
  | polled | counted | writes =>
      exact .inl ⟨(Clients.mem_expire.mp hc).1, by simp [Event.sender?]⟩
  | other | refused | tooLong => exact .inl ⟨hc, by simp [Event.sender?]⟩

theorem pins_of_registered (h : Move config now t events t') {address : SocketAddress}
    {before after : Clients SocketAddress}
    (hevent : .registered address (.ok ()) before after ∈ events) : after.Pins address := by
  cases h with
  | registered h =>
      obtain ⟨rfl, -, -, rfl⟩ := Event.registered.inj (List.mem_singleton.mp hevent)
      exact Clients.pins_register h
  | other | heard | refused | polled | counted | writes | tooLong => simp at hevent

theorem same_of_refused (h : Move config now t events t') {address : SocketAddress} {error : Error}
    {before after : Clients SocketAddress}
    (hevent : .registered address (.error error) before after ∈ events) :
    error = .tooManyClients t.maxClients ∧ after = before ∧ address ∉ before.addresses ∧
      t.maxClients ≤ before.size := by
  cases h with
  | refused h =>
      obtain ⟨rfl, heq, rfl, rfl⟩ := Event.registered.inj (List.mem_singleton.mp hevent)
      obtain rfl := Except.error.inj heq
      obtain ⟨herror, hnew, hfull⟩ := Clients.register_error h
      exact ⟨herror, rfl, hnew, hfull⟩
  | other | heard | registered | polled | counted | writes | tooLong => simp at hevent

theorem of_changed (h : Move config now t events t') {before after : Clients SocketAddress}
    (hevent : .changed before after ∈ events) : before = t ∧ after = t' := by
  cases h <;> simp at hevent <;> exact hevent

/-- If nothing but the silent clients is lost, then either no datagram has come or there were no
silent clients. -/
theorem silent_or_kept (h : Move config now t events t') (hexpire : t' = t.expire now) :
    (∀ event ∈ events, event.sender? = none) ∨ ∀ c ∈ t.list, t.keeps now c = true := by
  cases h with
  | heard sender length => exact .inr fun c => Clients.keeps_of_touch_eq_expire hexpire
  | other | registered | refused | polled | counted | writes | tooLong =>
      exact .inl (by simp [Event.sender?])

end Move

/-! ### The present table -/

/-- A new channel has no clients. -/
theorem eq_of_new {u : Udp Neighbour} (hnew : Udp.new config = .ok u) :
    u = { config, clients :=
      { maxClients := config.maxClients, timeout := config.clientTimeout } } := by
  rw [Udp.new] at hnew
  cases hvalid : config.validate with
  | error error => simp [hvalid, Except.map] at hnew
  | ok valid =>
      rw [hvalid] at hnew
      exact (Except.ok.inj hnew).symm

/-- A client was last seen when its last datagram came. -/
structure Seen (past : List Entry) (c : Client SocketAddress) : Prop where
  heard : ∃ entry ∈ past, entry.2.sender? = some c.address ∧ entry.1 = c.lastSeen
  last : ∀ entry ∈ past, entry.2.sender? = some c.address → entry.1 ≤ c.lastSeen

/-- What the table is at any time. -/
structure Log.Sound (config : UdpConfig) (l : Log) : Prop where
  maxClients : l.table.maxClients = config.maxClients
  timeout : l.table.timeout = config.clientTimeout
  table : l.table.Sound
  past : ∀ entry ∈ l.past, entry.1 ≤ l.time
  seen : ∀ c ∈ l.table.list, c.pinned = false → Seen l.past c

namespace Log.Sound

theorem start {u : Udp Neighbour} (hnew : Udp.new config = .ok u) (time : Nat) :
    Sound config { time, table := u.clients } := by
  obtain rfl := eq_of_new hnew
  exact ⟨rfl, rfl, ⟨Nat.zero_le _, .nil⟩, nofun, nofun⟩

theorem step (h : l.Sound config) (hstep : l.Step config l') : l'.Sound config := by
  cases hstep with
  | wait ms => exact ⟨h.maxClients, h.timeout, h.table,
      fun entry hentry => Nat.le_add_right_of_le (h.past entry hentry), h.seen⟩
  | @move events table hmove =>
      refine ⟨hmove.maxClients.trans h.maxClients, hmove.timeout.trans h.timeout,
        hmove.sound h.table, fun entry hentry => ?_, fun c hc hlearned => ?_⟩
      · rcases List.mem_append.mp hentry with hold | hadded
        · exact h.past entry hold
        · obtain ⟨event, -, rfl⟩ := List.mem_map.mp hadded
          exact Nat.le_refl l.time
      · rcases hmove.learned hc hlearned with ⟨hold, hsilent⟩ | ⟨hseen, event, hevent, hsender⟩
        · obtain ⟨⟨entry, hentry, hheard⟩, hlast⟩ := h.seen c hold hlearned
          refine ⟨⟨entry, List.mem_append_left _ hentry, hheard⟩, fun entry hentry hsender => ?_⟩
          rcases List.mem_append.mp hentry with hold | hadded
          · exact hlast entry hold hsender
          · obtain ⟨event, hevent, rfl⟩ := List.mem_map.mp hadded
            exact absurd hsender (hsilent event hevent)
        · refine ⟨⟨(l.time, event), ?_, hsender, hseen.symm⟩, fun entry hentry _ => ?_⟩
          · exact List.mem_append_right _ (List.mem_map_of_mem hevent)
          · rw [hseen]
            rcases List.mem_append.mp hentry with hold | hadded
            · exact h.past entry hold
            · obtain ⟨event, -, rfl⟩ := List.mem_map.mp hadded
              exact Nat.le_refl l.time

/-- The clients that are kept are those that are registered or have been heard from in time. -/
theorem keeps_iff (h : l.Sound config) {c : Client SocketAddress} (hc : c ∈ l.table.list) :
    l.table.keeps l.time c = true ↔
      c.pinned = true ∨ HeardWithin l.past config.clientTimeout l.time c.address := by
  rw [Clients.keeps, Bool.or_eq_true, decide_eq_true_eq, h.timeout]
  cases hpinned : c.pinned with
  | true => simp
  | false =>
      simp only [Bool.false_eq_true, false_or]
      obtain ⟨⟨entry, hentry, hsender, hseen⟩, hlast⟩ := h.seen c hc hpinned
      have hpast := h.past entry hentry
      constructor
      · intro hrecent
        exact ⟨entry, hentry, hsender, by omega⟩
      · rintro ⟨entry', hentry', hsender', hrecent⟩
        have hlast' := hlast entry' hentry' hsender'
        have hpast' := h.past entry' hentry'
        omega

end Log.Sound

/-! ### All tables -/

/-- A single step adds no tables but the present one, from before it and from after it. -/
theorem Log.Step.tables (h : l.Step config l') :
    l'.tables = l.tables ∨ l'.tables = l.tables ++ [l'.table, l'.table] := by
  cases h with
  | wait ms => exact .inl rfl
  | @move events table hmove =>
      right
      have hmap : (events.map fun event => (l.time, event)).flatMap (·.2.tables) =
          [l.table, table] := by
        rw [List.flatMap_map, ← hmove.tables]
      show (l.past ++ _).flatMap _ ++ [table] = _
      rw [List.flatMap_append, hmap]
      simp [Log.tables, Log.extend]

theorem Log.mem_extend {events : List Event} {table : Clients SocketAddress} {now : Nat}
    {event : Event} (h : (now, event) ∈ (l.extend events table).past) :
    (now, event) ∈ l.past ∨ event ∈ events := by
  rcases List.mem_append.mp h with hold | hadded
  · exact .inl hold
  · obtain ⟨event', hevent, heq⟩ := List.mem_map.mp hadded
    obtain ⟨-, rfl⟩ := Prod.mk.inj heq
    exact .inr hevent

/-- What the present table always is, all tables are. -/
theorem Log.Step.forall_tables (h : l.Step config l') {P : Clients SocketAddress → Prop}
    (hall : ∀ t ∈ l.tables, P t) (hnow : P l'.table) : ∀ t ∈ l'.tables, P t := by
  intro t ht
  rcases h.tables with hsame | hmore
  · exact hall t (hsame ▸ ht)
  · rw [hmore] at ht
    rcases List.mem_append.mp ht with hold | hadded
    · exact hall t hold
    · rcases List.mem_pair.mp hadded with rfl | rfl <;> exact hnow

theorem Log.Step.pins (h : l.Step config l') (address : SocketAddress)
    (hpin : l.table.Pins address) : l'.table.Pins address := by
  cases h with
  | wait ms => exact hpin
  | move hmove => exact hmove.pins address hpin

theorem Log.Step.pairwise_tables (h : l.Step config l')
    (hpinned : l.tables.Pairwise fun t t' => ∀ address, t.Pins address → t'.Pins address) :
    l'.tables.Pairwise fun t t' => ∀ address, t.Pins address → t'.Pins address := by
  rcases h.tables with hsame | hmore
  · rw [hsame]
    exact hpinned
  · have hnow : ∀ t ∈ l.tables, ∀ address, t.Pins address → l'.table.Pins address := by
      intro t ht address hpin
      apply h.pins
      rcases List.mem_append.mp ht with hpast | hlast
      · exact (List.pairwise_append.mp hpinned).2.2 t hpast l.table (.head _) address hpin
      · rwa [← List.mem_singleton.mp hlast]
    rw [hmore]
    refine List.pairwise_append.mpr ⟨hpinned, ?_, fun t ht t' ht' => ?_⟩
    · simp
    · rcases List.mem_pair.mp ht' with rfl | rfl <;> exact hnow t ht

/-! ### Runs -/

/-- What holds of a new channel and is preserved by every step holds in every run. -/
theorem holds_run {u : Udp Neighbour} (hnew : Udp.new config = .ok u) {P : Log → Prop} {time : Nat}
    (hstart : P { time, table := u.clients })
    (hstep : ∀ {l l'}, l.Sound config → l.Step config l' → P l → P l')
    (alive : Neighbour → E → Bool) (limit : Nat) (p : Program E α) (around : E) :
    P (p.run alive limit { channel := u, around, time }).2.log := by
  have hboth := (steps_run alive limit p).preserves (P := fun l => l.Sound config ∧ P l)
    (fun _ _ h hl => ⟨hl.1.step h, hstep hl.1 h hl.2⟩)
    (s := { channel := u, around, time }) (congrArg Udp.config (eq_of_new hnew))
    ⟨.start hnew time, hstart⟩
  exact hboth.2

namespace Log.Kept

theorem start {time : Nat} {table : Clients SocketAddress} (hsound : Sound config { time, table }) :
    Kept config { time, table } where
  bounded t ht := by
    rw [List.mem_singleton.mp ht, ← hsound.maxClients]
    exact hsound.table.bounded
  distinct t ht := by
    rw [List.mem_singleton.mp ht]
    exact hsound.table.distinct
  pinned := List.pairwise_singleton _ _
  registered := nofun
  refused := nofun
  expired earlier entry later h := by simp at h
  forgets earlier entry later h := by simp at h

/-- The silent clients are told from the others by the datagrams that came before. -/
theorem forgetsSilent_move (hsound : l.Sound config) {events : List Event}
    {table : Clients SocketAddress} (hmove : Move config l.time l.table events table)
    {earlier later : List Entry} {entry : Entry}
    (hadded : (events.map fun event => (l.time, event)) = earlier ++ entry :: later) :
    ForgetsSilent config (l.past ++ earlier) entry later := by
  have hmem : entry ∈ events.map fun event => (l.time, event) :=
    hadded ▸ List.mem_append_right _ (.head _)
  obtain ⟨event, hevent, rfl⟩ := List.mem_map.mp hmem
  cases event with
  | heard | registered | polled | counted | writes => trivial
  | changed before after =>
      obtain ⟨rfl, rfl⟩ := hmove.of_changed hevent
      intro hexpire c
      rw [hexpire, Clients.mem_expire, and_congr_right_iff]
      intro hc
      constructor
      · intro hkept
        exact ((hsound.keeps_iff hc).mp hkept).imp_right (·.append earlier)
      · intro hlive
        rcases hmove.silent_or_kept hexpire with hsilent | hall
        · refine (hsound.keeps_iff hc).mpr (hlive.imp_right fun hheard => ?_)
          obtain ⟨entry, hentry, hsender, hrecent⟩ := hheard
          rcases List.mem_append.mp hentry with hpast | hjust
          · exact ⟨entry, hpast, hsender, hrecent⟩
          · have hnow : entry ∈ events.map fun event => (l.time, event) :=
              hadded ▸ List.mem_append_left _ hjust
            obtain ⟨event', hevent', rfl⟩ := List.mem_map.mp hnow
            cases (hsilent event' hevent').symm.trans hsender
        · exact hall c hc

theorem forgets_move {events : List Event} {table : Clients SocketAddress}
    (hmove : Move config l.time l.table events table) {earlier later : List Entry} {entry : Entry}
    (hadded : (events.map fun event => (l.time, event)) = earlier ++ entry :: later) :
    Forgets config (l.past ++ earlier) entry later := by
  cases hmove with
  | other | registered | refused =>
      obtain ⟨-, rfl, -⟩ := split_singleton hadded
      trivial
  | heard sender length =>
      rcases split_pair hadded with ⟨-, rfl, -⟩ | ⟨-, rfl, -⟩ <;> trivial
  | polled processed =>
      rcases split_pair hadded with ⟨-, rfl, -⟩ | ⟨rfl, rfl, -⟩
      · trivial
      · exact ⟨l.table, l.past, rfl⟩
  | counted =>
      rcases split_pair hadded with ⟨-, rfl, -⟩ | ⟨rfl, rfl, -⟩
      · trivial
      · exact ⟨l.table, l.past, rfl, rfl⟩
  | writes hshort =>
      rcases split_pair hadded with ⟨-, rfl, rfl⟩ | ⟨-, rfl, -⟩
      · exact fun _ => ⟨l.table, [], rfl⟩
      · trivial
  | tooLong hlong =>
      rcases split_pair hadded with ⟨-, rfl, -⟩ | ⟨-, rfl, -⟩
      · exact fun hshort => absurd hlong (Nat.not_lt.mpr hshort)
      · trivial

theorem step (h : l.Kept config) (hsound : l.Sound config) (hstep : l.Step config l') :
    l'.Kept config := by
  have hsound' := hsound.step hstep
  have hbounded : l'.table.size ≤ config.maxClients := hsound'.maxClients ▸ hsound'.table.bounded
  have hboundeds := hstep.forall_tables h.bounded hbounded
  have hdistincts := hstep.forall_tables h.distinct hsound'.table.distinct
  have hpinned := hstep.pairwise_tables h.pinned
  cases hstep with
  | wait ms =>
      exact ⟨hboundeds, hdistincts, hpinned, h.registered, h.refused, h.expired, h.forgets⟩
  | move hmove =>
      refine ⟨hboundeds, hdistincts, hpinned, ?_, ?_, ?_, ?_⟩
      · intro now address before after hmem
        rcases Log.mem_extend hmem with hold | hadded
        · exact h.registered now address before after hold
        · exact hmove.pins_of_registered hadded
      · intro now address error before after hmem
        rcases Log.mem_extend hmem with hold | hadded
        · exact h.refused now address error before after hold
        · rw [← hsound.maxClients]
          exact hmove.same_of_refused hadded
      · refine h.expired.append ?_ fun earlier entry later => forgetsSilent_move hsound hmove
        rintro earlier ⟨now, _ | _ | _ | _ | _ | _⟩ later hlaw <;> exact hlaw
      · exact h.forgets.append (fun _ _ _ hlaw => hlaw.append _) fun _ _ _ => forgets_move hmove

end Log.Kept

/-- Whatever program runs around a new channel, it keeps to its laws. -/
theorem kept_run {u : Udp Neighbour} (hnew : Udp.new config = .ok u)
    (alive : Neighbour → E → Bool) (limit : Nat) (p : Program E α) (around : E) (time : Nat) :
    (p.run alive limit { channel := u, around, time }).2.log.Kept config :=
  holds_run hnew (.start (.start hnew time)) (fun hsound hstep h => h.step hsound hstep)
    alive limit p around

/-- One client is registered, another one is heard twice and forgotten when it is silent. -/
theorem kept_mail :
    let config : UdpConfig := { maxClients := 2 }
    let l := Mail.log config [some (Mail.peer 9, [1, 2]), some (Mail.peer 9, [3])]
      [.init none, .addClient (Mail.peer 7), .poll, .wait 5000, .poll]
    Udp.new config = .ok (Mail.channel config) ∧ l.Kept config ∧
      (l.tables.map (·.addresses.length)).eraseReps = [0, 1, 2, 1] ∧
      l.table.addresses = [Mail.peer 7] := by
  refine ⟨rfl, kept_run rfl _ _ _ _ _, ?_, ?_⟩ <;> decide +kernel

end LinkStack.Channel
