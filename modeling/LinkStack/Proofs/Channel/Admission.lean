import LinkStack.Proofs.Channel.Table

/-!
Who becomes a client of a datagram channel.

Silent clients are forgotten at the end of a poll, before a write and when the clients are counted,
but not when a datagram comes in or an address is registered. A full table with a client that has
fallen silent since then is clogged: it has no room for a new one, although fewer than the limit
would be kept. This is the only way in which a silent client stands in the way of another
(`admits_unless_clogged_run`).
-/

namespace LinkStack.Channel

variable {E α : Type} {config : UdpConfig} {l l' : Log}

/-- How many clients of a table are registered or were heard from in time. -/
def UdpConfig.live (config : UdpConfig) (past : List Entry) (now : Nat)
    (t : Clients SocketAddress) : Nat :=
  t.list.countP fun c => c.pinned || decide (HeardWithin past config.clientTimeout now c.address)

/-- As long as fewer clients than the limit are registered or were heard from in time, who is new
is admitted exactly if there is room in some sense. -/
def Admits (room : Nat → Clients SocketAddress → Prop) (config : UdpConfig)
    (earlier : List Entry) : Entry → List Entry → Prop
  | (now, .heard sender _), later => ∃ before after rest,
      later = (now, .changed before after) :: rest ∧
      (sender ∉ before.addresses → config.live earlier now before < config.maxClients →
        (sender ∈ after.addresses ↔ room now before))
  | (now, .registered address answer before _), _ => address ∉ before.addresses →
      config.live earlier now before < config.maxClients →
      (answer = .ok () ↔ room now before)
  | _, _ => True

theorem Log.Sound.live_eq (h : l.Sound config) :
    config.live l.past l.time l.table = l.table.list.countP (l.table.keeps l.time) := by
  refine List.countP_congr fun c hc => ?_
  rw [h.keeps_iff hc, Bool.or_eq_true, decide_eq_true_eq]

/-- Fewer than the limit are live: then there is room, unless the table is clogged. -/
theorem Log.Sound.room_iff (h : l.Sound config)
    (hlive : config.live l.past l.time l.table < config.maxClients) :
    l.table.size < l.table.maxClients ↔ ¬ l.table.Clogged l.time :=
  Clients.room_iff_not_clogged (by rwa [← h.live_eq, h.maxClients])

/-- A new address is admitted exactly if the table is not clogged. -/
abbrev AdmitsUnlessClogged : UdpConfig → List Entry → Entry → List Entry → Prop :=
  Admits fun now t => ¬ t.Clogged now

theorem admits_move (hsound : l.Sound config) {events : List Event}
    {table : Clients SocketAddress} (hmove : Move config l.time l.table events table)
    {earlier later : List Entry} {entry : Entry}
    (hadded : (events.map fun event => (l.time, event)) = earlier ++ entry :: later) :
    AdmitsUnlessClogged config (l.past ++ earlier) entry later := by
  cases hmove with
  | other =>
      obtain ⟨-, rfl, -⟩ := split_singleton hadded
      trivial
  | polled | counted | writes | tooLong =>
      rcases split_pair hadded with ⟨-, rfl, -⟩ | ⟨-, rfl, -⟩ <;> trivial
  | heard sender length =>
      rcases split_pair hadded with ⟨rfl, rfl, rfl⟩ | ⟨-, rfl, -⟩
      · rw [List.append_nil]
        refine ⟨_, _, [], rfl, fun hnew hlive => ?_⟩
        rw [Clients.mem_addresses_touch hnew]
        exact hsound.room_iff hlive
      · trivial
  | registered h =>
      obtain ⟨rfl, rfl, -⟩ := split_singleton hadded
      rw [List.append_nil]
      intro hnew hlive
      refine iff_of_true rfl ((hsound.room_iff hlive).mp ?_)
      exact (Clients.register_isOk hnew).mp ⟨_, h⟩
  | refused h =>
      obtain ⟨rfl, rfl, -⟩ := split_singleton hadded
      rw [List.append_nil]
      intro hnew hlive
      refine iff_of_false nofun fun hfree => ?_
      obtain ⟨t', h'⟩ := (Clients.register_isOk hnew).mpr ((hsound.room_iff hlive).mpr hfree)
      rw [h'] at h
      cases h

theorem admits_step (h : Lawful (AdmitsUnlessClogged config) l.past) (hsound : l.Sound config)
    (hstep : l.Step config l') : Lawful (AdmitsUnlessClogged config) l'.past := by
  cases hstep with
  | wait ms => exact h
  | move hmove =>
      refine h.append ?_ fun earlier entry later => admits_move hsound hmove
      rintro earlier ⟨now, event⟩ later hlaw
      cases event with
      | heard =>
          obtain ⟨before, after, rest, rfl, hadmit⟩ := hlaw
          exact ⟨before, after, rest ++ _, rfl, hadmit⟩
      | registered => exact hlaw
      | changed | polled | counted | writes => trivial

/-- In every run, as long as fewer clients than the limit are live, who is new is admitted exactly
if the table is not clogged. -/
theorem admits_unless_clogged_run {u : Udp Neighbour} (hnew : Udp.new config = .ok u)
    (alive : Neighbour → E → Bool) (limit : Nat) (p : Program E α) (around : E) (time : Nat) :
    Lawful (AdmitsUnlessClogged config)
      (p.run alive limit { channel := u, around, time }).2.log.past := by
  refine holds_run (P := fun l => Lawful (AdmitsUnlessClogged config) l.past) hnew ?_
    (fun hsound hstep h => admits_step h hsound hstep) alive limit p around
  intro earlier entry later h
  simp at h

/-- A client has just fallen silent when a datagram of another one comes. It is not admitted, but
when the silent client has been forgotten the next datagram is heard. -/
theorem admits_mail :
    let config : UdpConfig := { maxClients := 1 }
    let l := Mail.log config [some (Mail.peer 9, [1]), none, some (Mail.peer 7, [2]), none,
        some (Mail.peer 7, [3])] [.init none, .poll, .wait 5000, .poll, .poll]
    Udp.new config = .ok (Mail.channel config) ∧ Lawful (AdmitsUnlessClogged config) l.past ∧
      (l.tables.map (·.addresses)).eraseReps = [[], [Mail.peer 9], [], [Mail.peer 7]] := by
  refine ⟨rfl, admits_unless_clogged_run rfl _ _ _ _ _, ?_⟩
  decide +kernel

/-- A client that has fallen silent keeps an address from being registered. -/
theorem not_forall_admits :
    ¬ ∀ (E α : Type) (config : UdpConfig) (u : Udp Neighbour), Udp.new config = .ok u →
      ∀ (alive : Neighbour → E → Bool) (limit : Nat) (p : Program E α) (around : E) (time : Nat),
        Lawful (Admits (fun _ _ => True) config)
          (p.run alive limit { channel := u, around, time }).2.log.past := by
  intro h
  let config : UdpConfig := { maxClients := 1 }
  let l := Mail.log config [some (Mail.peer 9, [1])]
    [.init none, .poll, .wait 5000, .addClient (Mail.peer 7)]
  let t : Clients SocketAddress :=
    { list := [{ address := Mail.peer 9, lastSeen := 0, pinned := false }],
      maxClients := 1, timeout := 5000 }
  have hpast : l.past = l.past.dropLast ++
      [(5000, .registered (Mail.peer 7) (.error (.tooManyClients 1)) t t)] := rfl
  have hlaw := h _ _ config _ rfl _ _ _ _ _ _ _ _ hpast
  have hlive : config.live l.past.dropLast 5000 t < config.maxClients := by decide +kernel
  exact nomatch (hlaw (by decide) hlive).mpr trivial

end LinkStack.Channel
