import Mathlib.Algebra.GroupWithZero.Nat
import LinkStack.Proofs.Frame.Programs
import LinkStack.Proofs.Frame.Schedule

/-!
What becomes of a part of a frame that waits.

A framing layer looks at a part of a frame when the clock has been moved, and before it
takes in more bytes. So as soon as more ticks have passed than it may wait, it is gone and
counted once, in whatever steps the clock went there, and what is read later is what a
layer reads that never had it (`Twin`). Until then it stays as it is, and more bytes are
read as if all of them had come together (`partial_frame`).

The programs around the layer may do anything in the meantime but give it bytes. Two runs
can only be compared if they do not look at the part that waits or at the count of what
was dropped, because these are different.
-/

namespace LinkStack.Frame

variable {E α β γ : Type}

/-! ### Relations between runs -/

namespace Framer

variable {ρ : Type}

theorem expirePartial_veil (f : Framer ρ) (now : Tick) : (f.expirePartial now).veil = f.veil := by
  rw [expirePartial]
  split <;> rfl

/-- What is known of the part that waits decides whether it is discarded. -/
theorem expirePartial_agree {f f' : Framer ρ} (hveil : f.veil = f'.veil)
    (hbuffer : f.buffer = f'.buffer) (now : Tick) :
    (f.expirePartial now).buffer = (f'.expirePartial now).buffer ∧
      (f.stats.rxDropped = f'.stats.rxDropped →
        (f.expirePartial now).stats.rxDropped = (f'.expirePartial now).stats.rxDropped) := by
  rw [expirePartial, expirePartial, hbuffer, eq_of_veil hveil (·.config.rxTimeout) fun _ => rfl,
    eq_of_veil hveil (·.lastRx) fun _ => rfl]
  split
  · exact ⟨rfl, fun hdropped => congrArg (Stats.bump · 1) hdropped⟩
  · exact ⟨hbuffer, id⟩

/-- The layer whose veiled parts are given. -/
def unveil (f : Framer ρ) (buffer : Bytes) (rxDropped : UInt32) : Framer ρ :=
  { f with buffer, stats := { f.stats with rxDropped } }

theorem ext_of_veil {f f' : Framer ρ} (hveil : f.veil = f'.veil) (hbuffer : f.buffer = f'.buffer)
    (hdropped : f.stats.rxDropped = f'.stats.rxDropped) : f = f' :=
  calc f = f.veil.unveil f.buffer f.stats.rxDropped := rfl
    _ = f'.veil.unveil f'.buffer f'.stats.rxDropped := by rw [hveil, hbuffer, hdropped]
    _ = f' := rfl

theorem Tame.ext {f g g' : Framer ρ} (h : f.Tame g) (h' : f.Tame g') (hveil : g.veil = g'.veil) :
    g = g' :=
  ext_of_veil hveil (h.buffer.trans h'.buffer.symm) (h.rxDropped.trans h'.rxDropped.symm)

end Framer

/-- A property of scenes that what a framing layer does without being given bytes preserves. It may
say more once the timer has looked at the clock. -/
structure Steady (P : Bool → Space E → Prop) : Prop where
  forget : ∀ {looked s}, P true s → P looked s
  tame : ∀ {looked s f}, P looked s → s.layer.Tame f → P looked (s.change fun _ => f)
  asked : ∀ {looked s}, P looked s → ∀ demand, P looked (s.meet s.around (.asked demand))
  outside : ∀ {looked s}, P looked s → ∀ around, P looked { s with around }
  moved : ∀ {looked s}, P looked s → ∀ ticks, P false (s.move ticks)
  expired : ∀ {looked s}, P looked s → P true (s.change (·.expirePartial s.now))

/-- A run beside itself. -/
def Diagonal (P : Bool → Space E → Prop) (looked : Bool) (s s' : Space E) : Prop :=
  s = s' ∧ P looked s

theorem Steady.diagonal {P : Bool → Space E → Prop} (h : Steady P) : Coupling (Diagonal P) where
  veil hs := by rw [hs.1]
  around hs := by rw [hs.1]
  now hs := by rw [hs.1]
  forget hs := ⟨hs.1, h.forget hs.2⟩
  tame := by
    rintro looked s s' f f' ⟨rfl, hs⟩ htame htame' hveil
    obtain rfl := htame.ext htame' hveil
    exact ⟨rfl, h.tame hs htame⟩
  asked := by
    rintro looked s s' ⟨rfl, hs⟩ demand
    exact ⟨rfl, h.asked hs demand⟩
  outside := by
    rintro looked s s' ⟨rfl, hs⟩ around
    exact ⟨rfl, h.outside hs around⟩
  moved := by
    rintro looked s s' ⟨rfl, hs⟩ ticks
    exact ⟨rfl, h.moved hs ticks⟩
  expired := by
    rintro looked s s' ⟨rfl, hs⟩
    exact ⟨rfl, h.expired hs⟩

/-- What is preserved when bytes come in as well, all programs preserve. -/
theorem alike_diagonal {P : Bool → Space E → Prop} (hR : Reading (Diagonal P))
    (alive : Neighbour → E → Bool) (limit : Nat) (p : Program E α) (looked : Bool) :
    Alike (Diagonal P looked) (p.run alive limit) (p.run alive limit) :=
  p.within_eq.alike_of_reading alive limit hR (fun _ _ _ h => congrArg Scene.layer h.1) looked

/-- Scenes that are the same but for what is veiled. -/
structure Veiled (s s' : Space E) : Prop where
  veil : s.layer.veil = s'.layer.veil
  around : s.around = s'.around
  now : s.now = s'.now
  trace : s.trace = s'.trace

namespace Veiled

variable {s s' : Space E}

theorem change (h : Veiled s s') {g g' : Framer Neighbour → Framer Neighbour}
    (hveil : (g s.layer).veil = (g' s'.layer).veil) : Veiled (s.change g) (s'.change g') :=
  ⟨hveil, h.around, h.now, by rw [Scene.trace_change, Scene.trace_change, h.trace]⟩

theorem asked (h : Veiled s s') (demand : Demand) :
    Veiled (s.meet s.around (.asked demand)) (s'.meet s'.around (.asked demand)) :=
  ⟨h.veil, h.around, h.now, by rw [Scene.trace_meet, Scene.trace_meet, h.trace]⟩

theorem outside (h : Veiled s s') (around : E) : Veiled { s with around } { s' with around } :=
  ⟨h.veil, rfl, h.now, h.trace⟩

theorem moved (h : Veiled s s') (ticks : Tick) : Veiled (s.move ticks) (s'.move ticks) :=
  ⟨h.veil, h.around, congrArg (· + ticks) h.now,
    by rw [Space.trace_move, Space.trace_move, h.trace]⟩

theorem expired (h : Veiled s s') :
    Veiled (s.change (·.expirePartial s.now)) (s'.change (·.expirePartial s'.now)) :=
  h.change (by rw [Framer.expirePartial_veil, Framer.expirePartial_veil, h.veil])

end Veiled

/-- A run beside one in which no part of a frame waits. -/
structure Twin (P : Bool → Space E → Prop) (looked : Bool) (s s' : Space E) : Prop
    extends Veiled s s' where
  holds : P looked s
  empty : s'.layer.buffer = []

theorem Steady.twin {P : Bool → Space E → Prop} (h : Steady P) : Coupling (Twin P) where
  veil hs := hs.veil
  around hs := hs.around
  now hs := hs.now
  forget hs := ⟨hs.toVeiled, h.forget hs.holds, hs.empty⟩
  tame hs htame htame' hveil :=
    ⟨hs.toVeiled.change hveil, h.tame hs.holds htame, htame'.buffer.trans hs.empty⟩
  asked hs demand := ⟨hs.toVeiled.asked demand, h.asked hs.holds demand, hs.empty⟩
  outside hs around := ⟨hs.toVeiled.outside around, h.outside hs.holds around, hs.empty⟩
  moved hs ticks := ⟨hs.toVeiled.moved ticks, h.moved hs.holds ticks, hs.empty⟩
  expired hs := by
    refine ⟨hs.toVeiled.expired, h.expired hs.holds, ?_⟩
    rw [Scene.layer_change, Framer.expirePartial, if_neg fun hlate => hlate.1 hs.empty]
    exact hs.empty

/-- The same scenes, but perhaps for the count of what was dropped. -/
structure Same (counts : Prop) (s s' : Space E) : Prop extends Veiled s s' where
  buffer : s.layer.buffer = s'.layer.buffer
  dropped : counts → s.layer.stats.rxDropped = s'.layer.stats.rxDropped

theorem Same.reading (counts : Prop) : Reading fun _ : Bool => Same (E := E) counts where
  veil hs := hs.veil
  around hs := hs.around
  now hs := hs.now
  forget hs := hs
  tame hs htame htame' hveil := by
    refine ⟨hs.toVeiled.change hveil, ?_, fun h => ?_⟩
    · exact htame.buffer.trans (hs.buffer.trans htame'.buffer.symm)
    · exact htame.rxDropped.trans ((hs.dropped h).trans htame'.rxDropped.symm)
  asked hs demand := ⟨hs.toVeiled.asked demand, hs.buffer, hs.dropped⟩
  outside hs around := ⟨hs.toVeiled.outside around, hs.buffer, hs.dropped⟩
  moved hs ticks := ⟨hs.toVeiled.moved ticks, hs.buffer, hs.dropped⟩
  expired {_ s s'} hs := by
    obtain ⟨hbuffer, hdropped⟩ := Framer.expirePartial_agree hs.veil hs.buffer s.now
    have hexpired := hs.toVeiled.expired
    rw [← hs.now] at hexpired ⊢
    exact ⟨hexpired, hbuffer, fun h => hdropped (hs.dropped h)⟩
  buffer hs := hs.buffer
  dropped hs := by
    refine ⟨hs.toVeiled.change hs.veil, hs.buffer, fun h => ?_⟩
    exact congrArg (Stats.bump · 1) (hs.dropped h)
  received {_ s s'} hs bytes := by
    obtain ⟨hbuffer, hdropped⟩ := Framer.expirePartial_agree hs.veil hs.buffer s.now
    rw [← hs.now]
    refine ⟨hs.toVeiled.change ?_, congrArg (· ++ bytes) hbuffer, fun h => hdropped (hs.dropped h)⟩
    have hveil : ∀ f : Framer Neighbour, ((f.expirePartial s.now).receive s.now bytes).veil =
        { (f.expirePartial s.now).veil with lastRx := s.now } := fun _ => rfl
    rw [hveil, hveil, Framer.expirePartial_veil, Framer.expirePartial_veil, hs.veil]
  taken hs hne htame htame' hveil rest := by
    refine ⟨hs.toVeiled.change hveil, rfl, fun h => ?_⟩
    exact htame.rxDropped.trans ((hs.dropped h).trans htame'.rxDropped.symm)

/-! ### Looking at the clock in time -/

namespace Framer

variable {ρ : Type}

/-- A part of a frame that has waited too long. -/
def Overdue (f : Framer ρ) (now : Tick) : Prop :=
  f.buffer ≠ [] ∧ f.config.rxTimeout < now.since f.lastRx

theorem expirePartial_cases (f : Framer ρ) (now : Tick) :
    (f.Overdue now ∧ f.expirePartial now = ({ f with buffer := [] } : Framer ρ).count .rxDropped) ∨
      (¬ f.Overdue now ∧ f.expirePartial now = f) := by
  by_cases hlate : f.Overdue now
  · exact .inl ⟨hlate, if_pos hlate⟩
  · exact .inr ⟨hlate, if_neg hlate⟩

theorem not_overdue_receive (f : Framer ρ) (now : Tick) (bytes : Bytes) :
    ¬ (f.receive now bytes).Overdue now := by
  rintro ⟨-, hlate⟩
  have hzero : now.since now = 0 := UInt32.sub_self now
  change f.config.rxTimeout < now.since now at hlate
  rw [hzero] at hlate
  exact UInt32.not_lt_zero hlate

end Framer

/-- Nothing is forgotten and the links stay, and once the timer has looked, no part of a frame has
waited too long. -/
structure Orderly (start : Space E) (looked : Bool) (s : Space E) : Prop where
  node : s.layer.node = start.layer.node
  trace : start.trace <+: s.trace
  prompt : looked = true → ¬ s.layer.Overdue s.now

namespace Orderly

variable (start : Space E)

theorem steady : Steady (Orderly start) where
  forget h := ⟨h.node, h.trace, fun _ => h.prompt rfl⟩
  tame {_ s f} h htame := by
    refine ⟨htame.node.trans h.node, by rw [Scene.trace_change]; exact h.trace, fun hlooked => ?_⟩
    rintro ⟨hne, hlate⟩
    refine h.prompt hlooked ⟨htame.buffer ▸ hne, ?_⟩
    rw [← htame.config, ← htame.lastRx]
    exact hlate
  asked h demand := by
    refine ⟨h.node, ?_, h.prompt⟩
    rw [Scene.trace_meet]
    exact h.trace.trans (List.prefix_append _ _)
  outside h around := ⟨h.node, h.trace, h.prompt⟩
  moved h ticks := by
    refine ⟨h.node, ?_, nofun⟩
    rw [Space.trace_move]
    exact h.trace.trans (List.prefix_append _ _)
  expired {_ s} h := by
    refine ⟨?_, by rw [Scene.trace_change]; exact h.trace, fun _ => ?_⟩
    · exact (congrArg Framer.node (s.layer.expirePartial_veil s.now)).trans h.node
    · show ¬ (s.layer.expirePartial s.now).Overdue s.now
      rcases s.layer.expirePartial_cases s.now with ⟨-, hgone⟩ | ⟨hearly, hkept⟩
      · rw [hgone]
        exact fun hlate => hlate.1 rfl
      · rwa [hkept]

theorem reading : Reading (Diagonal (Orderly start)) where
  toCoupling := (steady start).diagonal
  buffer hs := by rw [hs.1]
  dropped := by
    rintro looked s s' ⟨rfl, h⟩
    exact ⟨rfl, h.node, by rw [Scene.trace_change]; exact h.trace, h.prompt⟩
  received := by
    rintro looked s s' ⟨rfl, h⟩ bytes
    refine ⟨rfl, ?_, by rw [Scene.trace_change]; exact h.trace, fun _ => ?_⟩
    · exact (congrArg Framer.node (s.layer.expirePartial_veil s.now)).trans h.node
    · exact Framer.not_overdue_receive _ s.now bytes
  taken := by
    rintro looked s s' f f' ⟨rfl, h⟩ hne htame htame' hveil rest
    obtain rfl := htame.ext htame' hveil
    refine ⟨rfl, htame.node.trans h.node, by rw [Scene.trace_change]; exact h.trace,
      fun hlooked => ?_⟩
    rintro ⟨-, hlate⟩
    refine h.prompt hlooked ⟨hne, ?_⟩
    rw [← htame.config, ← htame.lastRx]
    exact hlate

/-- Whatever runs, the layer keeps order. -/
theorem of_alike {start : Space E} {act : StateM (Space E) α} {looked : Bool}
    (h : Alike (Diagonal (Orderly start) looked) act act) {s : Space E}
    (hs : Orderly start looked s) : Orderly start looked (act s).2 :=
  (h s s ⟨rfl, hs⟩).2.2

theorem run {start : Space E} (alive : Neighbour → E → Bool) (limit : Nat) (p : Program E α)
    {s : Space E} (hs : Orderly start true s) : Orderly start true (p.run alive limit s).2 :=
  of_alike (alike_diagonal (reading start) alive limit p true) hs

end Orderly

/-! ### Waiting -/

/-- The ticks that have passed. -/
def time (s : Space E) : Nat := (s.trace.map Note.ticks).sum

theorem time_change (s : Space E) (g : Framer Neighbour → Framer Neighbour) :
    time (s.change g) = time s := by
  rw [time, Scene.trace_change]
  rfl

theorem time_asked (s : Space E) (demand : Demand) :
    time (s.meet s.around (.asked demand)) = time s := by
  simp [time, Note.ticks]

theorem time_move (s : Space E) (ticks : Tick) : time (s.move ticks) = time s + ticks.toNat := by
  simp [time, Note.ticks]

theorem time_le {s t : Space E} (h : s.trace <+: t.trace) : time s ≤ time t := by
  obtain ⟨later, hlater⟩ := h
  rw [time, time, ← hlater, List.map_append, List.sum_append]
  exact Nat.le_add_right _ _

/-- The ticks for which the part of a frame that is there at one moment has waited at another. -/
def waited (s t : Space E) : Nat := (s.now.since s.layer.lastRx).toNat + (time t - time s)

/-- The part of a frame that was there in the beginning is there still, or has been discarded, and
counted, after it had waited too long. -/
structure Awaits (s : Space E) (looked : Bool) (t : Space E) : Prop extends Orderly s looked t where
  config : t.layer.config = s.layer.config
  lastRx : t.layer.lastRx = s.layer.lastRx
  now : t.now = s.layer.lastRx + UInt32.ofNat (waited s t)
  fate : (t.layer.buffer = s.layer.buffer ∧ t.layer.stats.rxDropped = s.layer.stats.rxDropped) ∨
    (t.layer.buffer = [] ∧ t.layer.stats.rxDropped = Stats.bump s.layer.stats.rxDropped 1 ∧
      s.layer.config.rxTimeout.toNat < waited s t)

namespace Awaits

variable {s t : Space E} {looked : Bool}

theorem start (h : Orderly s looked s) : Awaits s looked s where
  toOrderly := h
  config := rfl
  lastRx := rfl
  now := by
    rw [waited, Nat.sub_self, Nat.add_zero, UInt32.ofNat_toNat, Tick.since, UInt32.add_comm,
      UInt32.sub_add_cancel]
  fate := .inl ⟨rfl, rfl⟩

theorem since_eq (h : Awaits s looked t) :
    t.now.since t.layer.lastRx = UInt32.ofNat (waited s t) := by
  rw [h.now, h.lastRx, since_add]

theorem steady (s : Space E) : Steady (Awaits s) where
  forget h := ⟨(Orderly.steady s).forget h.toOrderly, h.config, h.lastRx, h.now, h.fate⟩
  tame {_ t f} h htame := by
    refine ⟨(Orderly.steady s).tame h.toOrderly htame, htame.config.trans h.config,
      htame.lastRx.trans h.lastRx, ?_, ?_⟩
    · rw [waited, time_change]
      exact h.now
    · rw [waited, time_change, Scene.layer_change, htame.buffer, htame.rxDropped]
      exact h.fate
  asked {_ t} h demand := by
    refine ⟨(Orderly.steady s).asked h.toOrderly demand, h.config, h.lastRx, ?_, ?_⟩
    · rw [waited, time_asked]
      exact h.now
    · rw [waited, time_asked]
      exact h.fate
  outside h around :=
    ⟨(Orderly.steady s).outside h.toOrderly around, h.config, h.lastRx, h.now, h.fate⟩
  moved {_ t} h ticks := by
    have hwaited : waited s (t.move ticks) = waited s t + ticks.toNat := by
      have := time_le h.trace
      rw [waited, waited, time_move]
      omega
    refine ⟨(Orderly.steady s).moved h.toOrderly ticks, h.config, h.lastRx, ?_, ?_⟩
    · show t.now + ticks = _
      rw [hwaited, ofNat_add_ticks, h.now, UInt32.add_assoc]
    · rcases h.fate with hkept | ⟨hgone, hdropped, hlate⟩
      · exact .inl hkept
      · exact .inr ⟨hgone, hdropped, by omega⟩
  expired {_ t} h := by
    have horderly := (Orderly.steady s).expired h.toOrderly
    have hwaited : waited s (t.change (·.expirePartial t.now)) = waited s t := by
      rw [waited, time_change]
      rfl
    rcases t.layer.expirePartial_cases t.now with ⟨⟨hne, hlate⟩, hgone⟩ | ⟨-, hkept⟩
    · refine ⟨horderly, ?_, ?_, ?_, .inr ?_⟩
      · rw [Scene.layer_change, hgone]
        exact h.config
      · rw [Scene.layer_change, hgone]
        exact h.lastRx
      · rw [hwaited]
        exact h.now
      · rcases h.fate with ⟨-, hdropped⟩ | ⟨hempty, -⟩
        · rw [Scene.layer_change, hgone, hwaited]
          refine ⟨rfl, congrArg (Stats.bump · 1) hdropped, ?_⟩
          have hticks := UInt32.lt_iff_toNat_lt.mp hlate
          rw [h.since_eq, UInt32.toNat_ofNat', h.config] at hticks
          exact Nat.lt_of_lt_of_le hticks (Nat.mod_le _ _)
        · exact absurd hempty hne
    · refine ⟨horderly, ?_, ?_, ?_, ?_⟩
      · rw [Scene.layer_change, hkept]
        exact h.config
      · rw [Scene.layer_change, hkept]
        exact h.lastRx
      · rw [hwaited]
        exact h.now
      · rw [Scene.layer_change, hkept, hwaited]
        exact h.fate

/-- Nothing is given to the layer while a program is quiet. -/
theorem run (alive : Neighbour → E → Bool) (limit : Nat) {p : Program E α} (hp : p.Quiet)
    (hs : Orderly s true s) : Awaits s true (p.run alive limit s).2 := by
  have hrun := hp.alike_of_quiet alive limit (steady s).diagonal
    (fun _ _ _ h => congrArg Scene.layer h.1) true
  exact (hrun s s ⟨rfl, start hs⟩).2.2

/-- Once the timer has looked, it depends on the ticks alone what has become of the part. -/
theorem decided (h : Awaits s true t) (hne : s.layer.buffer ≠ []) (hticks : waited s t < 2 ^ 32) :
    (s.layer.config.rxTimeout.toNat < waited s t → t.layer.buffer = [] ∧
      t.layer.stats.rxDropped = Stats.bump s.layer.stats.rxDropped 1) ∧
    (waited s t ≤ s.layer.config.rxTimeout.toNat → t.layer.buffer = s.layer.buffer ∧
      t.layer.stats.rxDropped = s.layer.stats.rxDropped) := by
  rcases h.fate with ⟨hkept, hdropped⟩ | ⟨hgone, hdropped, hlate⟩
  · refine ⟨fun hlate => absurd ?_ (h.prompt rfl), fun _ => ⟨hkept, hdropped⟩⟩
    refine ⟨hkept ▸ hne, UInt32.lt_iff_toNat_lt.mpr ?_⟩
    rwa [h.since_eq, UInt32.toNat_ofNat', Nat.mod_eq_of_lt hticks, h.config]
  · exact ⟨fun _ => ⟨hgone, hdropped⟩, fun hearly => absurd hearly (Nat.not_le.mpr hlate)⟩

end Awaits

/-- The same scene, with no part of a frame waiting. -/
def Space.emptied (s : Space E) : Space E := { s with layer := { s.layer with buffer := [] } }

/-- A run in which a part of a frame waits, and one in which none does. -/
theorem twin_run (alive : Neighbour → E → Bool) (limit : Nat) {s : Space E} {p : Program E α}
    (hquiet : p.Quiet) (hblind : p.Blind) (hs : Orderly s true s) :
    Twin (Awaits s) true (p.run alive limit s).2 (p.run alive limit s.emptied).2 := by
  have hrun := (hquiet.and hblind).alike_of_quiet alive limit
    (Awaits.steady s).twin (fun _ _ _ h => h.veil) true
  exact (hrun s s.emptied ⟨⟨rfl, rfl, rfl, rfl⟩, .start hs, rfl⟩).2

/-- Runs that do not see what was dropped. -/
theorem same_run (alive : Neighbour → E → Bool) (limit : Nat) {s s' : Space E} {p : Program E α}
    (hblind : p.Blind) (hs : Same False s s') :
    (p.run alive limit s).1 = (p.run alive limit s').1 ∧
      Same False (p.run alive limit s).2 (p.run alive limit s').2 :=
  hblind.alike_of_reading alive limit (Same.reading False) (fun _ _ _ h => h.veil) true s s' hs

/-! ### Completion -/

open Space

section Completion

variable {alive : Neighbour → E → Bool} {limit : Nat}
  {reply : (demand : Demand) → StateM (Space E) demand.Answer} {s t : Space E}

variable (alive limit reply) in
theorem recv_run (h : s.layer.node.isInitialized) (bytes : Bytes) :
    (Framer.recv (among alive limit reply) bytes).run s =
      (.ok bytes.length, (Framer.digest (among alive limit reply)
        (s.change fun f => (f.expirePartial s.now).receive s.now bytes)).2) := by
  rw [Framer.recv, bind_run_ok (Site.ensureInitialized_run_ok among_get_run h)]
  rfl

/-- A layer that has not waited too long takes in bytes as they are. -/
theorem receive_of_not_overdue {f : Framer Neighbour} {now : Tick} (h : ¬ f.Overdue now)
    (bytes : Bytes) : (f.expirePartial now).receive now bytes = f.receive now bytes := by
  have hkept : f.expirePartial now = f := if_neg h
  rw [hkept]

variable (alive limit) in
theorem recv_emptied (hnode : s.layer.node.isInitialized) (hearly : ¬ s.layer.Overdue s.now)
    (reply : (demand : Demand) → Program E demand.Answer) (bytes : Bytes) :
    let call bytes := Request.on alive limit (fun demand => (reply demand).run alive limit)
      (.recv bytes)
    Same True (call bytes s).2 (call (s.layer.buffer ++ bytes) s.emptied).2 := by
  have hreply : ∀ demand looked, Alike ((fun _ : Bool => Same (E := E) True) looked)
      ((reply demand).run alive limit) ((reply demand).run alive limit) := by
    intro demand looked
    exact (reply demand).within_eq.alike_of_reading alive limit (Same.reading True)
      (fun _ _ _ h => Framer.ext_of_veil h.veil h.buffer (h.dropped trivial)) looked
  intro call
  have hempty : ¬ s.emptied.layer.Overdue s.emptied.now := fun hlate => hlate.1 rfl
  have hsame : Same True (s.change fun f => (f.expirePartial s.now).receive s.now bytes)
      (s.emptied.change fun f => (f.expirePartial s.emptied.now).receive s.emptied.now
        (s.layer.buffer ++ bytes)) := by
    have hlayer : (s.layer.expirePartial s.now).receive s.now bytes =
        (s.emptied.layer.expirePartial s.emptied.now).receive s.emptied.now
          (s.layer.buffer ++ bytes) := by
      rw [receive_of_not_overdue hearly, receive_of_not_overdue hempty]
      rfl
    refine ⟨⟨congrArg Framer.veil hlayer, rfl, rfl, ?_⟩, congrArg Framer.buffer hlayer,
      fun _ => congrArg (·.stats.rxDropped) hlayer⟩
    rw [Scene.trace_change, Scene.trace_change]
    rfl
  let site := among alive limit fun demand => (reply demand).run alive limit
  have hdigest : Alike (Same True) (Framer.digest site) (Framer.digest site) :=
    Framer.alike_digest true (Same.reading True) hreply
  have hrun : call bytes s = _ := recv_run alive limit _ hnode bytes
  have hrun' : call (s.layer.buffer ++ bytes) s.emptied = _ :=
    recv_run alive limit _ (s := s.emptied) hnode (s.layer.buffer ++ bytes)
  rw [hrun, hrun']
  exact (hdigest _ _ hsame).2

theorem deliver_run {who : Neighbour} (h : parentOf alive s = .ok (some who)) (body : Bytes) :
    (Framer.deliver (among alive limit reply) body s).2 =
      (ask reply (.recv who body) (s.change (·.count (.rxPacket body.length)))).2 := by
  rw [Framer.deliver, bind_run_eq (parent?_run s), h]
  rfl

/-- A packet at the front of the buffer is the next thing that is asked for to be received. -/
theorem digest_delivers {packet : Packet} {more : Bytes}
    (hdecode : s.layer.codec.decode s.layer.buffer = .item (.packet packet) more)
    (htag : Tag.fold packet.tag ≠ Tag.frame) {who : Neighbour}
    (hparent : parentOf alive s = .ok (some who))
    (reply : (demand : Demand) → Program E demand.Answer) :
    s.trace ++ [.asked (.recv who packet.body)] <+: (Framer.digest
      (among alive limit fun demand => (reply demand).run alive limit) s).2.trace := by
  let site := among alive limit fun demand => (reply demand).run alive limit
  let taken : Space E := s.change fun f => { f with buffer := more }
  let counted : Space E := taken.change (·.count (.rxPacket packet.body.length))
  let asking : Space E := counted.meet counted.around (.asked (.recv who packet.body))
  have htrace : asking.trace = s.trace ++ [.asked (.recv who packet.body)] := by
    rw [Scene.trace_meet, Scene.trace_change, Scene.trace_change]
  have htake : (Framer.take site (.packet packet) taken).2 =
      ((reply (.recv who packet.body)).run alive limit asking).2 := by
    rw [Framer.take, if_neg htag]
    exact deliver_run (s := taken) hparent packet.body
  have hdigest : Framer.digest site s = Framer.retry site (Framer.drain site s.layer.buffer.length
      ((reply (.recv who packet.body)).run alive limit asking).2).2 := by
    rw [← htake, Framer.digest, bind_run_eq among_get_run, bind_run,
      Framer.drain_among_item hdecode]
  -- from the demand on nothing is forgotten
  have hR := Orderly.reading asking
  have hreply : ∀ demand looked, Alike (Diagonal (Orderly asking) looked)
      ((reply demand).run alive limit) ((reply demand).run alive limit) :=
    fun demand => alike_diagonal hR alive limit (reply demand)
  have hstart : Orderly asking false asking := ⟨rfl, List.prefix_refl _, by simp⟩
  have hreplied := Orderly.of_alike (hreply (.recv who packet.body) false) hstart
  have hdrain : Alike (Diagonal (Orderly asking) false) (Framer.drain site s.layer.buffer.length)
      (Framer.drain site s.layer.buffer.length) := Framer.alike_drain hR hreply _
  have hretry : Alike (Diagonal (Orderly asking) false) (Framer.retry site) (Framer.retry site) :=
    Framer.alike_retry hR.toCoupling hreply
  have hretried := Orderly.of_alike hretry (Orderly.of_alike hdrain hreplied)
  rw [← htrace, hdigest]
  exact hretried.trace

/-- When the rest of a frame comes in, its packet is given to the parent before anything else
happens. -/
theorem recv_completes (hnode : s.layer.node.isInitialized) (hearly : ¬ s.layer.Overdue s.now)
    {packet : Packet} {rest more : Bytes}
    (hframe : s.layer.buffer ++ rest = s.layer.codec.frame packet.body ++ more)
    (hsize : packet.body.length ≤ s.layer.bodyLimit) (htag : Tag.fold packet.tag ≠ Tag.frame)
    {who : Neighbour} (hparent : parentOf alive s = .ok (some who))
    (reply : (demand : Demand) → Program E demand.Answer) :
    s.trace ++ [.asked (.recv who packet.body)] <+: (Request.on alive limit
      (fun demand => (reply demand).run alive limit) (.recv rest) s).2.trace := by
  let received : Space E := s.change fun f => (f.expirePartial s.now).receive s.now rest
  have hlayer : received.layer = s.layer.receive s.now rest := receive_of_not_overdue hearly rest
  have hdecode : received.layer.codec.decode received.layer.buffer =
      .item (.packet packet) more := by
    rw [hlayer]
    show s.layer.codec.decode (s.layer.buffer ++ rest) = _
    rw [hframe]
    exact Codec.decode_frame_append (Codec.new_maxSize_le _ _ _) hsize more
  have hreceiver : parentOf alive received = .ok (some who) := by
    rw [parentOf, hlayer]
    exact hparent
  have htrace : received.trace = s.trace := Scene.trace_change s _
  have hrun := recv_run alive limit (fun demand => (reply demand).run alive limit) hnode rest
  rw [Request.on, hrun, ← htrace]
  exact digest_delivers hdecode htag hreceiver reply

end Completion

/-! ### Partial frames -/

/-- A layer has run with any programs around it, and holds a part of a frame. Then a program runs
that does not give it bytes, until fewer than `2 ^ 32` ticks have passed since the part came. If
these are more than the part may wait, it has been discarded and counted once, and whatever
programs run later find the layer as if it had held nothing: the same packets and stray bytes go to
the same neighbours, and the same errors are counted. If they are not, the part is still there, and
bytes that come in now are read as if the whole had come at once; if they complete a frame, its
packet goes to the parent. -/
theorem partial_frame (alive : Neighbour → E → Bool) (limit : Nat) {f : Framer Neighbour}
    (hnode : f.node.isInitialized) (hempty : f.buffer = []) (around : E) (made : Tick)
    (before : Program E α) (wait : Program E β) :
    let s := (before.run alive limit ⟨f, around, made, []⟩).2
    let t := (wait.run alive limit s).2
    s.layer.buffer ≠ [] → wait.Quiet → waited s t < 2 ^ 32 →
    (s.layer.config.rxTimeout.toNat < waited s t →
      t.layer.buffer = [] ∧
      t.layer.stats.rxDropped.toNat = min Stats.ceiling (s.layer.stats.rxDropped.toNat + 1) ∧
      (wait.Blind → ∀ (γ : Type) (later : Program E γ), later.Blind →
        let r := later.run alive limit t
        let r' := later.run alive limit (wait.run alive limit s.emptied).2
        r.1 = r'.1 ∧ r.2.trace = r'.2.trace ∧
          r.2.layer.stats.rxErrors = r'.2.layer.stats.rxErrors ∧
          r.2.layer.buffer = r'.2.layer.buffer ∧ r.2.layer.veil = r'.2.layer.veil)) ∧
    (waited s t ≤ s.layer.config.rxTimeout.toNat →
      t.layer.buffer = s.layer.buffer ∧ t.layer.stats.rxDropped = s.layer.stats.rxDropped ∧
      ∀ (rest : Bytes) (reply : (demand : Demand) → Program E demand.Answer),
        let call bytes := Request.on alive limit (fun demand => (reply demand).run alive limit)
          (.recv bytes)
        let r := (call rest t).2
        let r' := (call (s.layer.buffer ++ rest) t.emptied).2
        (r.layer = r'.layer ∧ r.around = r'.around ∧ r.trace = r'.trace) ∧
        ∀ (packet : Packet) (more : Bytes) (who : Neighbour),
          s.layer.buffer ++ rest = t.layer.codec.frame packet.body ++ more →
          packet.body.length ≤ t.layer.bodyLimit → Tag.fold packet.tag ≠ Tag.frame →
          parentOf alive t = .ok (some who) →
          t.trace ++ [.asked (.recv who packet.body)] <+: r.trace) := by
  intro s t hpartial hquiet hticks
  have hs : Orderly (⟨f, around, made, []⟩ : Space E) true s :=
    Orderly.run alive limit before ⟨rfl, List.prefix_refl _, fun _ hlate => hlate.1 hempty⟩
  have horderly : Orderly s true s := ⟨rfl, List.prefix_refl _, hs.prompt⟩
  have ht : Awaits s true t := Awaits.run alive limit hquiet horderly
  obtain ⟨hlate, hearly⟩ := ht.decided hpartial hticks
  refine ⟨fun hmore => ?_, fun hfew => ?_⟩
  · obtain ⟨hgone, hdropped⟩ := hlate hmore
    refine ⟨hgone, by rw [hdropped, Stats.toNat_bump], fun hblind γ later hlater => ?_⟩
    have htwin := twin_run alive limit hquiet hblind horderly
    obtain ⟨hanswer, hsame⟩ := same_run alive limit hlater
      (⟨htwin.toVeiled, hgone.trans htwin.empty.symm, False.elim⟩ : Same False t _)
    exact ⟨hanswer, hsame.trace, congrArg (·.stats.rxErrors) hsame.veil, hsame.buffer, hsame.veil⟩
  · obtain ⟨hkept, hdropped⟩ := hearly hfew
    have hlinked : t.layer.node.isInitialized := by
      rw [ht.node, hs.node]
      exact hnode
    refine ⟨hkept, hdropped, fun rest reply => ⟨?_, ?_⟩⟩
    · have hsame := recv_emptied alive limit hlinked (ht.prompt rfl) reply rest
      rw [hkept] at hsame
      exact ⟨Framer.ext_of_veil hsame.veil hsame.buffer (hsame.dropped trivial), hsame.around,
        hsame.trace⟩
    · intro packet more who hframe hsize htag hparent
      rw [← hkept] at hframe
      exact recv_completes hlinked (ht.prompt rfl) hframe hsize htag hparent reply

/-! ### A frame in two parts -/

namespace Halves

def config : Config := { Config.short with rxTimeout := 4 }

def packet : Packet := { tag := 0x41, payload := [1, 2] }

def wire : Bytes := (Codec.ofConfig config).frame packet.body

/-- Neighbours that have room and take everything. -/
def grant : (demand : Demand) → Program Unit demand.Answer
  | .recv _ bytes | .send _ bytes => .done (.ok bytes.length)
  | .capacity _ => .done 256
  | .delivered .. | .timers => .done ()
  | .name _ => .done "neighbour"

def bring (bytes : Bytes) : Program Unit (Except LayerError Nat) := .call (.recv bytes) grant .done

def pass (ticks : Tick) : Program Unit Unit := .call (.advance ticks) grant .done

/-- The clock stands just before its end. -/
def start : Space Unit where
  layer := { node := { name := "frame", links := some ⟨some .child, some .parent⟩ }
             config, lastRx := 0xFFFFFFFE }
  around := ()
  now := 0xFFFFFFFE
  history := []

theorem within_grant (demand : Demand) (legal : Request → Prop)
    (same : Framer Neighbour → Framer Neighbour → Prop) : (grant demand).Within legal same := by
  cases demand <;> trivial

theorem quiet_pass (ticks : Tick) : (pass ticks).Quiet :=
  ⟨rfl, fun demand => within_grant demand _ _, fun _ => trivial⟩

theorem blind_pass (ticks : Tick) : (pass ticks).Blind :=
  ⟨trivial, fun demand => within_grant demand _ _, fun _ => trivial⟩

theorem blind_bring (bytes : Bytes) : (bring bytes).Blind :=
  ⟨trivial, fun demand => within_grant demand _ _, fun _ => trivial⟩

/-- The rest of the frame comes too late after five ticks, and in time after four. -/
theorem partial_frame_halves :
    let alive : Neighbour → Unit → Bool := fun _ _ => true
    let s := ((bring (wire.take 3)).run alive 0 start).2
    let late := ((pass 5).run alive 0 s).2
    let early := ((pass 4).run alive 0 s).2
    (late.layer.buffer = [] ∧ late.layer.stats.rxDropped.toNat = 1 ∧
      ((bring (wire.drop 3)).run alive 0 late).2.trace =
        ((bring (wire.drop 3)).run alive 0 ((pass 5).run alive 0 s.emptied).2).2.trace) ∧
    early.trace ++ [.asked (.recv .parent packet.body)] <+:
      ((Request.recv (wire.drop 3)).on alive 0 (fun demand => (grant demand).run alive 0)
        early).2.trace := by
  intro alive s late early
  have hpartial : s.layer.buffer ≠ [] := by decide +kernel
  have hlate := partial_frame alive 0 (f := start.layer) rfl rfl () 0xFFFFFFFE
    (bring (wire.take 3)) (pass 5) hpartial (quiet_pass 5) (by decide +kernel)
  have hearly := partial_frame alive 0 (f := start.layer) rfl rfl () 0xFFFFFFFE
    (bring (wire.take 3)) (pass 4) hpartial (quiet_pass 4) (by decide +kernel)
  constructor
  · obtain ⟨hgone, hdropped, hsame⟩ := hlate.1 (by decide +kernel)
    refine ⟨hgone, hdropped.trans (by decide +kernel), ?_⟩
    exact (hsame (blind_pass 5) _ (bring (wire.drop 3)) (blind_bring _)).2.1
  · obtain ⟨-, -, hcall⟩ := hearly.2 (by decide +kernel)
    have hnode : early.layer.node = start.layer.node := by decide +kernel
    have hparent : parentOf alive early = .ok (some .parent) := by
      rw [parentOf, hnode]
      rfl
    exact (hcall (wire.drop 3) grant).2 packet [] .parent (by decide +kernel) (by decide +kernel)
      (by decide) hparent

end Halves

end LinkStack.Frame
