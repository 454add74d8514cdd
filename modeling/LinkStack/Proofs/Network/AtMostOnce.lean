import LinkStack.Proofs.Network.Confirmed

/-!
When a confirmed packet is handed over twice.

The far end tells a copy from a new packet by its number, and only for as long
as it expects the sender to keep trying since it last took confirmed data. How
long the sender really tries depends on how the clock is moved, and a copy waits
in the inbox of the far end until that is polled. A packet is handed over twice
exactly if the far end is polled while the oldest write there is a `Late` copy.
Later writes of the same poll cannot be late, since the first one has just been
taken.
-/

namespace LinkStack

open LinkStack.Frame (Framer Packet Codec ackBody dataBody)

/-- The oldest write at the far end is a copy of a packet that was handed over
before, and the far end took confirmed data for the last time longer ago than it
expects a sender to keep trying. -/
def Late (n : Network (List Heard)) (packet : Bytes) : Prop :=
  ∃ f seq last took rest, n.read? .framer End.far.framer = some f ∧
    n.mailbox End.far.index = f.codec.frame (dataBody seq packet) :: rest ∧
    packet ∈ handed n.app ∧ f.lastSeq = some (last, took) ∧
    f.config.ackTimeout.toNat * (f.config.maxRetries.toNat + 1) < (n.clock.now.since took).toNat

/-- In a run, the far end is polled while a copy of a packet is late. -/
def PolledLate (levels : Nat) (steps : List Step) (n : Network (List Heard)) (packet : Bytes) :
    Prop :=
  ∃ before after m, steps = before ++ .poll .far :: after ∧
    run levels before n = some ((), m) ∧ Late m packet

theorem late_withHolders {n : Network (List Heard)} {holders : Ref → Nat} {packet : Bytes} :
    Late (n.withHolders holders) packet ↔ Late n packet := by
  simp only [Late, Network.read?_withHolders]
  rfl

theorem not_late_of_lastSeq {p : Pair} {seq : UInt8}
    (h : (p.framer .far).lastSeq = some (seq, p.now)) (packet : Bytes) :
    ¬ Late p.network packet := by
  rintro ⟨f, seq', last, took, rest, hread, -, -, hlastSeq, hlate⟩
  obtain rfl : p.framer .far = f := Option.some.inj ((p.read?_framer .far).symm.trans hread)
  obtain ⟨rfl, rfl⟩ : seq = last ∧ p.now = took := by simpa [h] using hlastSeq
  simp [Tick.since, Pair.network] at hlate

/-! ### Runs -/

theorem polledLate_nil {levels : Nat} {n : Network (List Heard)} {packet : Bytes} :
    ¬ PolledLate levels [] n packet :=
  not_polledWhile_nil

theorem polledLate_cons {levels : Nat} {step : Step} {n n' : Network (List Heard)}
    (h : step.act levels n = some ((), n')) (steps : List Step) (packet : Bytes) :
    PolledLate levels (step :: steps) n packet ↔
      (step = .poll .far ∧ Late n packet) ∨ PolledLate levels steps n' packet :=
  polledWhile_cons h steps

namespace Flow

variable {config : Frame.Config} {sent : List Bytes} {taken pending : List Copy}
  {acks : List UInt8} {p p' : Pair} {c : Copy}

/-! ### Late copies -/

/-- The far end remembers the number of a copy whose packet was handed over. -/
theorem lastSeq_of_handed (h : Flow config sent taken (c :: pending) acks p)
    (hhanded : c.2 ∈ handed p.heard) :
    ∃ took, (p.framer .far).lastSeq = some (c.1, took) := by
  -- such a copy stands right behind another one, which is the last one taken
  have hlast := h.last
  rw [h.contiguous taken c pending rfl (h.received c.2 hhanded), Option.map_some,
    Option.map_eq_some_iff] at hlast
  obtain ⟨⟨seq, took⟩, hlastSeq, rfl⟩ := hlast
  exact ⟨took, hlastSeq⟩

theorem dataWire_inj (h : Flow config sent taken (c :: pending) acks p) {seq : UInt8}
    {packet : Bytes} (hhanded : packet ∈ handed p.heard)
    (heq : dataWire config c = (Codec.ofConfig config).frame (dataBody seq packet)) :
    c = (seq, packet) := by
  obtain ⟨c', hmem, rfl⟩ := List.mem_map.mp (h.received packet hhanded)
  have hsize : (Pair.dataPacket c.1 c.2).body.length ≤ _ := h.fits c (by simp)
  -- the numbers take the same room
  have hsize' : (Pair.dataPacket seq c'.2).body.length ≤ _ :=
    h.fits c' (List.mem_append_left _ hmem)
  have hsame := Codec.frame_body_inj (Codec.new_maxSize_le _ _ _) hsize hsize' heq
  simp only [Pair.dataPacket, Packet.mk.injEq, List.cons.injEq, true_and] at hsame
  exact Prod.ext hsame.1 hsame.2

theorem late_iff (h : Flow config sent taken (c :: pending) acks p) (packet : Bytes) :
    Late p.network packet ↔
      c.2 = packet ∧ packet ∈ handed p.heard ∧ (p.framer .far).isRepeat p.now c.1 = false := by
  have hmailbox : p.network.mailbox End.far.index =
      dataWire config c :: pending.map (dataWire config) :=
    (p.mailbox_inbox .far).trans h.toFar
  constructor
  · rintro ⟨f, seq, last, took, rest, hread, hwrite, hhanded, hlastSeq, hlate⟩
    obtain rfl : p.framer .far = f := Option.some.inj ((p.read?_framer .far).symm.trans hread)
    rw [hmailbox, h.codec] at hwrite
    obtain rfl := h.dataWire_inj hhanded (List.cons.inj hwrite).1
    obtain ⟨took', hlastSeq'⟩ := h.lastSeq_of_handed hhanded
    obtain ⟨rfl, rfl⟩ : last = seq ∧ took = took' := by simpa [hlastSeq] using hlastSeq'
    refine ⟨rfl, hhanded, ?_⟩
    rw [Framer.isRepeat_of_lastSeq hlastSeq, decide_eq_false_iff_not, Nat.not_le]
    exact hlate
  · rintro ⟨rfl, hhanded, hnew⟩
    obtain ⟨took, hlastSeq⟩ := h.lastSeq_of_handed hhanded
    rw [Framer.isRepeat_of_lastSeq hlastSeq, decide_eq_false_iff_not, Nat.not_le] at hnew
    refine ⟨p.framer .far, c.1, c.1, took, pending.map (dataWire config), p.read?_framer .far, ?_,
      hhanded, hlastSeq, hnew⟩
    rw [hmailbox, h.codec]
    rfl

theorem not_late (h : Flow config sent taken [] acks p) (packet : Bytes) :
    ¬ Late p.network packet := by
  rintro ⟨f, seq, last, took, rest, -, hwrite, -⟩
  rw [show p.network.mailbox End.far.index = [] from (p.mailbox_inbox .far).trans h.toFar] at hwrite
  simp at hwrite

/-! ### Polls -/

theorem count_handed (h : Flow config sent taken (c :: pending) acks p)
    (hhanded : handed p'.heard =
      handed p.heard ++ if (p.framer .far).isRepeat p.now c.1 then [] else [c.2])
    (packet : Bytes) :
    1 < (handed p'.heard).count packet ↔
      1 < (handed p.heard).count packet ∨ Late p.network packet := by
  rw [h.late_iff, hhanded, List.count_append]
  cases hrepeat : (p.framer .far).isRepeat p.now c.1 with
  | true => simp
  | false =>
      by_cases hsame : c.2 = packet
      · subst hsame
        have hone : ([c.2] : List Bytes).count c.2 = 1 := List.count_singleton_self
        have hmem : c.2 ∈ handed p.heard ↔ 0 < (handed p.heard).count c.2 := List.count_pos_iff.symm
        simp only [Bool.false_eq_true, if_false, hone, true_and, and_true, hmem]
        omega
      · have hnone : ([c.2] : List Bytes).count packet = 0 :=
          List.count_eq_zero.mpr (by simpa using Ne.symm hsame)
        simp [hnone, hsame]

theorem poll_far (h : Flow config sent taken pending acks p) :
    ∃ more, Flow config sent (taken ++ pending) [] (acks ++ more)
        (p.arriveAll .far (pending.map fun c => Pair.dataPacket c.1 c.2)) ∧
      ∀ packet, 1 < (handed
          (p.arriveAll .far (pending.map fun c => Pair.dataPacket c.1 c.2)).heard).count packet ↔
        1 < (handed p.heard).count packet ∨ Late p.network packet := by
  induction pending generalizing taken acks p with
  | nil =>
      refine ⟨[], ?_, fun packet => (or_iff_left (h.not_late packet)).symm⟩
      rw [List.append_nil, List.append_nil]
      exact h
  | cons c pending ih =>
      have haccepts := Pair.accepts_arrive h.idle c.1 (h.nonempty c (by simp))
      obtain ⟨more, hflow, hhanded, -⟩ := h.accepts haccepts
      have hfresh : ((p.arrive .far (Pair.dataPacket c.1 c.2)).framer .far).lastSeq =
          some (c.1, (p.arrive .far (Pair.dataPacket c.1 c.2)).now) := by
        rw [haccepts.lastSeq, haccepts.keeps.now]
      obtain ⟨more', hflow', hcount⟩ := ih hflow
      refine ⟨more ++ more', ?_, fun packet => ?_⟩
      · rw [List.append_assoc, List.append_assoc] at hflow'
        exact hflow'
      · -- the copies behind the oldest one find that one just taken
        have hnot := not_late_of_lastSeq hfresh packet
        exact (hcount packet).trans ((or_iff_left hnot).trans (h.count_handed hhanded packet))

/-! ### Steps -/

theorem three_le_bodyLimit (h : Flow config sent taken pending acks p)
    (hconfig : config.validate = .ok ()) (e : End) : 3 ≤ (p.framer e).bodyLimit := by
  rw [Framer.bodyLimit, h.codec]
  exact Frame.Config.three_le_maxSize hconfig

theorem moves_poll_near (h : Flow config sent taken pending acks p)
    (hconfig : config.validate = .ok ()) :
    Moves (.poll .near) p (p.arriveAll .near (acks.map Pair.ackPacket)) := by
  refine .poll ?_ ?_
  · rw [h.toNear, h.codec, List.map_map]
    rfl
  · intro packet hmem
    obtain ⟨seq, -, rfl⟩ := List.mem_map.mp hmem
    exact h.three_le_bodyLimit hconfig .near

theorem moves_poll_far (h : Flow config sent taken pending acks p) :
    Moves (.poll .far) p (p.arriveAll .far (pending.map fun c => Pair.dataPacket c.1 c.2)) := by
  refine .poll ?_ ?_
  · rw [h.toFar, h.codec, List.map_map]
    rfl
  · intro packet hmem
    obtain ⟨c, hc, rfl⟩ := List.mem_map.mp hmem
    rw [Framer.bodyLimit, h.codec]
    exact h.fits c (List.mem_append_right _ hc)

theorem step (h : Flow config sent taken pending acks p) (hconfig : config.validate = .ok ())
    {step : Step} (hnew : ∀ packet, step.packet? = some packet → packet ∉ sent) :
    ∃ p' taken' pending' acks', Moves step p p' ∧
      Flow config (step.packet?.toList ++ sent) taken' pending' acks' p' ∧
      ∀ packet, 1 < (handed p'.heard).count packet ↔
        1 < (handed p.heard).count packet ∨ (step = .poll .far ∧ Late p.network packet) := by
  cases step with
  | send packet =>
      obtain ⟨more, hflow, hhanded⟩ := h.send (hnew packet rfl)
      refine ⟨_, _, _, _, .send, hflow, fun packet => ?_⟩
      rw [hhanded]
      simp
  | advance ticks =>
      obtain ⟨more, hflow, hhanded, -⟩ := h.advance ticks
      refine ⟨_, _, _, _, .advance, hflow, fun packet => ?_⟩
      rw [hhanded]
      simp
  | poll e =>
      cases e with
      | near =>
          obtain ⟨more, hflow, hhanded, -⟩ := h.poll_near
          refine ⟨_, _, _, _, h.moves_poll_near hconfig, hflow, fun packet => ?_⟩
          rw [hhanded]
          simp
      | far =>
          obtain ⟨more, hflow, hcount⟩ := h.poll_far
          exact ⟨_, _, _, _, h.moves_poll_far, hflow, fun packet => by simpa using hcount packet⟩

theorem run (h : Flow config sent taken pending acks p) (hconfig : config.validate = .ok ())
    {holders : Ref → Nat} (hholders : ∀ ref, 0 < holders ref) (levels : Nat) {steps : List Step}
    (hdistinct : (steps.filterMap Step.packet?).Nodup)
    (hnew : ∀ packet ∈ steps.filterMap Step.packet?, packet ∉ sent) :
    ∃ p' : Pair, LinkStack.run (levels + 2) steps (p.network.withHolders holders) =
        some ((), p'.network.withHolders holders) ∧
      ∀ packet, 1 < (handed p'.heard).count packet ↔ 1 < (handed p.heard).count packet ∨
        PolledLate (levels + 2) steps (p.network.withHolders holders) packet := by
  -- each step is shown on the pair and taken back to the network by `Moves.does`
  induction steps generalizing sent taken pending acks p with
  | nil => exact ⟨p, rfl, fun packet => (or_iff_left polledLate_nil).symm⟩
  | cons step steps ih =>
      rw [Step.filterMap_packet?_cons] at hdistinct hnew
      obtain ⟨-, hrest, hapart⟩ := List.nodup_append.mp hdistinct
      have hfirst (packet : Bytes) (hpacket : step.packet? = some packet) : packet ∉ sent :=
        hnew packet (List.mem_append_left _ (by simp [hpacket]))
      obtain ⟨p', taken', pending', acks', hmoves, hflow, hcount⟩ := h.step hconfig hfirst
      have hact : step.act (levels + 2) (p.network.withHolders holders) =
          some ((), p'.network.withHolders holders) :=
        hmoves.does h.wired (h.three_le_bodyLimit hconfig) holders hholders
      obtain ⟨p'', hrun, hcount'⟩ := ih hflow hrest fun packet hmem => by
        rw [List.mem_append, not_or]
        exact ⟨fun hsame => hapart packet hsame packet hmem rfl,
          hnew packet (List.mem_append_right _ hmem)⟩
      refine ⟨p'', (run_cons hact steps).trans hrun, fun packet => ?_⟩
      rw [hcount' packet, hcount packet, polledLate_cons hact, late_withHolders, or_assoc]

end Flow

/-! ### The pair that is built -/

theorem handed_start (config : Frame.Config) (maxPacket : Nat) (start : Tick) :
    handed (Pair.start config maxPacket start).heard = [] := rfl

theorem flow_start (config : Frame.Config) (maxPacket : Nat) (start : Tick) :
    Flow config [] [] [] [] (Pair.start config maxPacket start) where
  wired := ⟨by rintro (_ | _) <;> rfl, by rintro (_ | _) <;> rfl, by rintro (_ | _) <;> rfl⟩
  settings := by rintro (_ | _) <;> rfl
  idle := rfl
  toFar := rfl
  toNear := rfl
  nonempty := by simp
  fits := by simp
  contiguous := by simp [Contiguous]
  awaited := by
    intro o ho
    obtain ⟨⟩ : none = some o := ho
  last := rfl
  received := by simp [handed_start]
  known := by simp

/-- A confirmed packet is handed over twice exactly if the far end is polled
while a copy of it is late. -/
theorem handed_twice_iff {config : Frame.Config} (hconfig : config.validate = .ok ())
    (maxPacket : Nat) (start : Tick) (levels : Nat) {steps : List Step}
    (hdistinct : (steps.filterMap Step.packet?).Nodup) :
    ∃ n n', framedLink config maxPacket start = some n ∧
      run (levels + 2) steps n = some ((), n') ∧
      ∀ packet, 1 < (handed n'.app).count packet ↔ PolledLate (levels + 2) steps n packet := by
  obtain ⟨p', hrun, hcount⟩ :=
    (flow_start config maxPacket start).run hconfig Pair.holders_pos levels hdistinct (by simp)
  refine ⟨_, _, framedLink_eq hconfig maxPacket start, hrun, fun packet => ?_⟩
  exact (hcount packet).trans (or_iff_right (by simp [handed_start]))

/-- The sender sends a packet again while the far end would still know it, but the
far end is polled only later. -/
def lateSteps : List Step :=
  [.send [0x42, 1], .poll .far, .advance 60, .advance 60, .advance 60, .advance 21, .poll .far]

theorem handed_lateSteps : ((framedLink {} 64 0).bind (run 2 lateSteps)).map
    (fun answer => handed answer.2.app) = some [[0x42, 1], [0x42, 1]] := by
  decide +kernel

theorem exists_run_lateSteps : ∃ n n', framedLink {} 64 0 = some n ∧
    run 2 lateSteps n = some ((), n') ∧ handed n'.app = [[0x42, 1], [0x42, 1]] := by
  obtain ⟨⟨⟨⟩, n'⟩, hrun, hhanded⟩ := Option.map_eq_some_iff.mp handed_lateSteps
  obtain ⟨n, hlink, hrun⟩ := Option.bind_eq_some_iff.mp hrun
  exact ⟨n, n', hlink, hrun, hhanded⟩

theorem polledLate_lateSteps : ∃ n, framedLink {} 64 0 = some n ∧
    PolledLate 2 lateSteps n [0x42, 1] := by
  obtain ⟨n, n', hlink, hrun, hhanded⟩ := exists_run_lateSteps
  obtain ⟨m, m', hlink', hrun', htwice⟩ :=
    @handed_twice_iff {} rfl 64 0 0 lateSteps (by decide)
  obtain rfl : n = m := Option.some.inj (hlink.symm.trans hlink')
  obtain ⟨⟩ : some ((), n') = some ((), m') := hrun.symm.trans hrun'
  refine ⟨n, hlink, (htwice _).mp ?_⟩
  rw [hhanded]
  decide

theorem not_forall_handed_once : ¬ ∀ (config : Frame.Config) (maxPacket levels : Nat)
    (start : Tick) (steps : List Step) (n n' : Network (List Heard)),
    config.validate = .ok () → (steps.filterMap Step.packet?).Nodup →
    framedLink config maxPacket start = some n → run (levels + 2) steps n = some ((), n') →
    ∀ packet, (handed n'.app).count packet ≤ 1 := by
  intro honce
  obtain ⟨n, n', hlink, hrun, hhanded⟩ := exists_run_lateSteps
  have hcount := honce {} 64 0 0 lateSteps n n' rfl (by decide) hlink hrun [0x42, 1]
  rw [hhanded] at hcount
  exact absurd hcount (by decide)

end LinkStack
