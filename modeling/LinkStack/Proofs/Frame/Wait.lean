import LinkStack.Proofs.Frame.Book

/-!
How long a confirmed packet is waited for.

What a framing layer reads and when its retry timer looks can be told from the
bytes it is given and the ticks that pass (`Watch`). What becomes of a confirmed
packet is a function of these sights alone: it is acknowledged if an
acknowledgement with its number is read before its retries have run out, and
given up if not (`Wait.fate`). The lemmas at the end say that the state of a
framing layer follows both.
-/

namespace LinkStack.Frame

/-! ### What a framing layer sees -/

/-- What a framing layer sees in one go: the units it reads, and the reading of
the clock at which its retry timer looks afterwards, if it does. -/
structure Sight where
  units : List (Except Error Item) := []
  timer : Option Tick := none

/-- Whether a unit is the acknowledgement with a given number. -/
def acknowledgesNumber (seq : UInt8) : Except Error Item → Bool
  | .ok (.packet packet) => Tag.fold packet.tag = Tag.frame && Control.read packet.payload = .ack seq
  | _ => false

/-- Whether an acknowledgement with a given number is read. -/
def Sight.acknowledges (seq : UInt8) (s : Sight) : Bool := s.units.any (acknowledgesNumber seq)

/-- The number of the confirmed packet in a frame. -/
def numberOf? (config : Config) (wire : Bytes) : Option UInt8 :=
  match (Codec.ofConfig config).decode wire with
  | .item (.packet packet) _ =>
    match Control.read packet.payload with
    | .data seq _ => some seq
    | _ => none
  | _ => none

theorem numberOf?_dataBody {config : Config} {seq : UInt8} {packet : Bytes} (hpacket : packet ≠ [])
    (hsize : (dataBody seq packet).length ≤ (Codec.ofConfig config).maxSize) :
    numberOf? config ((Codec.ofConfig config).frame (dataBody seq packet)) = some seq := by
  have hdecode := decode_frame_body { tag := Tag.frame, payload := opData :: seq :: packet } hsize
  have hread : Control.read (opData :: seq :: packet) = .data seq packet := by
    simp [Control.read, hpacket]
  rw [Packet.body] at hdecode
  simp only [numberOf?, dataBody, hdecode, hread]

/-- What decides about the units that will be read: the part of a frame that came
last, when it came, and the clock. -/
structure Watch where
  buffer : Bytes
  lastRx : Tick
  now : Tick

namespace Watch

/-- A part of a frame does not wait for ever. -/
def expire (config : Config) (w : Watch) : Watch :=
  if w.buffer ≠ [] ∧ config.rxTimeout < w.now.since w.lastRx then { w with buffer := [] } else w

/-- Bytes come in. -/
def receive (config : Config) (w : Watch) (bytes : Bytes) : Sight × Watch :=
  let (units, rest) := (Codec.ofConfig config).decodeAll ((w.expire config).buffer ++ bytes)
  ({ units, timer := some w.now }, { buffer := rest, lastRx := w.now, now := w.now })

/-- Ticks pass. -/
def advance (config : Config) (w : Watch) (ticks : Tick) : Sight × Watch :=
  let w := ({ w with now := w.now + ticks } : Watch).expire config
  ({ timer := some w.now }, w)

/-- What a framing layer watches. -/
def of {ρ : Type} (f : Framer ρ) (now : Tick) : Watch :=
  { buffer := f.buffer, lastRx := f.lastRx, now }

theorem of_expirePartial {ρ : Type} (f : Framer ρ) (now : Tick) :
    of (f.expirePartial now) now = (of f now).expire f.config := by
  rw [Framer.expirePartial, expire]
  by_cases hlate : f.buffer ≠ [] ∧ f.config.rxTimeout < now.since f.lastRx
  · rw [if_pos hlate]
    exact (if_pos hlate).symm
  · rw [if_neg hlate]
    exact (if_neg hlate).symm

end Watch

theorem Framer.outstanding_expirePartial {ρ : Type} (f : Framer ρ) (now : Tick) :
    (f.expirePartial now).outstanding = f.outstanding := by
  rw [expirePartial]
  split <;> rfl

/-! ### Waiting -/

/-- A confirmed packet on its way: its number, when it was sent last, and how many
times it may be sent again. -/
structure Wait where
  seq : UInt8
  sentAt : Tick
  left : Nat
  deriving DecidableEq, Repr

namespace Wait

variable (config : Config)

/-- The retry timer looks at a packet, unless it does not look at all. Nothing is
left to wait for when the retries have run out. -/
def tick (wait : Wait) : Option Tick → Option Wait
  | none => some wait
  | some now =>
    if now.since wait.sentAt < config.ackTimeout then some wait
    else
      match wait.left with
      | 0 => none
      | left + 1 => some { wait with sentAt := now, left }

/-- The packet after a number of looks of the retry timer, if the retries have not
run out; what was read does not matter here. -/
def after (wait : Wait) (sights : List Sight) : Option Wait :=
  sights.foldlM (fun wait sight => wait.tick config sight.timer) wait

/-- What one sight makes of a packet: it is waited for, or settled. -/
def see (wait : Wait) (sight : Sight) : Except DeliveryStatus Wait :=
  if sight.acknowledges wait.seq then .error .acked
  else
    match wait.tick config sight.timer with
    | none => .error .dropped
    | some wait => .ok wait

/-- What becomes of a packet, once it is settled. -/
def fate (wait : Wait) : List Sight → Option DeliveryStatus
  | [] => none
  | sight :: later =>
    match wait.see config sight with
    | .error status => some status
    | .ok wait => wait.fate later

variable {config}

theorem see_acked {wait : Wait} {sight : Sight}
    (h : sight.units.any (acknowledgesNumber wait.seq) = true) :
    wait.see config sight = .error .acked :=
  if_pos h

theorem see_units {wait : Wait} {units : List (Except Error Item)}
    (h : units.any (acknowledgesNumber wait.seq) = false) :
    wait.see config { units } = .ok wait := by
  rw [see, if_neg (by rw [Sight.acknowledges, h]; exact Bool.false_ne_true)]
  rfl

theorem see_timer (wait : Wait) (timer : Option Tick) : wait.see config { timer } =
    match wait.tick config timer with
    | none => .error .dropped
    | some wait => .ok wait :=
  if_neg Bool.false_ne_true

theorem see_tick {wait wait' : Wait} {timer : Option Tick}
    (h : wait.tick config timer = some wait') : wait.see config { timer } = .ok wait' := by
  rw [see_timer, h]

theorem see_giveUp {wait : Wait} {timer : Option Tick} (h : wait.tick config timer = none) :
    wait.see config { timer } = .error .dropped := by
  rw [see_timer, h]

theorem tick_seq {wait wait' : Wait} {timer : Option Tick} (h : wait.tick config timer = some wait') :
    wait'.seq = wait.seq := by
  cases timer with
  | none =>
      cases h
      rfl
  | some now =>
      rw [tick] at h
      split at h
      · cases h
        rfl
      · split at h <;> cases h
        rfl

/-- A confirmed packet is acknowledged exactly if an acknowledgement with its
number is read before the retries have run out. -/
theorem fate_eq_acked_iff {wait : Wait} {sights : List Sight} :
    wait.fate config sights = some .acked ↔
      ∃ earlier sight later, sights = earlier ++ sight :: later ∧
        (wait.after config earlier).isSome ∧ sight.acknowledges wait.seq = true := by
  induction sights generalizing wait with
  | nil => simp [fate]
  | cons sight sights ih =>
      rw [fate, see]
      by_cases hack : sight.acknowledges wait.seq = true
      · rw [if_pos hack]
        exact iff_of_true rfl ⟨[], sight, sights, rfl, rfl, hack⟩
      rw [if_neg hack]
      cases htick : wait.tick config sight.timer with
      | none =>
          -- the retries run out before anything later is read
          refine iff_of_false nofun ?_
          rintro ⟨earlier, sight', later, heq, hafter, hack'⟩
          cases earlier with
          | nil =>
              cases heq
              exact hack hack'
          | cons first earlier =>
              cases heq
              simp [after, htick] at hafter
      | some wait' =>
          rw [ih]
          constructor
          · rintro ⟨earlier, sight', later, rfl, hafter, hack'⟩
            refine ⟨sight :: earlier, sight', later, rfl, ?_, tick_seq htick ▸ hack'⟩
            rwa [after, List.foldlM_cons, htick]
          · rintro ⟨earlier, sight', later, heq, hafter, hack'⟩
            cases earlier with
            | nil =>
                cases heq
                exact absurd hack' hack
            | cons first earlier =>
                cases heq
                rw [after, List.foldlM_cons, htick] at hafter
                exact ⟨earlier, sight', later, rfl, hafter, (tick_seq htick).symm ▸ hack'⟩

/-! ### Framing layers follow -/

/-- A packet that a framing layer awaits is waited for. -/
structure Tracks (config : Config) (wait : Wait) (o : Outstanding) : Prop where
  seq : o.seq = wait.seq
  sentAt : o.sentAt = wait.sentAt
  left : o.retries.toNat + wait.left = config.maxRetries.toNat

namespace Tracks

variable {wait : Wait} {o : Outstanding} {now : Tick} (h : Tracks config wait o)

include h

theorem tick_early (hearly : now.since o.sentAt < config.ackTimeout) :
    wait.tick config (some now) = some wait :=
  if_pos (h.sentAt ▸ hearly)

/-- The packet is sent again. -/
theorem tick_again (hdue : config.ackTimeout ≤ now.since o.sentAt)
    (hretries : o.retries < config.maxRetries) :
    ∃ wait', wait.tick config (some now) = some wait' ∧
      Tracks config wait' { o with retries := o.retries + 1, sentAt := now } := by
  have hlate : ¬ now.since wait.sentAt < config.ackTimeout :=
    h.sentAt ▸ UInt32.not_lt.mpr hdue
  have hlt := UInt8.lt_iff_toNat_lt.mp hretries
  have hleft := h.left
  obtain ⟨left, hsucc⟩ : ∃ left, wait.left = left + 1 := ⟨wait.left - 1, by omega⟩
  refine ⟨{ wait with sentAt := now, left }, ?_, h.seq, rfl, ?_⟩
  · rw [tick, if_neg hlate, hsucc]
  · have hnext := toNat_succ_of_lt hretries
    show (o.retries + 1).toNat + left = config.maxRetries.toNat
    omega

/-- The packet is given up. -/
theorem tick_giveUp (hdue : config.ackTimeout ≤ now.since o.sentAt)
    (hretries : config.maxRetries ≤ o.retries) : wait.tick config (some now) = none := by
  have hlate : ¬ now.since wait.sentAt < config.ackTimeout :=
    h.sentAt ▸ UInt32.not_lt.mpr hdue
  have hle := UInt8.le_iff_toNat_le.mp hretries
  have hleft := h.left
  have hzero : wait.left = 0 := by omega
  rw [tick, if_neg hlate, hzero]

end Tracks

end Wait

end LinkStack.Frame
