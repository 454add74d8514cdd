import Mathlib.Data.List.Basic
import LinkStack.Proofs.Network.Pair
import LinkStack.Proofs.Network.Stack

/-!
Two stacks face each other over a link in memory, and their applications see
through it.

Payloads are sent to ports and user tags of either end, the ends are polled and
the clock moves, in any order. What was sent to an end and accepted is, in its
order, what the end has taken followed by what waits in its inbox (`Balanced`);
a poll leaves nothing there, so after it the listeners of that end have heard
what was sent to them and nothing else.
-/

namespace LinkStack.Stack

open LinkStack.Frame (Codec)
open Network (Contents Yields)

/-! ### Runs -/

inductive Step where
  /-- A payload is sent from an end to an address of the other end. -/
  | send (e : End) (outlet : Ref) (parcel : Parcel)
  | poll (e : End)
  | advance (ticks : Tick)
  deriving DecidableEq, Repr

/-- The steps of a run, each with its answer. -/
abbrev Record := List (Step × Except LayerError Nat)

/-- The payloads that an end has sent and that were accepted. -/
def accepted (e : End) (record : Record) : List Parcel :=
  record.filterMap fun
    | (.send sender _ p, .ok _) => if sender = e then some p else none
    | _ => none

theorem accepted_append (e : End) (record record' : Record) :
    accepted e (record ++ record') = accepted e record ++ accepted e record' :=
  List.filterMap_append

namespace Step

/-- Payloads can be sent only through an outlet for their address. -/
def IsPossible (objects : Ref → Option Object) (s : End → Stack) : Step → Prop
  | .send e outlet p => p.address.IsValid ∧ (s e).IsOutlet objects outlet p.address
  | _ => True

def perform (calls : Calls Log) (s : End → Stack) : Step → Act Log (Except LayerError Nat)
  | .send _ outlet p => ((calls.layer outlet).send p.payload).run
  | .poll e => (Network.poll calls (s e).channel).run
  | .advance ticks => do
    let _ ← Network.advance calls ticks
    return .ok ticks.toNat

def performAll (calls : Calls Log) (s : End → Stack) : List Step → Act Log Record
  | [] => return []
  | step :: steps => do
    let answer ← step.perform calls s
    return (step, answer) :: (← performAll calls s steps)

end Step

/-! ### Two stacks -/

/-- Two stacks face each other: what they have in common is the link, their
framing layers have the same settings, and no listener is one of both. -/
structure Facing (objects : Ref → Option Object) (s : End → Stack) (config : Frame.Config) :
    Prop where
  stands : ∀ e, (s e).Stands objects config (s e.other).inbox
  inboxes : ∀ e, (s e).inbox ≠ (s e.other).inbox
  apart : ∀ e a b key, (s e).listener? objects a = some key →
    (s e.other).listener? objects b ≠ some key

/-- Two stacks that face each other before anything is sent. No timers run but
theirs. -/
structure Mirrored (n : Network Log) (s : End → Stack) (config : Frame.Config) : Prop
    extends Facing n.object? s config where
  empty : ∀ e, n.mailboxes[(s e).inbox]? = some []
  timers : ∀ timer ∈ n.clock.timers, ∃ e, timer = (s e).framer
  holders : ∀ ref slot, n.slot? ref = some slot → 0 < slot.holders
  silent : n.app = []

/-- The payloads for one listener. -/
def payloadsFor (objects : Ref → Option Object) (s : Stack) (key : Key) (parcels : List Parcel) :
    List Bytes :=
  parcels.filterMap fun p =>
    if s.listener? objects p.address = some key then some p.payload else none

/-- The payloads for one address. -/
def payloadsTo (a : Address) (parcels : List Parcel) : List Bytes :=
  parcels.filterMap fun p => if p.address = a then some p.payload else none

/-- The number of payloads for ports that nothing is bound to. -/
def unboundCount (objects : Ref → Option Object) (s : Stack) (parcels : List Parcel) : Nat :=
  parcels.countP fun p => s.isUnbound objects p.address

/-! ### One payload -/

section Arrive

variable {plan : Ref → Option Object} {s : Stack} {c : Contents Log} {p : Parcel}

theorem listener?_eq_none_of_isUnbound {a : Address} (h : s.isUnbound plan a) :
    s.listener? plan a = none := by
  cases a with
  | user tag => cases h
  | port port =>
      have hnone : s.target? plan (.port port) = none := Option.isNone_iff_eq_none.mp h
      rw [listener?, hnone]
      rfl

theorem mailboxes_arrive : (arrive plan s c p).mailboxes = c.mailboxes := by
  rw [arrive]
  split
  · rfl
  · split <;> rfl

theorem timers_arrive : (arrive plan s c p).timers = c.timers := by
  rw [arrive]
  split
  · rfl
  · split <;> rfl

theorem heardBy_arrive (key : Key) : (arrive plan s c p).app.heardBy key =
    c.app.heardBy key ++ payloadsFor plan s key [p] := by
  rw [arrive]
  cases hkey : s.listener? plan p.address with
  | some own =>
      show Log.heardBy (c.app ++ [(own, p.payload)]) key = _
      rw [Log.heardBy_append]
      by_cases heq : own = key <;> simp [Log.heardBy, payloadsFor, hkey, heq]
  | none =>
      have hfor : payloadsFor plan s key [p] = [] := by simp [payloadsFor, hkey]
      rw [hfor, List.append_nil]
      dsimp only
      split <;> rfl

theorem condition_arrive_of_ne {ref : Ref} (h : ref ≠ s.transport) :
    (arrive plan s c p).condition ref = c.condition ref := by
  rw [arrive]
  split
  · rfl
  · split
    · exact Function.update_of_ne h ..
    · rfl

theorem rxErrors_arrive :
    ((arrive plan s c p).condition s.transport).rxErrors.toNat =
      min Stats.ceiling
        ((c.condition s.transport).rxErrors.toNat + unboundCount plan s [p]) := by
  have hlt := (c.condition s.transport).rxErrors.toNat_lt
  rw [arrive, unboundCount, List.countP_singleton]
  by_cases hunbound : s.isUnbound plan p.address
  · rw [listener?_eq_none_of_isUnbound hunbound]
    simp only [if_pos hunbound, Contents.fault, Contents.condition_setCondition, Stats.toNat_bump]
  · rw [if_neg hunbound, if_neg hunbound, Nat.add_zero, Nat.min_eq_right]
    · cases s.listener? plan p.address <;> rfl
    · rw [Stats.ceiling, UInt32.size]
      omega

end Arrive

/-! ### The invariant -/

section Balanced

variable {plan : Ref → Option Object} {s : End → Stack} {config : Frame.Config}
  {start c : Contents Log} {took waiting : End → List Parcel} {e : End}

/-- Each end has taken some payloads, and others wait in its inbox. -/
structure Balanced (plan : Ref → Option Object) (s : End → Stack) (config : Frame.Config)
    (start : Contents Log) (took waiting : End → List Parcel) (c : Contents Log) : Prop where
  room : ∀ e, (s e).inbox < c.mailboxes.size
  inbox : ∀ e, c.mailbox (s e).inbox = (waiting e).map (frameOf config)
  fits : ∀ e, ∀ p ∈ waiting e,
    p.address.IsValid ∧ p.packet.body.length ≤ (Codec.ofConfig config).maxSize
  heard : ∀ e a key, (s e).listener? plan a = some key →
    c.app.heardBy key = payloadsFor plan (s e) key (took e)
  silent : ∀ key, (∀ e a, (s e).listener? plan a ≠ some key) → c.app.heardBy key = []
  ports : ∀ e, (c.condition (s e).transport).rxErrors.toNat = min Stats.ceiling
    ((start.condition (s e).transport).rxErrors.toNat + unboundCount plan (s e) (took e))
  framers : ∀ e, c.condition (s e).framer = start.condition (s e).framer
  timers : c.timers = start.timers

end Balanced

namespace Facing

variable {plan : Ref → Option Object} {s : End → Stack} {config : Frame.Config}
  (h : Facing plan s config)

include h

theorem transport_ne (e : End) : (s e).transport ≠ (s e.other).transport := by
  -- stacks with one transport would have one inbox
  intro heq
  obtain ⟨t, ht, htlinks⟩ := (h.stands e).transport
  obtain ⟨t', ht', htlinks'⟩ := (h.stands e.other).transport
  obtain ⟨d, -, hd, hdlinks, -⟩ := (h.stands e).dispatch
  obtain ⟨d', -, hd', hdlinks', -⟩ := (h.stands e.other).dispatch
  obtain ⟨f, hf, hflinks, -⟩ := (h.stands e).framer
  obtain ⟨f', hf', hflinks', -⟩ := (h.stands e.other).framer
  obtain ⟨l, hl, -⟩ := (h.stands e).channel
  obtain ⟨l', hl', -⟩ := (h.stands e.other).channel
  obtain rfl : t = t' := by simpa [heq, ht'] using ht.symm
  have hdispatch : (s e).dispatch = (s e.other).dispatch := by
    simpa [htlinks'] using htlinks.symm
  obtain rfl : d = d' := by simpa [hdispatch, hd'] using hd.symm
  have hframer : (s e).framer = (s e.other).framer := by simpa [hdlinks'] using hdlinks.symm
  obtain rfl : f = f' := by simpa [hframer, hf'] using hf.symm
  have hchannel : (s e).channel = (s e.other).channel := by
    simp only [hflinks', Option.some.injEq, Links.mk.injEq] at hflinks
    exact hflinks.1.symm
  rw [hchannel, hl'] at hl
  simp only [Option.some.injEq, Object.loopback.injEq] at hl
  exact h.inboxes e hl.2.1.symm

theorem framer_ne_transport (e e' : End) : (s e).framer ≠ (s e').transport := by
  intro heq
  obtain ⟨f, hf, -⟩ := (h.stands e).framer
  obtain ⟨t, ht, -⟩ := (h.stands e').transport
  rw [heq, ht] at hf
  cases hf

end Facing

theorem Facing.exists_transport {n : Network Log} {s : End → Stack} {config : Frame.Config}
    (h : Facing n.outline s config) (e : End) :
    ∃ t, n.read? .transport (s e).transport = some t ∧
      t.stats.rxErrors = (n.contents.condition (s e).transport).rxErrors := by
  obtain ⟨t, ht, -⟩ := (h.stands e).transport
  obtain ⟨t', hread, hcondition⟩ := Yields.exists_read .transport ht rfl
  exact ⟨t', hread, congrArg Object.Condition.rxErrors hcondition⟩

theorem Facing.exists_framer {n : Network Log} {s : End → Stack} {config : Frame.Config}
    (h : Facing n.outline s config) (e : End) :
    ∃ f, n.read? .framer (s e).framer = some f ∧
      f.stats.rxErrors = (n.contents.condition (s e).framer).rxErrors := by
  obtain ⟨f, hf, -⟩ := (h.stands e).framer
  obtain ⟨f', hread, hcondition⟩ := Yields.exists_read .framer hf rfl
  exact ⟨f', hread, congrArg Object.Condition.rxErrors hcondition⟩

theorem Facing.outline {n : Network Log} {s : End → Stack} {config : Frame.Config}
    (h : Facing n.object? s config) : Facing n.outline s config where
  stands e := (h.stands e).outline
  inboxes := h.inboxes
  apart e a b key hkey := by
    rw [listener?_outline] at hkey ⊢
    exact h.apart e a b key hkey

theorem payloadsFor_outline (n : Network Log) (s : Stack) (key : Key) (parcels : List Parcel) :
    payloadsFor n.outline s key parcels = payloadsFor n.object? s key parcels := by
  simp only [payloadsFor, listener?_outline]

theorem unboundCount_outline (n : Network Log) (s : Stack) (parcels : List Parcel) :
    unboundCount n.outline s parcels = unboundCount n.object? s parcels := by
  simp only [unboundCount, isUnbound_outline]

theorem payloadsFor_append (plan : Ref → Option Object) (s : Stack) (key : Key)
    (parcels parcels' : List Parcel) : payloadsFor plan s key (parcels ++ parcels') =
      payloadsFor plan s key parcels ++ payloadsFor plan s key parcels' :=
  List.filterMap_append

theorem payloadsFor_singleton_of_ne {plan : Ref → Option Object} {s : Stack} {key : Key}
    {p : Parcel} (h : s.listener? plan p.address ≠ some key) :
    payloadsFor plan s key [p] = [] := by
  simp [payloadsFor, h]

namespace Balanced

variable {plan : Ref → Option Object} {s : End → Stack} {config : Frame.Config}
  {start c : Contents Log} {took waiting : End → List Parcel}
  (hb : Balanced plan s config start took waiting c) (h : Facing plan s config) {p : Parcel}

include hb h

/-- A payload that was sent to an end waits there. -/
theorem post (e : End) (hvalid : p.address.IsValid)
    (hsize : p.packet.body.length ≤ (Codec.ofConfig config).maxSize) :
    Balanced plan s config start took (Function.update waiting e (waiting e ++ [p]))
      (c.updateMailbox (s e).inbox (· ++ [frameOf config p])) where
  room e' := by simpa [Contents.updateMailbox] using hb.room e'
  inbox e' := by
    rcases e.eq_or_eq_other e' with rfl | rfl
    · rw [c.mailbox_updateMailbox_self (hb.room e), hb.inbox, Function.update_self, List.map_append]
      rfl
    · rw [c.mailbox_updateMailbox_of_ne (h.inboxes e').symm, hb.inbox,
        Function.update_of_ne e'.other_ne.symm]
  fits e' p' hp' := by
    rcases e.eq_or_eq_other e' with rfl | rfl
    · rw [Function.update_self, List.mem_append, List.mem_singleton] at hp'
      rcases hp' with hp' | rfl
      · exact hb.fits e p' hp'
      · exact ⟨hvalid, hsize⟩
    · rw [Function.update_of_ne e'.other_ne.symm] at hp'
      exact hb.fits e' p' hp'
  heard := hb.heard
  silent := hb.silent
  ports := hb.ports
  framers := hb.framers
  timers := hb.timers

/-- The payload that has waited longest at an end arrives. -/
theorem take {e : End} {rest : List Parcel} (hwaiting : waiting e = p :: rest) :
    Balanced plan s config start (Function.update took e (took e ++ [p]))
      (Function.update waiting e rest)
      (arrive plan (s e) (c.updateMailbox (s e).inbox List.tail) p) where
  room e' := by
    rw [mailboxes_arrive]
    simpa [Contents.updateMailbox] using hb.room e'
  inbox e' := by
    rw [Contents.mailbox, mailboxes_arrive]
    show (c.updateMailbox (s e).inbox List.tail).mailbox (s e').inbox = _
    rcases e.eq_or_eq_other e' with rfl | rfl
    · rw [c.mailbox_updateMailbox_self (hb.room e), hb.inbox, Function.update_self, hwaiting]
      rfl
    · rw [c.mailbox_updateMailbox_of_ne (h.inboxes e').symm, hb.inbox,
        Function.update_of_ne e'.other_ne.symm]
  fits e' p' hp' := by
    rcases e.eq_or_eq_other e' with rfl | rfl
    · rw [Function.update_self] at hp'
      exact hb.fits e p' (hwaiting ▸ List.mem_cons_of_mem p hp')
    · rw [Function.update_of_ne e'.other_ne.symm] at hp'
      exact hb.fits e' p' hp'
  heard e' a key hkey := by
    have hbefore : (c.updateMailbox (s e).inbox List.tail).app.heardBy key = _ :=
      hb.heard e' a key hkey
    rw [heardBy_arrive, hbefore]
    rcases e.eq_or_eq_other e' with rfl | rfl
    · rw [Function.update_self, payloadsFor_append]
    · have hother : (s e'.other).listener? plan p.address ≠ some key :=
        h.apart e' a p.address key hkey
      rw [payloadsFor_singleton_of_ne hother, List.append_nil,
        Function.update_of_ne e'.other_ne.symm]
  silent key hkey := by
    have hbefore : (c.updateMailbox (s e).inbox List.tail).app.heardBy key = [] :=
      hb.silent key hkey
    rw [heardBy_arrive, hbefore, payloadsFor_singleton_of_ne (hkey e p.address)]
    rfl
  ports e' := by
    rcases e.eq_or_eq_other e' with rfl | rfl
    · have hbefore : ((c.updateMailbox (s e).inbox List.tail).condition (s e).transport
          ).rxErrors.toNat = _ := hb.ports e
      rw [rxErrors_arrive, hbefore, Function.update_self, unboundCount, unboundCount, unboundCount,
        List.countP_append]
      omega
    · rw [condition_arrive_of_ne (h.transport_ne e'), Function.update_of_ne e'.other_ne.symm]
      exact hb.ports e'
  framers e' := by
    rw [condition_arrive_of_ne (h.framer_ne_transport e' e)]
    exact hb.framers e'
  timers := timers_arrive.trans hb.timers

end Balanced

/-! ### Steps and runs -/

section Steps

variable {plan : Ref → Option Object} {s : End → Stack} {config : Frame.Config}
  {start c : Contents Log} {took waiting : End → List Parcel}
  (answer : Log → Except LayerError Nat) (levels : Nat) (h : Facing plan s config)
  (hempty : ∀ e, (start.condition (s e).framer).buffer = [])

include h hempty

/-- What waits at an end arrives when the end is polled. -/
theorem yields_poll (hb : Balanced plan s config start took waiting c) (e : End) :
    ∃ total c', Yields plan
        (Network.poll (Network.calls (listening answer) (levels + 4)) (s e).channel).run c
        (.ok total) c' ∧
      Balanced plan s config start (Function.update took e (took e ++ waiting e))
        (Function.update waiting e []) c' := by
  obtain ⟨l, hl, hllinks⟩ := (h.stands e).channel
  obtain ⟨f, hf, hflinks, rfl, hidle, -⟩ := (h.stands e).framer
  obtain ⟨d, -, hd, -⟩ := (h.stands e).dispatch
  -- while the frames of `rest` wait, what the end took goes up to them
  let I (writes : List Bytes) (c : Contents Log) : Prop :=
    ∃ taken rest, taken ++ rest = took e ++ waiting e ∧ writes = rest.map (frameOf f.config) ∧
      Balanced plan s f.config start (Function.update took e taken)
        (Function.update waiting e rest) c
  have hinbox {writes : List Bytes} {c : Contents Log} (hI : I writes c) :
      c.mailbox (s e).inbox = writes := by
    obtain ⟨taken, rest, -, rfl, hb⟩ := hI
    rw [hb.inbox, Function.update_self]
  have htake {bytes : Bytes} {writes : List Bytes} {c : Contents Log} (hI : I (bytes :: writes) c) :
      ∃ c', I writes c' ∧
        Network.Takes plan (((Network.calls (listening answer) (levels + 4)).layer
          (s e).framer).recv bytes) (c.updateMailbox (s e).inbox List.tail) c' := by
    obtain ⟨taken, rest, hsum, hwrites, hb⟩ := hI
    obtain ⟨p, rest, rfl, rfl, rfl⟩ := List.map_eq_cons_iff.mp hwrites.symm
    have hb' := hb.take h (Function.update_self ..)
    rw [Function.update_self, Function.update_idem, Function.update_idem] at hb'
    obtain ⟨hvalid, hsize⟩ := hb.fits e p (by simp)
    refine ⟨_, ⟨taken ++ [p], rest, by simpa using hsum, rfl, hb'⟩, ?_⟩
    refine Network.Takes.call hf rfl ?_
    refine Network.takes_framer hf hidle hflinks rfl (by rw [hd]; rfl)
      (Parcel.fold_tag_ne hvalid) hsize ?_ ?_ (takes_parcel (h.stands e) hvalid)
    · exact (congrArg Object.Condition.buffer (hb.framers e)).trans (hempty e)
    · exact (congrArg Object.Condition.buffer (hb'.framers e)).trans (hempty e)
  have hI : I ((waiting e).map (frameOf f.config)) c :=
    ⟨took e, waiting e, rfl, rfl, by simpa only [Function.update_eq_self] using hb⟩
  obtain ⟨total, c', ⟨taken, rest, hsum, hnil, hb'⟩, hpoll⟩ :=
    Network.yields_poll hl hllinks rfl (by rw [hf]; rfl) hinbox htake hI
  refine ⟨total, c', hpoll, ?_⟩
  obtain rfl : rest = [] := List.map_eq_nil_iff.mp hnil.symm
  rwa [← hsum, List.append_nil]

theorem yields_perform (hb : Balanced plan s config start took waiting c)
    (htimers : ∀ timer ∈ start.timers, ∃ e, timer = (s e).framer) {step : Step}
    (hstep : step.IsPossible plan s) :
    ∃ reply c' took' waiting', Yields plan
        (step.perform (Network.calls (listening answer) (levels + 4)) s) c reply c' ∧
      Balanced plan s config start took' waiting' c' ∧
      ∀ e, took' e ++ waiting' e = took e ++ waiting e ++ accepted e.other [(step, reply)] := by
  cases step with
  | send sender outlet p =>
      obtain ⟨hvalid, houtlet⟩ := hstep
      have hsends : Network.Sends plan (((Network.calls (listening answer) (levels + 4)).layer
          outlet).send p.payload) c _ _ _ := sends_parcel (h.stands sender) hvalid houtlet
      rcases hsends with ⟨hsize, hsent⟩ | ⟨error, hrefused⟩
      · refine ⟨_, _, _, _, hsent, hb.post h sender.other hvalid hsize, fun e => ?_⟩
        rcases sender.eq_or_eq_other e with rfl | rfl
        · simp [accepted, sender.other_ne.symm]
        · simp [accepted, e.other_other]
      · exact ⟨_, _, _, _, hrefused, hb, fun e => (List.append_nil _).symm⟩
  | poll e =>
      obtain ⟨total, c', hpoll, hb'⟩ := yields_poll answer levels h hempty hb e
      refine ⟨_, _, _, _, hpoll, hb', fun e' => ?_⟩
      rcases e.eq_or_eq_other e' with rfl | rfl
      · simp [accepted]
      · simp [accepted, Function.update_of_ne e'.other_ne.symm]
  | advance ticks =>
      have hframer {timer : Ref} (htimer : timer ∈ c.timers) :
          ∃ f, plan timer = some (.framer f) ∧ f.outstanding = none ∧
            (c.condition timer).buffer = [] := by
        rw [hb.timers] at htimer
        obtain ⟨e, rfl⟩ := htimers timer htimer
        obtain ⟨f, hf, -, -, hidle, -⟩ := (h.stands e).framer
        exact ⟨f, hf, hidle, (congrArg Object.Condition.buffer (hb.framers e)).trans (hempty e)⟩
      refine ⟨_, c, took, waiting, Yields.advance_bind ?_ ?_ fun _ => Yields.pure, hb,
        fun e => (List.append_nil _).symm⟩
      · intro timer htimer
        obtain ⟨f, hf, -⟩ := hframer htimer
        rw [hf]
        rfl
      · intro now timer htimer
        obtain ⟨f, hf, hidle, hbuffer⟩ := hframer htimer
        exact Network.yields_serve hf hidle hbuffer now

/-- A run goes through, whatever its steps. -/
theorem yields_performAll (htimers : ∀ timer ∈ start.timers, ∃ e, timer = (s e).framer)
    (hb : Balanced plan s config start took waiting c) {steps : List Step}
    (hsteps : ∀ step ∈ steps, step.IsPossible plan s) :
    ∃ record c' took' waiting', Yields plan
        (Step.performAll (Network.calls (listening answer) (levels + 4)) s steps) c record c' ∧
      Balanced plan s config start took' waiting' c' ∧
      ∀ e, took' e ++ waiting' e = took e ++ waiting e ++ accepted e.other record := by
  induction steps generalizing c took waiting with
  | nil => exact ⟨[], c, took, waiting, Yields.pure, hb, fun e => (List.append_nil _).symm⟩
  | cons step steps ih =>
      obtain ⟨reply, c', took', waiting', hstep, hb', hsum⟩ :=
        yields_perform answer levels h hempty hb htimers (hsteps step List.mem_cons_self)
      obtain ⟨record, c'', took'', waiting'', hrest, hb'', hsum'⟩ :=
        ih hb' fun step' hstep' => hsteps step' (List.mem_cons_of_mem _ hstep')
      refine ⟨(step, reply) :: record, c'', took'', waiting'', ?_, hb'', fun e => ?_⟩
      · exact hstep.bind (hrest.bind Yields.pure)
      · rw [hsum', hsum, List.append_assoc, ← accepted_append]
        rfl

end Steps

theorem Step.performAll_append (calls : Calls Log) (s : End → Stack) (steps steps' : List Step) :
    Step.performAll calls s (steps ++ steps') = do
      let record ← Step.performAll calls s steps
      let record' ← Step.performAll calls s steps'
      return record ++ record' := by
  induction steps with
  | nil => simp [Step.performAll]
  | cons step steps ih => simp [Step.performAll, ih, bind_assoc]

theorem Mirrored.balanced {n : Network Log} {s : End → Stack} {config : Frame.Config}
    (h : Mirrored n s config) :
    Balanced n.outline s config n.contents (fun _ => []) (fun _ => []) n.contents where
  room e := (Array.getElem?_eq_some_iff.mp (h.empty e)).1
  inbox e := by
    rw [Contents.mailbox, Network.contents, h.empty]
    rfl
  fits _ _ hp := absurd hp List.not_mem_nil
  heard _ _ key _ := by
    show n.app.heardBy key = []
    rw [h.silent]
    rfl
  silent key _ := by
    show n.app.heardBy key = []
    rw [h.silent]
    rfl
  ports e := by
    have hlt := (n.contents.condition (s e).transport).rxErrors.toNat_lt
    rw [unboundCount, List.countP_nil, Stats.ceiling, UInt32.size]
    omega
  framers _ := rfl
  timers := rfl

/-! ### Transparency -/

/-- What a run from `n` to `n'` with the given record, after which the end `e`
has just been polled, shows to the listeners and in the counters. -/
structure Transparent (n n' : Network Log) (s : End → Stack) (e : End) (record : Record) :
    Prop where
  /-- Every listener of the end has heard the payloads for it that the other end
  has sent, in order and each once. -/
  heard : ∀ a key, (s e).listener? n.object? a = some key →
    n'.app.heardBy key = payloadsFor n.object? (s e) key (accepted e.other record)
  /-- One that listens to a single address has heard what was sent to that. -/
  own : ∀ a key, (s e).listener? n.object? a = some key →
    (∀ b, (s e).listener? n.object? b = some key → b = a) →
    n'.app.heardBy key = payloadsTo a (accepted e.other record)
  /-- The listeners of the other end have heard nothing but what this end has
  sent to them. -/
  other : ∀ a key, (s e.other).listener? n.object? a = some key →
    n'.app.heardBy key <+: payloadsFor n.object? (s e.other) key (accepted e record)
  /-- Nobody else has heard anything. -/
  silent : ∀ key, (∀ e' a, (s e').listener? n.object? a ≠ some key) → n'.app.heardBy key = []
  /-- Every payload for a port that nothing is bound to is one error. -/
  unbound : ∃ t t', n.read? .transport (s e).transport = some t ∧
    n'.read? .transport (s e).transport = some t' ∧
    t'.stats.rxErrors.toNat = min Stats.ceiling
      (t.stats.rxErrors.toNat + unboundCount n.object? (s e) (accepted e.other record))
  /-- The framing layers find no errors. -/
  framers : ∀ e', ∃ f f', n.read? .framer (s e').framer = some f ∧
    n'.read? .framer (s e').framer = some f' ∧ f'.stats.rxErrors = f.stats.rxErrors

theorem payloadsFor_eq_payloadsTo {objects : Ref → Option Object} {s : Stack} {a : Address}
    {key : Key} (h : s.listener? objects a = some key)
    (hown : ∀ b, s.listener? objects b = some key → b = a) (parcels : List Parcel) :
    payloadsFor objects s key parcels = payloadsTo a parcels := by
  refine List.filterMap_congr fun p _ => ?_
  by_cases haddress : p.address = a
  · rw [if_pos haddress, haddress, if_pos h]
  · rw [if_neg haddress, if_neg fun hkey => haddress (hown _ hkey)]

/-- When nothing waits at an end, the invariant says what the listeners know. -/
theorem Balanced.shows {n n' : Network Log} {s : End → Stack} {config : Frame.Config}
    {took waiting : End → List Parcel} {e : End} {record : Record}
    (hb : Balanced n.outline s config n.contents took waiting n'.contents)
    (hfacing : Facing n.outline s config) (hplan : n'.outline = n.outline)
    (hwaiting : waiting e = [])
    (hsum : ∀ e, took e ++ waiting e = accepted e.other record) :
    Transparent n n' s e record := by
  have htook : took e = accepted e.other record := by
    rw [← hsum, hwaiting, List.append_nil]
  have hheard (e : End) (a : Address) (key : Key)
      (hkey : (s e).listener? n.object? a = some key) :
      n'.app.heardBy key = payloadsFor n.object? (s e) key (took e) := by
    rw [← listener?_outline] at hkey
    rw [← payloadsFor_outline]
    exact hb.heard e a key hkey
  have hend (a : Address) (key : Key) (hkey : (s e).listener? n.object? a = some key) :
      n'.app.heardBy key = payloadsFor n.object? (s e) key (accepted e.other record) := by
    rw [hheard e a key hkey, htook]
  refine ⟨hend, ?own, ?other, ?silent, ?unbound, ?framers⟩
  case own =>
    intro a key hkey hown
    rw [hend a key hkey, payloadsFor_eq_payloadsTo hkey hown]
  case other =>
    intro a key hkey
    have hother := hsum e.other
    rw [e.other_other] at hother
    rw [hheard e.other a key hkey, ← hother]
    exact (List.prefix_append _ _).filterMap _
  case silent =>
    intro key hkey
    refine hb.silent key fun e' a => ?_
    rw [listener?_outline]
    exact hkey e' a
  case unbound =>
    obtain ⟨t, ht, hbefore⟩ := hfacing.exists_transport e
    obtain ⟨t', ht', hafter⟩ := (hplan ▸ hfacing).exists_transport e
    refine ⟨t, t', ht, ht', ?_⟩
    have hports := hb.ports e
    rwa [htook, unboundCount_outline, ← hbefore, ← hafter] at hports
  case framers =>
    intro e'
    obtain ⟨f, hf, hbefore⟩ := hfacing.exists_framer e'
    obtain ⟨f', hf', hafter⟩ := (hplan ▸ hfacing).exists_framer e'
    refine ⟨f, f', hf, hf', ?_⟩
    rw [hbefore, hafter, hb.framers]

/-- A run of sends, polls and advances goes through, and after a poll the stacks
have been transparent to the listeners. -/
theorem Mirrored.transparent {n : Network Log} {s : End → Stack} {config : Frame.Config}
    (h : Mirrored n s config) (answer : Log → Except LayerError Nat) {steps : List Step}
    (hsteps : ∀ step ∈ steps, step.IsPossible n.object? s) (e : End) (levels : Nat) :
    ∃ record n', Step.performAll (Network.calls (listening answer) (levels + 4)) s
        (steps ++ [.poll e]) n = some (record, n') ∧ Transparent n n' s e record := by
  have hfacing := h.toFacing.outline
  have hempty (e : End) : (n.contents.condition (s e).framer).buffer = [] := by
    obtain ⟨f, hf, -, -, -, hbuffer⟩ := (h.stands e).framer
    simpa [Network.contents, hf, Object.condition] using hbuffer
  have hpossible (step : Step) (hstep : step ∈ steps) : step.IsPossible n.outline s := by
    cases step with
    | send sender outlet p => exact ⟨(hsteps _ hstep).1, (hsteps _ hstep).2.outline⟩
    | _ => trivial
  obtain ⟨record, c, took, waiting, hrun, hb, hsum⟩ :=
    yields_performAll answer levels hfacing hempty h.timers h.balanced hpossible
  obtain ⟨total, c', hpoll, hb'⟩ := yields_poll answer levels hfacing hempty hb e
  have hall : Yields n.outline (Step.performAll (Network.calls (listening answer) (levels + 4)) s
      (steps ++ [.poll e])) n.contents (record ++ [(.poll e, .ok total)]) c' := by
    rw [Step.performAll_append]
    exact hrun.bind (Yields.bind (hpoll.bind Yields.pure) Yields.pure)
  obtain ⟨n', hact, hplan, rfl⟩ := hall.run h.holders rfl rfl
  refine ⟨_, n', hact, hb'.shows hfacing hplan (Function.update_self ..) fun e' => ?_⟩
  have hpolled : accepted e'.other [(Step.poll e, Except.ok total)] = [] := rfl
  have hsent : took e' ++ waiting e' = accepted e'.other record := hsum e'
  rw [accepted_append, hpolled, List.append_nil, ← hsent]
  rcases e.eq_or_eq_other e' with rfl | rfl
  · rw [Function.update_self, Function.update_self, List.append_nil]
  · rw [Function.update_of_ne e'.other_ne.symm, Function.update_of_ne e'.other_ne.symm]

/-! ### Two small stacks -/

namespace Small

/-- A stack with a receiver on port 5 and a user layer, with its parent. The
near end has the even slots. -/
def stack (e : End) : Stack where
  channel := e.index
  framer := 2 + e.index
  dispatch := 4 + e.index
  transport := 6 + e.index
  inbox := e.index

def user (e : End) : Ref := 8 + e.index

def receiver (e : End) : Ref := 14 + e.index

def parent (e : End) : Ref := 16 + e.index

def node (name : String) (child parent : Option Ref) : Node Ref :=
  { name, links := some { child, parent } }

def dispatch (e : End) : Addressing.Dispatch Ref where
  node := node "dispatch" (stack e).framer none
  table :=
    { bindings := [{ route := .number Tag.port, handler := .layer (stack e).transport },
        { route := .number Tag.userFirst, handler := .layer (user e) }] }

def transport (e : End) : Addressing.Transport Ref where
  node := node "transport" (stack e).dispatch none
  ports := { bindings := [{ route := .number 5, handler := .receiver (receiver e) }] }

/-- The objects of an end. Port 6 is one of its ports, but nothing listens there. -/
def objects (e : End) : List Object :=
  [.loopback { node := node "loopback" none (stack e).framer, maxPacket := 64 }
      (stack e).inbox (stack e.other).inbox,
    .framer { node := node "frame" (stack e).channel (stack e).dispatch, config := .short,
              lastRx := 0 },
    .dispatch (dispatch e), .transport (transport e),
    .user { node := node "user" (stack e).dispatch (parent e), user := Tag.userFirst },
    .port (stack e).transport 5, .port (stack e).transport 6,
    .receiver { name := "port" } e.index, .custom (2 + e.index)]

def network : Network Log where
  slots := (((objects .near).zip (objects .far)).flatMap fun (near, far) =>
    [some { object := near, holders := 1 }, some { object := far, holders := 1 }]).toArray
  mailboxes := #[[], []]
  clock := { timers := [(stack .near).framer, (stack .far).framer] }
  app := []

theorem lookup_dispatch {e : End} {tag : UInt8} {handler : Addressing.Handler Ref}
    (h : (dispatch e).table.lookup tag = some handler) :
    tag = Tag.port ∧ handler = .layer (stack e).transport ∨
      tag = Tag.userFirst ∧ handler = .layer (user e) := by
  simp only [Addressing.BindTable.lookup, dispatch, List.find?_cons, Addressing.Route.covers] at h
  by_cases hport : Tag.port = tag
  · simp_all
  · by_cases huser : Tag.userFirst = tag <;> simp_all

theorem lookup_transport {e : End} {port : UInt8} {handler : Addressing.Handler Ref}
    (h : (transport e).ports.lookup port = some handler) :
    port = 5 ∧ handler = .receiver (receiver e) := by
  simp only [Addressing.BindTable.lookup, transport, List.find?_cons,
    Addressing.Route.covers] at h
  by_cases hport : 5 = port <;> simp_all

theorem object?_dispatch (e : End) :
    network.object? (stack e).dispatch = some (.dispatch (dispatch e)) := by
  cases e <;> rfl

theorem object?_transport (e : End) :
    network.object? (stack e).transport = some (.transport (transport e)) := by
  cases e <;> rfl

/-- The keys of the listeners of an end have its parity. -/
theorem listener?_mod {e : End} {a : Address} {key : Key}
    (h : (stack e).listener? network.object? a = some key) : key % 2 = e.index := by
  rw [listener?] at h
  cases a with
  | port port =>
      rw [target?_port (object?_transport e)] at h
      cases hlookup : (transport e).ports.lookup port with
      | none => simp [hlookup] at h
      | some handler =>
          obtain ⟨rfl, rfl⟩ := lookup_transport hlookup
          rw [hlookup] at h
          cases e <;> cases h <;> rfl
  | user tag =>
      rw [target?_user (object?_dispatch e)] at h
      cases hlookup : (dispatch e).table.lookup tag with
      | none => simp [hlookup] at h
      | some handler =>
          rw [hlookup] at h
          rcases lookup_dispatch hlookup with ⟨rfl, rfl⟩ | ⟨rfl, rfl⟩ <;>
            cases e <;> cases h <;> rfl

theorem stands (e : End) : (stack e).Stands network.object? .short (stack e.other).inbox where
  channel := by cases e <;> exact ⟨_, rfl, rfl⟩
  framer := by cases e <;> exact ⟨_, rfl, rfl, rfl, rfl, rfl⟩
  dispatch := ⟨_, _, object?_dispatch e, rfl, rfl, rfl⟩
  transport := ⟨_, object?_transport e, rfl⟩
  users d tag handler hd htag hlookup := by
    obtain rfl : dispatch e = d := by simpa [object?_dispatch] using hd
    rcases lookup_dispatch hlookup with ⟨rfl, rfl⟩ | ⟨rfl, rfl⟩
    · exact absurd htag (by decide)
    · cases e <;> exact ⟨_, _, rfl, rfl, rfl, rfl⟩
  ports t port handler ht hlookup := by
    obtain rfl : transport e = t := by simpa [object?_transport] using ht
    obtain ⟨-, rfl⟩ := lookup_transport hlookup
    cases e <;> rfl

theorem mirrored : Mirrored network stack .short where
  stands := stands
  inboxes e := by cases e <;> decide
  apart e a b key hkey hkey' := by
    have hparity := (listener?_mod hkey).symm.trans (listener?_mod hkey')
    cases e <;> cases hparity
  empty e := by cases e <;> rfl
  timers timer htimer := by
    rcases List.mem_cons.mp htimer with rfl | htimer
    · exact ⟨.near, rfl⟩
    · exact ⟨.far, List.mem_singleton.mp htimer⟩
  holders ref slot hslot := by
    rw [Network.slot?, Option.join_eq_some_iff] at hslot
    obtain ⟨⟨near, far⟩, -, hmem⟩ :=
      List.mem_flatMap.mp (List.mem_toArray.mp (Array.mem_of_getElem? hslot))
    simp only [List.mem_cons, Option.some.injEq, List.not_mem_nil, or_false] at hmem
    rcases hmem with rfl | rfl <;> exact Nat.one_pos
  silent := rfl

/-- The near end sends to a port with a receiver, to one without and to the user
layer, while the far end sends as well. -/
def steps : List Step :=
  [.send .near 10 ⟨.port 5, [0x68, 0x69]⟩, .send .near 12 ⟨.port 6, []⟩, .advance 7,
    .send .far 9 ⟨.user Tag.userFirst, [7]⟩, .send .near 8 ⟨.user Tag.userFirst, []⟩]

theorem transparent_steps : Mirrored network stack .short ∧
    (∀ step ∈ steps, step.IsPossible network.object? stack) ∧
    ∃ record n', Step.performAll (Network.calls (listening fun _ => .ok 0) 4) stack
        (steps ++ [.poll .far]) network = some (record, n') ∧
      Transparent network n' stack .far record := by
  have hpossible : ∀ step ∈ steps, step.IsPossible network.object? stack := by
    intro step hstep
    simp only [steps, List.mem_cons, List.not_mem_nil, or_false] at hstep
    rcases hstep with rfl | rfl | rfl | rfl | rfl
    · exact ⟨trivial, rfl⟩
    · exact ⟨trivial, rfl⟩
    · trivial
    · exact ⟨rfl, _, _, object?_dispatch .far, rfl, rfl⟩
    · exact ⟨rfl, _, _, object?_dispatch .near, rfl, rfl⟩
  exact ⟨mirrored, hpossible, mirrored.transparent _ hpossible .far 0⟩

example : (Step.performAll (Network.calls (listening fun _ => .ok 0) 4) stack
    (steps ++ [.poll .far]) network).map (fun p => p.2.app) =
      some [(1, [0x68, 0x69]), (3, [])] := by
  decide +kernel

end Small

end LinkStack.Stack
