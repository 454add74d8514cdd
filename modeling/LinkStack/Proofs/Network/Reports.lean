import LinkStack.Proofs.Network.Accounts

/-!
Confirmed packets and their reports, over whole runs.

What a run does with the account of a network can be told from its record alone
(`Runs`): a step that accepts nothing leaves the account to what it sees, and a
step that accepts a packet opens it. By induction on this, the reports of a run
are those of the packets that were accepted in it, in order, each with what became
of it in the sights that came later.
-/

namespace LinkStack.Reports

open LinkStack.Frame (Framer Sight Watch Wait)
open Network (Detail Leads)

/-! ### Steps -/

inductive Step where
  /-- A parcel is offered, to a port or to the switch. -/
  | confirm (outlet : Ref) (parcel : Parcel)
  | recv (bytes : Bytes)
  | advance (ticks : Tick)
  deriving DecidableEq, Repr

/-- A step of a run, with its answer and the calls to the application during it. -/
structure Entry where
  step : Step
  reply : Except LayerError Nat
  log : Trace

namespace Step

/-- What is for a port is offered to that port of the port layer, and what is for
another tag to the switch. -/
def IsProper (objects : Ref → Option Object) (s : Switch) : Step → Prop
  | confirm outlet parcel =>
    match parcel.address with
    | .port port => objects outlet = some (.port s.transport port)
    | .user tag => outlet = s.dispatch ∧ Reports.IsProper (.user tag)
  | _ => True

def perform (calls : Calls Trace) (s : Switch) : Step → Act Trace (Except LayerError Nat)
  | confirm outlet parcel => ((calls.layer outlet).sendConfirmed (handed parcel)).run
  | recv bytes => ((calls.layer s.framer).recv bytes).run
  | advance ticks => do
    let _ ← Network.advance calls ticks
    return .ok 0

def record (calls : Calls Trace) (s : Switch) (step : Step) : Act Trace Entry := do
  let before := (← get).app.length
  let reply ← step.perform calls s
  return { step, reply, log := (← get).app.drop before }

/-- What the framing layer sees in a step. -/
def sight (config : Frame.Config) (w : Watch) : Step → Sight × Watch
  | confirm _ _ => ({}, w)
  | recv bytes => w.receive config bytes
  | advance ticks => w.advance config ticks

end Step

/-- What the framing layer sees in a run. -/
def sights (config : Frame.Config) : Watch → List Step → List Sight
  | _, [] => []
  | w, step :: steps => (step.sight config w).1 :: sights config (step.sight config w).2 steps

/-! ### Accepted packets -/

/-- A packet that was accepted, and what was seen after that. -/
structure Sent where
  parcel : Parcel
  wait : Wait
  later : List Sight

namespace Sent

variable (config : Frame.Config) (x : Sent)

/-- What became of a packet in the end, if it has been settled. -/
def status? : Option DeliveryStatus := x.wait.fate config x.later

/-- An acknowledgement with the number of the packet was read before its retries
had run out. -/
def IsAcknowledged : Prop :=
  ∃ earlier sight later, x.later = earlier ++ sight :: later ∧
    (x.wait.after config earlier).isSome ∧ sight.acknowledges x.wait.seq = true

/-- The report about a packet, with the key of who is told. -/
def report? (report? : Parcel → DeliveryStatus → Option (Key × Delivery)) :
    Option (Key × Delivery) :=
  (x.status? config).bind (report? x.parcel)

end Sent

/-- The parcel that was accepted in a step. -/
def Entry.accepted? : Entry → Option Parcel
  | ⟨.confirm _ parcel, .ok _, _⟩ => some parcel
  | _ => none

/-- The packet that was accepted in a step, with the number in the frame that was
written. -/
def Entry.sent? (config : Frame.Config) (now : Tick) (later : List Sight) (entry : Entry) :
    Option Sent := do
  let parcel ← entry.accepted?
  let seq ← number? config entry.log
  return { parcel, wait := { seq, sentAt := now, left := config.maxRetries.toNat }, later }

/-- The packets that were accepted in a run, in order. -/
def sends (config : Frame.Config) : Watch → List Entry → List Sent
  | _, [] => []
  | w, entry :: entries =>
    let w' := (entry.step.sight config w).2
    (entry.sent? config w.now (sights config w' (entries.map Entry.step))).toList ++
      sends config w' entries

section Sends

variable {config : Frame.Config} {w : Watch} {entry : Entry} {entries : List Entry}
  {parcel : Parcel} {seq : UInt8}

/-- Nothing is seen in a confirmed send. -/
theorem sight_of_accepted (h : entry.accepted? = some parcel) :
    entry.step.sight config w = ({}, w) := by
  obtain ⟨step, reply, log⟩ := entry
  cases step with
  | confirm outlet parcel => rfl
  | _ => cases h

theorem sends_of_refused (h : entry.accepted? = none) :
    sends config w (entry :: entries) = sends config (entry.step.sight config w).2 entries := by
  simp [sends, Entry.sent?, h]

theorem sends_of_accepted (h : entry.accepted? = some parcel)
    (hnumber : number? config entry.log = some seq) :
    sends config w (entry :: entries) =
      { parcel, wait := { seq, sentAt := w.now, left := config.maxRetries.toNat },
        later := sights config w (entries.map Entry.step) } :: sends config w entries := by
  simp [sends, Entry.sent?, h, hnumber, sight_of_accepted h]

end Sends

/-! ### What a run does with the account -/

section Accounts

variable {config : Frame.Config} {report? : Parcel → DeliveryStatus → Option (Key × Delivery)}

/-- What a run does with an account. -/
inductive Runs (config : Frame.Config)
    (report? : Parcel → DeliveryStatus → Option (Key × Delivery)) :
    Watch → Account → List Entry → Account → Prop where
  | nil {w : Watch} {a : Account} : Runs config report? w a [] a
  | seen {w : Watch} {a a' : Account} {entry : Entry} {entries : List Entry}
      (hrefused : entry.accepted? = none)
      (h : Runs config report? (entry.step.sight config w).2
        (a.settle config report? (entry.step.sight config w).1) entries a') :
      Runs config report? w a (entry :: entries) a'
  | sent {w : Watch} {a a' : Account} {entry : Entry} {entries : List Entry} {parcel : Parcel}
      {seq : UInt8} (haccepted : entry.accepted? = some parcel)
      (hnumber : number? config entry.log = some seq) (hclosed : a.pending = none)
      (h : Runs config report? w { a with
        pending := some (parcel, { seq, sentAt := w.now, left := config.maxRetries.toNat }) }
        entries a') :
      Runs config report? w a (entry :: entries) a'

namespace Account

/-- The report about the awaited packet that is made in the given sights. -/
def due (config : Frame.Config) (report? : Parcel → DeliveryStatus → Option (Key × Delivery))
    (a : Account) (sights : List Sight) : List (Key × Delivery) :=
  (a.pending.bind fun x => (x.2.fate config sights).bind (report? x.1)).toList

/-- Whether nothing is awaited after the given sights. -/
def Closes (config : Frame.Config) (a : Account) (sights : List Sight) : Prop :=
  ∀ x, a.pending = some x → (x.2.fate config sights).isSome

variable {a : Account} {sight : Sight} {sights : List Sight}

theorem settle_due : (a.settle config report? sight).reports ++
      (a.settle config report? sight).due config report? sights =
    a.reports ++ a.due config report? (sight :: sights) := by
  cases hpending : a.pending with
  | none => rw [settle_none hpending, due, due, hpending]; rfl
  | some x =>
      cases hsee : x.2.see config sight with
      | ok wait =>
          rw [settle_ok hpending hsee, due, due, hpending]
          simp only [Option.bind_some, Wait.fate, hsee]
      | error status =>
          rw [settle_error hpending hsee, due, due, hpending]
          simp [Wait.fate, hsee, Account.report]

theorem closes_settle : (a.settle config report? sight).Closes config sights ↔
    a.Closes config (sight :: sights) := by
  cases hpending : a.pending with
  | none => simp [settle_none hpending, Closes, hpending]
  | some x =>
      cases hsee : x.2.see config sight with
      | ok wait => simp [settle_ok hpending hsee, Closes, hpending, Wait.fate, hsee]
      | error status =>
          simp [settle_error hpending hsee, Closes, hpending, Wait.fate, hsee, Account.report]

end Account

namespace Runs

variable {w : Watch} {a a' : Account} {entries : List Entry}
  (h : Runs config report? w a entries a')

include h

/-- Every packet that was accepted has a number. -/
theorem parcels : (sends config w entries).map Sent.parcel = entries.filterMap Entry.accepted? := by
  induction h with
  | nil => rfl
  | seen hrefused h ih => rw [List.filterMap_cons_none hrefused, sends_of_refused hrefused, ih]
  | sent haccepted hnumber hclosed h ih =>
      rw [List.filterMap_cons_some haccepted, sends_of_accepted haccepted hnumber, List.map_cons, ih]

/-- The reports of a run are those about the packet that was awaited at first and
those that were accepted. -/
theorem reports : a'.reports = a.reports ++
    a.due config report? (sights config w (entries.map Entry.step)) ++
    (sends config w entries).filterMap (Sent.report? config · report?) := by
  induction h with
  | @nil w a =>
      have hdue : a.due config report? [] = [] := by
        cases hpending : a.pending <;> simp [Account.due, hpending, Wait.fate]
      simp [sights, sends, hdue]
  | seen hrefused h ih =>
      rw [ih, Account.settle_due, sends_of_refused hrefused]
      rfl
  | @sent w a a' entry entries parcel seq haccepted hnumber hclosed h ih =>
      -- the account was closed, so what is due from here on is due to this packet
      have hnone (sights : List Sight) : a.due config report? sights = [] := by
        rw [Account.due, hclosed]
        rfl
      let x : Sent :=
        { parcel, wait := { seq, sentAt := w.now, left := config.maxRetries.toNat },
          later := sights config w (entries.map Entry.step) }
      have hdue : ({ a with pending := some (parcel, x.wait) } : Account).due config report?
          x.later = (x.report? config report?).toList := rfl
      rw [ih, sends_of_accepted haccepted hnumber, hnone, hdue, List.filterMap_cons]
      cases x.report? config report? <;> simp

/-- Nothing is awaited after a run exactly if all packets are settled. -/
theorem closed_iff : a'.pending = none ↔
    a.Closes config (sights config w (entries.map Entry.step)) ∧
      ∀ x ∈ sends config w entries, (x.status? config).isSome := by
  induction h with
  | @nil w a => cases hpending : a.pending <;> simp [Account.Closes, hpending, sends, sights, Wait.fate]
  | seen hrefused h ih =>
      rw [ih, Account.closes_settle, sends_of_refused hrefused]
      rfl
  | @sent w a a' entry entries parcel seq haccepted hnumber hclosed h ih =>
      rw [ih, sends_of_accepted haccepted hnumber, List.forall_mem_cons]
      simp [Account.Closes, hclosed, Sent.status?]

end Runs

end Accounts

/-! ### Runs -/

section Networks

variable {plan : Ref → Option Object} {config : Frame.Config} {s : Switch} {m : Manner}
  {levels : Nat} {w : Watch} {a : Account} {d : Detail Trace} (h : s.Stands plan config)
  (hconfig : config.validate = .ok ())

include h

/-- A parcel is offered where it belongs. -/
theorem leads_confirm (hs : State config s.framer w a d) {outlet : Ref} {parcel : Parcel}
    (hstep : (Step.confirm outlet parcel).IsProper plan s) :
    Leads plan (((Network.calls (recording m) (levels + 4)).layer outlet).sendConfirmed
      (handed parcel)).run d (Confirms config s.framer w a parcel d (handed parcel).length) := by
  obtain ⟨address, payload⟩ := parcel
  cases address with
  | port port => exact leads_port_confirm h hs hstep payload
  | user tag =>
      obtain ⟨rfl, hproper⟩ := hstep
      exact leads_dispatch_confirm h hs hproper

include hconfig

/-- A step is one more entry of the record. -/
theorem leads_record (hs : State config s.framer w a d) {step : Step}
    (hstep : step.IsProper plan s) :
    Leads plan (step.record (Network.calls (recording m) (levels + 4)) s) d fun entry d' =>
      entry.step = step ∧ ∃ w' a', State config s.framer w' a' d' ∧ ∀ {entries : List Entry}
        {a'' : Account}, Runs config (s.report? plan) w' a' entries a'' →
          Runs config (s.report? plan) w a (entry :: entries) a'' := by
  refine Leads.get (fun _ _ => rfl) fun n _ hn => ?_
  subst hn
  cases step with
  | confirm outlet parcel =>
      refine Leads.bind ((leads_confirm h hs hstep).mono fun reply d' hreply => ?_)
      refine Leads.get (fun _ _ => rfl) fun n' _ hn' => Leads.pure ⟨rfl, ?_⟩
      subst hn'
      cases reply with
      | error error =>
          -- a confirmed send sees nothing, so that the account stays
          refine ⟨w, a, hreply, fun hruns => .seen rfl ?_⟩
          have hsame : a.settle config (s.report? plan) {} = a :=
            Account.settle_units fun _ _ => rfl
          show Runs config (s.report? plan) w (a.settle config (s.report? plan) {}) _ _
          rwa [hsame]
      | ok size =>
          obtain ⟨-, hclosed, seq, log, happ, hnumber, hs'⟩ := hreply
          refine ⟨w, _, hs', fun hruns => .sent rfl ?_ hclosed hruns⟩
          have hlog : n'.app.drop n.app.length = log :=
            (congrArg (List.drop n.app.length) happ).trans (List.drop_left ..)
          exact (congrArg (number? config) hlog).trans hnumber
  | recv bytes =>
      refine Leads.bind ((leads_recv h hconfig hs bytes).mono fun reply d' hs' => ?_)
      exact Leads.get (fun _ _ => rfl) fun _ _ _ => Leads.pure
        ⟨rfl, _, _, hs', fun hruns => .seen rfl hruns⟩
  | advance ticks =>
      refine Leads.bind (Leads.bind ((leads_advance h hs ticks).mono fun now d' hs' => ?_))
      refine Leads.pure (Leads.get (fun _ _ => rfl) fun _ _ _ => ?_)
      exact Leads.pure
        ⟨rfl, _, _, hs', fun hruns => .seen rfl hruns⟩

/-- The record of a run says what the run does with the account. -/
theorem leads_records (m : Manner) (levels : Nat) {steps : List Step}
    (hsteps : ∀ step ∈ steps, step.IsProper plan s) (hs : State config s.framer w a d) :
    Leads plan (steps.mapM (Step.record (Network.calls (recording m) (levels + 4)) s)) d
      fun entries d' => entries.map Entry.step = steps ∧
        ∃ w' a', Runs config (s.report? plan) w a entries a' ∧ State config s.framer w' a' d' := by
  induction steps generalizing w a d with
  | nil => exact Leads.pure ⟨rfl, w, a, .nil, hs⟩
  | cons step steps ih =>
      obtain ⟨hstep, hrest⟩ := List.forall_mem_cons.mp hsteps
      rw [List.mapM_cons]
      refine Leads.bind ((leads_record h hconfig hs hstep).mono ?_)
      rintro entry d' ⟨rfl, w', a', hs', hcons⟩
      refine Leads.bind ((ih hrest hs').mono ?_)
      rintro entries d'' ⟨rfl, w'', a'', hruns, hs''⟩
      exact Leads.pure ⟨rfl, w'', a'', hcons hruns, hs''⟩

end Networks

/-! ### What a plan shows of a switch -/

section Plan

variable {n : Network Trace} {s : Switch} {config : Frame.Config}

theorem bind_get?_bare {S : Type} (n : Network Trace) (view : View S) [View.Bared view]
    (ref : Ref) : (n.bare ref).bind view.get? =
      ((n.object? ref).bind view.get?).map (View.Bared.bare view) := by
  rw [Network.bare]
  cases n.object? ref with
  | none => rfl
  | some object => exact View.Bared.get?_bare object

theorem bind_custom?_bare (n : Network Trace) (ref : Ref) :
    (n.bare ref).bind Object.custom? = (n.object? ref).bind Object.custom? := by
  rw [Network.bare]
  cases n.object? ref with
  | none => rfl
  | some object => cases object <;> rfl

theorem Switch.target?_bare (s : Switch) (a : Address) :
    s.target? n.bare a = s.target? n.object? a := by
  cases a with
  | port port =>
      simp only [target?, bind_get?_bare]
      cases (n.object? s.transport).bind View.transport.get? <;> rfl
  | user tag =>
      simp only [target?, bind_get?_bare]
      cases (n.object? s.dispatch).bind View.dispatch.get? <;> rfl

theorem Switch.report?_bare (s : Switch) : s.report? n.bare = s.report? n.object? := by
  funext p status
  rw [report?, report?, hearer?, hearer?, target?_bare, Option.bind_assoc, Option.bind_assoc]
  exact congrArg (Option.map _) (Option.bind_congr fun ref _ => bind_custom?_bare n ref)

theorem Switch.Stands.bare (h : s.Stands n.object? config) : s.Stands n.bare config where
  framer := by
    obtain ⟨f, child, key, hf, hconfig, hlinks, hchild, hother⟩ := h.framer
    refine ⟨_, child, key, Network.bare_eq hf, hconfig, hlinks, Network.bare_eq hchild, ?_⟩
    intro other hsome
    rw [Network.bind_listener?_bare]
    exact hother other hsome
  dispatch := by
    obtain ⟨disp, handler, hd, hlinks, hlookup, htarget⟩ := h.dispatch
    exact ⟨_, handler, Network.bare_eq hd, hlinks, hlookup, htarget⟩
  transport := by
    obtain ⟨t, ht, hlinks⟩ := h.transport
    exact ⟨_, Network.bare_eq ht, hlinks⟩
  tags d tag handler hd htag hlookup := by
    obtain ⟨disp, -, hdisp, -⟩ := h.dispatch
    rw [Network.bare_eq hdisp] at hd
    cases hd
    rw [Network.bind_listener?_bare]
    exact h.tags disp tag handler hdisp htag hlookup
  ports t port handler ht hlookup := by
    obtain ⟨transport, htransport, -⟩ := h.transport
    rw [Network.bare_eq htransport] at ht
    cases ht
    rw [Network.bind_listener?_bare]
    exact h.ports transport port handler htransport hlookup

theorem Step.IsProper.bare {step : Step} (h : step.IsProper n.object? s) :
    step.IsProper n.bare s := by
  cases step with
  | confirm outlet parcel =>
      obtain ⟨address, payload⟩ := parcel
      cases address with
      | port port => exact Network.bare_eq h
      | user tag => exact h
  | recv bytes => trivial
  | advance ticks => trivial

end Plan

/-! ### Reports find their senders -/

/-- A framing layer that awaits nothing, below a switch. -/
structure Ready (n : Network Trace) (s : Switch) (f : Framer Ref) : Prop where
  stands : s.Stands n.object? f.config
  framer : n.object? s.framer = some (.framer f)
  config : f.config.validate = .ok ()
  idle : f.outstanding = none
  timers : n.clock.timers = [s.framer]
  held : n.Held

/-- What became of the packets that were accepted in a run, from one network to
another. -/
structure Informs (n n' : Network Trace) (s : Switch) (f : Framer Ref) (entries : List Entry) :
    Prop where
  /-- All packets that were accepted are accounted for, in their order. -/
  accepted : (sends f.config (.of f n.clock.now) entries).map Sent.parcel =
    entries.filterMap Entry.accepted?
  /-- The reports are those about them, one for each that is settled. -/
  reports : told n'.app = told n.app ++ (sends f.config (.of f n.clock.now) entries).filterMap
    (Sent.report? f.config · (s.report? n.object?))
  settled : (n'.read? .framer s.framer).bind (·.outstanding) = none ↔
    ∀ x ∈ sends f.config (.of f n.clock.now) entries, (x.status? f.config).isSome
  acked : ∀ x ∈ sends f.config (.of f n.clock.now) entries,
    x.status? f.config = some .acked ↔ x.IsAcknowledged f.config

/-- In every run of confirmed sends, received bytes and ticks, the reports are
those about the packets that were accepted, in their order. Each is made once, when
the packet is settled, to the layer that its port or its tag is bound to, with what
was offered of it; a packet is reported as acknowledged exactly if it was
acknowledged before its retries had run out. No packet is left without a report
once the framing layer awaits nothing. -/
theorem Ready.informs_senders {n : Network Trace} {s : Switch} {f : Framer Ref}
    (h : Ready n s f) (m : Manner) (levels : Nat) {steps : List Step}
    (hsteps : ∀ step ∈ steps, step.IsProper n.object? s) :
    ∃ entries n', steps.mapM (Step.record (Network.calls (recording m) (levels + 4)) s) n =
        some (entries, n') ∧ entries.map Entry.step = steps ∧ Informs n n' s f entries := by
  have hread : n.read? .framer s.framer = some f := by
    rw [Network.read?, h.framer]
    rfl
  have hstart : State f.config s.framer (.of f n.clock.now)
      { pending := none, reports := told n.app } n.detail :=
    ⟨⟨f, (Network.read?_detail ..).trans hread, rfl, h.idle ▸ .none⟩, h.timers, rfl⟩
  have hproper (step : Step) (hstep : step ∈ steps) : step.IsProper n.bare s :=
    (hsteps step hstep).bare
  have hleads := leads_records h.stands.bare h.config m levels hproper hstart
  obtain ⟨entries, n', hrun, -, -, hsame, w', a', hruns, hs⟩ := hleads.run h.held rfl rfl
  subst hsame
  obtain ⟨g, hg, -, hrel⟩ := hs.framer
  rw [Network.read?_detail] at hg
  refine ⟨entries, n', hrun, rfl, hruns.parcels, ?_, ?_, fun x _ => Wait.fate_eq_acked_iff⟩
  · have htold := hs.told.trans hruns.reports
    rwa [Account.due, Option.bind_none, Option.toList_none, List.append_nil,
      Switch.report?_bare] at htold
  · have hidle : g.outstanding = none ↔ a'.pending = none := by
      generalize g.outstanding = outstanding at hrel
      generalize a'.pending = pending at hrel
      cases hrel <;> simp
    rw [hg, Option.bind_some, hidle, hruns.closed_iff]
    exact and_iff_right fun x hx => by simp at hx

/-! ### A small switch -/

namespace Small

def switch : Switch where
  framer := 0
  dispatch := 1
  transport := 2

def node (name : String) (child parent : Option Ref) : Node Ref :=
  { name, links := some { child, parent } }

def framer : Framer Ref :=
  { node := node "frame" (some 3) (some 1), config := { Frame.Config.short with maxRetries := 1 },
    lastRx := 0 }

def dispatch : Addressing.Dispatch Ref where
  node := node "dispatch" (some 0) none
  table :=
    { bindings := [{ route := .number Tag.port, handler := .layer 2 },
        { route := .number Tag.message, handler := .layer 6 }] }

def transport : Addressing.Transport Ref where
  node := node "transport" (some 1) none
  ports :=
    { bindings := [{ route := .number 1, handler := .layer 4 },
        { route := .number 2, handler := .layer 5 }] }

/-- The child has key 0, the layers of the ports 1 and 2 have these keys, and the
layer of the messages has key 3. -/
def network : Network Trace where
  slots := ([.framer framer, .dispatch dispatch, .transport transport, .custom 0, .custom 1,
    .custom 2, .custom 3, .port 2 1, .port 2 2].map fun object =>
      some { object, holders := 1 }).toArray
  clock := { timers := [0] }
  app := []

theorem stands : switch.Stands network.object? framer.config where
  framer := ⟨_, _, _, rfl, rfl, rfl, rfl, nofun⟩
  dispatch := ⟨_, _, rfl, rfl, rfl, rfl⟩
  transport := ⟨_, rfl, rfl⟩
  tags d tag handler hd htag hlookup := by
    obtain ⟨⟩ : Object.dispatch dispatch = .dispatch d := Option.some.inj hd
    obtain ⟨binding, hfind, rfl⟩ := Option.map_eq_some_iff.mp hlookup
    have hcovers := List.find?_some hfind
    have hmem := List.mem_of_find?_eq_some hfind
    simp only [dispatch, List.mem_cons, List.not_mem_nil, or_false] at hmem
    rcases hmem with rfl | rfl
    · exact absurd (of_decide_eq_true hcovers).symm htag
    · rfl
  ports t port handler ht hlookup := by
    obtain ⟨⟩ : Object.transport transport = .transport t := Option.some.inj ht
    obtain ⟨binding, hfind, rfl⟩ := Option.map_eq_some_iff.mp hlookup
    have hmem := List.mem_of_find?_eq_some hfind
    simp only [transport, List.mem_cons, List.not_mem_nil, or_false] at hmem
    rcases hmem with rfl | rfl <;> rfl

theorem ready : Ready network switch framer where
  stands := stands
  framer := rfl
  config := rfl
  idle := rfl
  timers := rfl
  held := .of_slots rfl

/-- A packet of port 1 is acknowledged while one of port 2 is refused; the second
try of port 2 comes to nothing, and a message is still awaited at the end. -/
def steps : List Step :=
  let ack := Frame.Codec.frame framer.codec (Frame.ackBody 0)
  [.confirm 7 ⟨.port 1, [0x68, 0x69]⟩, .confirm 8 ⟨.port 2, []⟩, .recv (ack.take 3),
    .recv (ack.drop 3), .confirm 8 ⟨.port 2, []⟩, .advance 60, .recv ack, .advance 60,
    .confirm 1 ⟨.user Tag.message, [7]⟩]

/-- The child takes everything. -/
def manner : Manner where
  write _ bytes := .ok bytes.length
  take _ _ packet := .ok packet.length

theorem informs_ports : Ready network switch framer ∧
    (∀ step ∈ steps, step.IsProper network.object? switch) ∧
    ∃ entries n', steps.mapM (Step.record (Network.calls (recording manner) 4) switch) network =
        some (entries, n') ∧ entries.map Entry.step = steps ∧
      Informs network n' switch framer entries := by
  have hproper : ∀ step ∈ steps, step.IsProper network.object? switch := by
    intro step hstep
    simp only [steps, List.mem_cons, List.not_mem_nil, or_false] at hstep
    rcases hstep with rfl | rfl | rfl | rfl | rfl | rfl | rfl | rfl | rfl <;>
      first | exact rfl | exact trivial | exact ⟨rfl, by decide, by decide⟩
  exact ⟨ready, hproper, ready.informs_senders manner 0 hproper⟩

example : (steps.mapM (Step.record (Network.calls (recording manner) 4) switch) network).map
    (fun p => told p.2.app) = some [(1, ⟨.acked, [0x68, 0x69]⟩), (2, ⟨.dropped, []⟩)] := by
  decide +kernel

end Small

end LinkStack.Reports
