import LinkStack.Proofs.Exchange.Operations

/-!
Handlers that call the layer that runs them.

A `Program` is code around a message layer: an application, a neighbour or a handler. It
calls operations of the layer, and what the layer asks of others on the way is answered
by programs again, so that calls nest to any depth. Whenever the code of a handler has
control, that is put on record, with the layer as the handler finds it (`Sighting`).

The layer knows one running message and one priority. Both are set when a handler is
called; when it ends there is no running message any more, and its priority stays. So
the message of a handler cannot be queued, and the handler is told its own priority, as
long as no other handler has been called since (`shielded_iff_calls_eq`).
-/

namespace LinkStack.Exchange

open LinkStack.Catalog (Table Message)

variable {η E α : Type}

/-! ### Programs -/

/-- What a message layer asks of its neighbours. -/
inductive Demand where
  | recv (who : Neighbour) (packet : Bytes)
  | send (who : Neighbour) (packet : Bytes)
  | sendConfirmed (who : Neighbour) (packet : Bytes)
  | capacity (who : Neighbour)
  | alive (who : Neighbour)

abbrev Demand.Answer : Demand → Type
  | recv .. | send .. | sendConfirmed .. => Except LayerError Nat
  | capacity _ => Nat
  | alive _ => Bool

/-- Code that looks at the layer and acts on its surroundings, and calls operations of the
layer. With each call comes what the handlers and the neighbours do during it, which may be
something else each time, and may again call operations. -/
inductive Program (η E : Type) : Type → Type 1 where
  | done {α : Type} (a : α) : Program η E α
  | act {α β : Type} (own : Messenger Neighbour η → Tick → StateM E β)
      (next : β → Program η E α) : Program η E α
  | call {α : Type} (op : Op) (handlers : η → Option Bytes → Program η E (Option Bytes))
      (neighbours : (demand : Demand) → Program η E demand.Answer)
      (next : op.Answer → Program η E α) : Program η E α

/-- The call of a handler: the message and the priority that `invoke` has given to the layer
for it, and how many handlers had been called, this one included. -/
structure Activation (η : Type) where
  handler : η
  running : Option Nat
  priority : Priority
  calls : Nat
  deriving DecidableEq, Repr

/-- What is put on record. -/
inductive Sighting (η : Type) where
  | called (handler : η) (input : Option Bytes)
  /-- The code of a handler has control. So many handlers have been called by now. -/
  | control (activation : Activation η) (calls : Nat) (layer : Messenger Neighbour η)
  deriving DecidableEq, Repr

def Sighting.isCall : Sighting η → Bool
  | called .. => true
  | control .. => false

abbrev Space (η E : Type) := Scene (Messenger Neighbour η) E (Sighting η)

/-- How many handlers have been called. -/
def handlerCalls (s : Space η E) : Nat := s.trace.countP Sighting.isCall

namespace Messenger

/-- Where the layer runs if its neighbours are any actions. -/
def among (limit : Nat) (reply : (demand : Demand) → StateM (Space η E) demand.Answer) :
    Site (StateM (Space η E)) Neighbour (Messenger Neighbour η) where
  get := fun s => (s.layer, s)
  modify f := fun s => ((), s.change f)
  layer who :=
    { name := pure "neighbour"
      recv packet := ExceptT.mk (reply (.recv who packet))
      send packet := ExceptT.mk (reply (.send who packet))
      sendConfirmed packet := ExceptT.mk (reply (.sendConfirmed who packet))
      capacity := reply (.capacity who)
      delivered _ := pure ()
      stats := pure {} }
  alive who := reply (.alive who)
  now := fun s => (s.now, s)
  limit := limit

end Messenger

open Messenger

/-- An operation on the layer of a site. -/
def Op.on {X : Type}
    (site : Site (StateM (Scene (Messenger Neighbour η) E X)) Neighbour (Messenger Neighbour η))
    (call : η → Option Bytes → StateM (Scene (Messenger Neighbour η) E X) (Option Bytes)) :
    (op : Op) → StateM (Scene (Messenger Neighbour η) E X) op.Answer
  | recv packet => (Messenger.recv site packet).run
  | post number priority => fun s =>
    match s.layer.post number priority with
    | .ok g => (.ok (), s.change fun _ => g)
    | .error error => (.error error, s)
  | resend => fun s =>
    ((s.layer.resend s.now).1, s.change fun g => (g.resend s.now).2)
  | schedule => (Messenger.schedule site call).run
  | delivered report => (layer site).delivered report
  | advance ticks => fun s => service site { s with now := s.now + ticks }

/-- Among neighbours that do not call back, this is `Op.run`. -/
theorem Op.on_place (n : Neighbours E) (limit : Nat) (call : Handlers η E) (op : Op) :
    op.on (place n limit) call = op.run n limit call := by
  cases op <;> rfl

/-- The activation of a handler that is called now. -/
def activation (handler : η) (s : Space η E) : Activation η :=
  { handler, running := s.layer.running, priority := s.layer.handlerPriority,
    calls := handlerCalls s }

/-- A handler is called. -/
def activate (handler : η) (input : Option Bytes) : StateM (Space η E) (Activation η) := fun s =>
  let s := s.meet s.around (.called handler input)
  (activation handler s, s)

/-- The code of a handler, if it is one, has control. -/
def sight (frame : Option (Activation η)) : StateM (Space η E) Unit := fun s =>
  match frame with
  | none => ((), s)
  | some activation => ((), s.meet s.around (.control activation (handlerCalls s) s.layer))

/-- Runs a program. The frame is the call of the handler whose code it is. -/
def Program.run (limit : Nat) :
    {α : Type} → Program η E α → Option (Activation η) → StateM (Space η E) α
  | _, done a, frame => do
    sight frame
    return a
  | _, act own next, frame => do
    sight frame
    let found ← fun s => Scene.outside (own s.layer s.now) s
    (next found).run limit frame
  | _, call op handlers neighbours next, frame => do
    sight frame
    let answer ← op.on (among limit fun demand => (neighbours demand).run limit none)
      fun handler input => do
        let activation ← activate handler input
        (handlers handler input).run limit (some activation)
    (next answer).run limit frame

/-- Whatever a message is queued at, the layer stays as it is, and it tells a priority. -/
structure Messenger.Shielded (number : Nat) (priority : Priority) (g : Messenger Neighbour η) :
    Prop where
  post : ∀ q, q ≤ Priority.max → ∃ g', g.post number q = .ok g' ∧ g'.queue = g.queue ∧
    g'.locks = g.locks ∧ g'.inbox = g.inbox
  priority : g.handlerPriority = priority

/-- A handler has control at a moment at which its message is shielded, and at which it is told
the priority it was called at, if no handler has been called after it, and only then. -/
def Sighting.Sound (table : Table η) : Sighting η → Prop
  | called .. => True
  | control activation calls g => ∃ number message, activation.running = some number ∧
      table.get? number = some message ∧ message.handler = some activation.handler ∧
      (g.Shielded number activation.priority ↔ calls = activation.calls)

namespace Messenger

/-! ### Shielded messages -/

variable {ρ : Type} {g g' g'' : Messenger ρ η} {number : Nat} {priority : Priority}

theorem shielded_of_running {g : Messenger Neighbour η} (hrunning : g.running = some number)
    (hpriority : g.handlerPriority = priority) (hlt : number < g.table.size) :
    g.Shielded number priority := by
  refine ⟨fun q hq => ⟨g, ?_, rfl, rfl, rfl⟩, hpriority⟩
  rw [post, if_neg (Nat.not_le.mpr hlt), if_neg (Nat.not_lt.mpr hq), if_pos hrunning]

/-- A message that does not run can be taken out of the queue if it is queued, and can send its
descriptor if it is not. -/
theorem not_shielded {g : Messenger Neighbour η} (hrunning : g.running ≠ some number)
    (hlevels : g.queue.levels.length = g.table.size) (hlt : number < g.table.size) :
    ¬ g.Shielded number priority := by
  intro hshielded
  by_cases hclear : g.queue.level number = .clear
  · obtain ⟨g', hpost, hqueue, -, -⟩ := hshielded.post .description (by decide)
    have hpushed : g.post number .description = .ok (g.push number .description) := by
      rw [post, if_neg (Nat.not_le.mpr hlt), if_neg (by decide), if_neg hrunning,
        if_neg (by decide), if_neg (fun hlocked => hlocked.2 (by decide))]
    rw [hpushed] at hpost
    obtain rfl := Except.ok.inj hpost
    have hlevel : (g.push number .description).queue.level number = .description := by
      rw [push, Outbound.level_push (hlevels ▸ hlt), if_pos rfl, hclear]
      rfl
    rw [hqueue, hclear] at hlevel
    exact absurd hlevel (by decide)
  · obtain ⟨g', hpost, hqueue, -, -⟩ := hshielded.post .clear (by decide)
    have hremoved : g.post number .clear = .ok ((({ g with queue := g.queue.remove number } :
        Messenger Neighbour η).unlock number).discard number) := by
      rw [post, if_neg (Nat.not_le.mpr hlt), if_neg (by decide), if_neg hrunning, if_pos rfl]
    rw [hremoved] at hpost
    obtain rfl := Except.ok.inj hpost
    have hlevel : (g.queue.remove number).level number = .clear := by
      rw [Outbound.level_remove, if_pos rfl]
    rw [queue_discard] at hqueue
    change g.queue.remove number = g.queue at hqueue
    rw [hqueue] at hlevel
    exact hclear hlevel

/-! ### Changes that do not disturb a handler -/

/-- The running message and its priority stay, and the size of the queue. -/
structure Undisturbed (g g' : Messenger ρ η) : Prop where
  running : g'.running = g.running
  priority : g'.handlerPriority = g.handlerPriority
  table : g'.table = g.table
  levels : g'.queue.levels.length = g.queue.levels.length

namespace Undisturbed

theorem trans (h : Undisturbed g g') (h' : Undisturbed g' g'') : Undisturbed g g'' where
  running := h'.running.trans h.running
  priority := h'.priority.trans h.priority
  table := h'.table.trans h.table
  levels := h'.levels.trans h.levels

theorem of_edits (h : Edits g g') : Undisturbed g g' := by
  induction h with
  | refl => exact ⟨rfl, rfl, rfl, rfl⟩
  | tail _ hedit ih =>
      refine ih.trans ?_
      cases hedit with
      | push => exact ⟨rfl, rfl, rfl, Outbound.length_levels_push⟩
      | remove => exact ⟨rfl, rfl, rfl, Outbound.length_levels_remove⟩
      | locks => exact ⟨rfl, rfl, rfl, rfl⟩
      | inbox => exact ⟨rfl, rfl, rfl, rfl⟩
      | stats => exact ⟨rfl, rfl, rfl, rfl⟩

theorem pop {entry : Entry} {queue : Outbound} (h : g.queue.pop = some (entry, queue)) :
    Undisturbed g { g with queue } := by
  refine ⟨rfl, rfl, rfl, ?_⟩
  rw [Outbound.pop] at h
  split at h
  · simp at h
  · simp only [Option.some.injEq, Prod.mk.injEq] at h
    rw [← h.2]
    exact List.length_set

end Undisturbed

end Messenger

/-! ### What a call leaves to the handler that made it -/

/-- The catalog is the given one, with a level for every message, and the record is sound. -/
structure Attested (table : Table η) (s : Space η E) : Prop where
  catalog : s.layer.table = table
  levels : s.layer.queue.levels.length = table.size
  sound : ∀ sighting ∈ s.trace, sighting.Sound table

/-- Between two moments of its own code, a handler finds what it knew if no handler has been
called, and no running message otherwise. -/
structure Resumes (s s' : Space η E) : Prop where
  calls : handlerCalls s ≤ handlerCalls s'
  undisturbed : handlerCalls s' = handlerCalls s →
    s'.layer.running = s.layer.running ∧ s'.layer.handlerPriority = s.layer.handlerPriority
  disturbed : handlerCalls s < handlerCalls s' → s'.layer.running = none

/-- An action after which a handler can go on. -/
abbrev Resumable (table : Table η) (act : StateM (Space η E) α) : Prop :=
  Follows (Attested table) id Resumes act

/-- The layer has just been told to run a message that has the given handler. -/
def Serving (table : Table η) (handler : η) (g : Messenger Neighbour η) : Prop :=
  ∃ number message, g.running = some number ∧ table.get? number = some message ∧
    message.handler = some handler

section Records

variable {table : Table η} {s s' s'' : Space η E}

theorem Resumes.of_eq (hlayer : s'.layer = s.layer) (hhistory : s'.history = s.history) :
    Resumes s s' := by
  have hcalls : handlerCalls s' = handlerCalls s := by
    rw [handlerCalls, Scene.trace, hhistory]
    rfl
  exact ⟨Nat.le_of_eq hcalls.symm, fun _ => hlayer ▸ ⟨rfl, rfl⟩,
    fun h => absurd hcalls (Nat.ne_of_gt h)⟩

theorem Resumes.refl (s : Space η E) : Resumes s s := of_eq rfl rfl

theorem Resumes.trans (h : Resumes s s') (h' : Resumes s' s'') : Resumes s s'' := by
  have hle := h.calls
  have hle' := h'.calls
  refine ⟨Nat.le_trans hle hle', fun hsame => ?_, fun hmore => ?_⟩
  · obtain ⟨hrunning, hpriority⟩ := h.undisturbed (by omega)
    obtain ⟨hrunning', hpriority'⟩ := h'.undisturbed (by omega)
    exact ⟨hrunning'.trans hrunning, hpriority'.trans hpriority⟩
  · rcases Nat.lt_or_eq_of_le hle' with hlater | hlater
    · exact h'.disturbed hlater
    · rw [(h'.undisturbed hlater.symm).1]
      exact h.disturbed (by omega)

theorem resumes_of_steps (h : Relation.ReflTransGen Resumes s s') : Resumes s s' := by
  induction h with
  | refl => exact .refl s
  | tail _ hlast ih => exact ih.trans hlast

theorem handlerCalls_meet (around : E) (sighting : Sighting η) :
    handlerCalls (s.meet around sighting) =
      handlerCalls s + if sighting.isCall then 1 else 0 := by
  rw [handlerCalls, Scene.trace_meet, List.countP_append, List.countP_singleton]
  rfl

theorem handlerCalls_change (f : Messenger Neighbour η → Messenger Neighbour η) :
    handlerCalls (s.change f) = handlerCalls s := by
  rw [handlerCalls, Scene.trace_change]
  rfl

theorem Resumes.change {f : Messenger Neighbour η → Messenger Neighbour η}
    (h : Undisturbed s.layer (f s.layer)) : Resumes s (s.change f) := by
  have hcalls := handlerCalls_change (s := s) f
  exact ⟨Nat.le_of_eq hcalls.symm, fun _ => ⟨h.running, h.priority⟩, fun hmore => by omega⟩

theorem Attested.change (hs : Attested table s)
    {f : Messenger Neighbour η → Messenger Neighbour η} (htable : (f s.layer).table = s.layer.table)
    (hlevels : (f s.layer).queue.levels.length = s.layer.queue.levels.length) :
    Attested table (s.change f) := by
  refine ⟨htable.trans hs.catalog, hlevels.trans hs.levels, ?_⟩
  rw [Scene.trace_change]
  exact hs.sound

theorem Attested.meet (hs : Attested table s) (around : E) {sighting : Sighting η}
    (hsound : sighting.Sound table) : Attested table (s.meet around sighting) := by
  refine ⟨hs.catalog, hs.levels, ?_⟩
  rw [Scene.trace_meet]
  exact List.forall_mem_append.mpr ⟨hs.sound, List.forall_mem_singleton.mpr hsound⟩

end Records

/-! ### Operations -/

namespace Messenger

section Operations

variable {table : Table η} {limit : Nat} {s : Space η E}
  {reply : (demand : Demand) → StateM (Space η E) demand.Answer}

theorem among_get_run : (among limit reply).get s = (s.layer, s) := rfl

theorem among_modify_run (f : Messenger Neighbour η → Messenger Neighbour η) :
    (among limit reply).modify f s = ((), s.change f) :=
  rfl

theorem resumable_change (hs : Attested table s) {f : Messenger Neighbour η → Messenger Neighbour η}
    (h : Undisturbed s.layer (f s.layer)) :
    Attested table (s.change f) ∧ Relation.ReflTransGen Resumes s (s.change f) :=
  ⟨hs.change h.table h.levels, .single (.change h)⟩

variable (limit reply) in
theorem resumable_modify {f : Messenger Neighbour η → Messenger Neighbour η}
    (hf : ∀ g, Edits g (f g)) : Resumable table ((among limit reply).modify f) :=
  fun s hs => resumable_change hs (.of_edits (hf s.layer))

/-- A change and an answer. -/
theorem resumable_settle {f : Messenger Neighbour η → Messenger Neighbour η}
    (hf : ∀ g, Edits g (f g)) (a : α) :
    Resumable table (do
      (among limit reply).modify f
      return a) :=
  (resumable_modify limit reply hf).bind fun _ => .pure a

theorem resumable_look : Resumable table (among limit reply).get :=
  fun _ hs => ⟨hs, .refl⟩

/-- What has been done already, and what is left to do. -/
theorem resumable_after {act : StateM (Space η E) α} {s₁ : Space η E}
    (hsteps : Attested table s₁ ∧ Relation.ReflTransGen Resumes s s₁)
    (hact : Resumable table act) :
    Attested table (act s₁).2 ∧ Relation.ReflTransGen Resumes s (act s₁).2 :=
  ⟨(hact s₁ hsteps.1).1, hsteps.2.trans (hact s₁ hsteps.1).2⟩

theorem resumable_unless {c : Prop} [Decidable c] {first : StateM (Space η E) Unit}
    {rest : Unit → StateM (Space η E) α} (hfirst : Resumable table first)
    (hrest : ∀ a, Resumable table (rest a)) :
    Resumable table (if c then first >>= rest else rest ()) := by
  split
  · exact hfirst.bind hrest
  · exact hrest ()

theorem resumable_now : Resumable table (among limit reply).now :=
  fun _ hs => ⟨hs, .refl⟩

/-- The child is one of the neighbours. -/
theorem resumable_child {f : Layer (StateM (Space η E)) → ExceptT LayerError (StateM (Space η E)) α}
    (hf : ∀ who, Resumable table (f ((among limit reply).layer who)).run) :
    Resumable table ((among limit reply).child Messenger.node >>= f).run := by
  intro s hs
  cases hchild : s.layer.node.child with
  | error error =>
      have hrun : ((among limit reply).child Messenger.node).run s = (.error error, s) := by
        rw [Site.child_run among_get_run, hchild]
        rfl
      rw [bind_run_error hrun]
      exact ⟨hs, .refl⟩
  | ok who =>
      have hrun : ((among limit reply).child Messenger.node).run s =
          (.ok ((among limit reply).layer who), s) := Site.child_run_ok among_get_run hchild
      rw [bind_run_ok hrun]
      exact hf who s hs

/-! What an operation does if a handler can go on after each answer of a neighbour, and if every
handler is put on record when it is called. -/

variable (hreply : ∀ demand, Resumable table (reply demand))
  {call : η → Option Bytes → StateM (Space η E) (Option Bytes)}
  (hcall : ∀ handler input s, Attested table s → Serving table handler s.layer →
    Attested table (call handler input s).2 ∧
      handlerCalls s < handlerCalls (call handler input s).2)

include hreply

/-- Of the parent, too, nothing has to be known. -/
theorem resumable_parent?
    {f : Option (Layer (StateM (Space η E))) → ExceptT LayerError (StateM (Space η E)) α}
    (hnone : Resumable table (f none).run)
    (hsome : ∀ who, Resumable table (f (some ((among limit reply).layer who))).run) :
    Resumable table ((among limit reply).parent? Messenger.node >>= f).run := by
  intro s hs
  cases hlinks : s.layer.node.linked with
  | error error =>
      have hrun : ((among limit reply).parent? Messenger.node).run s = (.error error, s) := by
        rw [Site.parent?, bind_run_ok (lift_run among_get_run), bind_run_error (answer_run hlinks)]
      rw [bind_run_error hrun]
      exact ⟨hs, .refl⟩
  | ok links =>
      cases hparent : links.parent with
      | none =>
          have hrun : ((among limit reply).parent? Messenger.node).run s = (.ok none, s) := by
            rw [Site.parent?, bind_run_ok (lift_run among_get_run), bind_run_ok (answer_run hlinks),
              hparent]
            rfl
          rw [bind_run_ok hrun]
          exact hnone s hs
      | some who =>
          have hrun : ((among limit reply).parent? Messenger.node).run s =
              (.ok (if (reply (.alive who) s).1 then
                some ((among limit reply).layer who) else none), (reply (.alive who) s).2) := by
            rw [Site.parent?, bind_run_ok (lift_run among_get_run), bind_run_ok (answer_run hlinks),
              hparent]
            rfl
          rw [bind_run_ok hrun]
          refine resumable_after (hreply (.alive who) s hs) ?_
          split
          · exact hsome who
          · exact hnone

variable (who : Neighbour)

theorem resumable_emit (flags : Nat) (data : Bytes) (confirmed : Bool) :
    Resumable table
      (emit (among limit reply) ((among limit reply).layer who) flags data confirmed) := by
  refine (hreply (.capacity who)).bind fun room => ?_
  split
  · exact .pure _
  split
  · exact resumable_settle (fun g => .count g _) _
  have hsent : Resumable table ((if confirmed then ((among limit reply).layer who).sendConfirmed
      else ((among limit reply).layer who).send) (packet flags data)).run := by
    cases confirmed
    · exact hreply (.send who _)
    · exact hreply (.sendConfirmed who _)
  refine hsent.bind fun answer => ?_
  split
  · split
    · exact resumable_settle (fun g => .count g _) _
    · exact .pure _
  · exact .pure _
  · exact resumable_settle (fun g => .count g _) _

theorem resumable_sendDescriptor (number : Nat) (text : Bytes) :
    Resumable table
      (sendDescriptor (among limit reply) ((among limit reply).layer who) number text) := by
  refine (resumable_emit hreply who _ _ _).bind fun step => ?_
  split
  · exact resumable_settle (fun g => (Edits.unlock g _).trans (Edits.push _ _ _)) _
  · exact .pure _

theorem resumable_sendQuery (number : Nat) :
    Resumable table (sendQuery (among limit reply) ((among limit reply).layer who) number) := by
  refine Follows.bind resumable_look fun g => ?_
  split
  · exact resumable_settle (fun g => .push g _ _) _
  refine (resumable_emit hreply who _ _ _).bind fun step => ?_
  split
  · exact resumable_now.bind fun now => resumable_settle (fun g => .arm g _ _ _) _
  · exact .pure _

theorem resumable_recv (packet : Bytes) :
    Resumable table (recv (among limit reply) packet).run := by
  have hcounted (event : Traffic) (size : Nat) : Resumable table (do
      (among limit reply).modify (·.count event)
      return size : ExceptT LayerError (StateM (Space η E)) Nat).run :=
    .except_bind (.except_lift (resumable_modify limit reply fun g => .count g event))
      fun _ => .pure _
  unfold recv
  refine Follows.except_bind ?_ fun _ => ?_
  · exact .except_bind (.except_lift resumable_look)
      fun g => .except_bind (.pure _) fun _ => .pure _
  rcases packet with _ | ⟨tag, _ | ⟨flags, data⟩⟩
  · exact hcounted .rxError 0
  · exact hcounted .rxError 0
  simp only
  split
  · intro s hs
    have htaken := resumable_change hs (f := (·.taken (tag :: flags :: data) flags data))
      (.of_edits (.taken s.layer _ flags data))
    rw [bind_run_ok (lift_run among_get_run), bind_run_ok (lift_run (among_modify_run _))]
    refine resumable_after htaken ?_
    refine resumable_parent? hreply (.pure _) fun who => ?_
    exact .except_bind (hreply (.recv who _)) fun _ => .pure _
  · exact hcounted .rxError 0

include hcall

omit hreply in
/-- A handler is run in place of the one that runs, so that it is the last to set the running
message and the priority. -/
theorem resumable_invoke (number : Nat) (priority : Priority) :
    Resumable table (invoke (among limit reply) call number priority) := by
  intro s hs
  rw [invoke, bind_run_eq among_get_run]
  cases hmessage : s.layer.table.get? number with
  | none => exact ⟨hs, .refl⟩
  | some message =>
      have hdiscarded := resumable_change hs (f := (·.discard number))
        (.of_edits (.discard s.layer number))
      simp only
      rw [bind_run_eq (among_modify_run _)]
      cases hhandler : message.handler with
      | none => exact hdiscarded
      | some handler =>
          simp only
          rw [bind_run_eq (among_modify_run _)]
          generalize (if s.layer.holds number then s.layer.inbox.map (·.data) else none) = input
          generalize hserved : (s.change (·.discard number)).change (fun g =>
            { g with running := some number, handlerPriority := priority }) = s₁
          have hserving : Serving table handler s₁.layer :=
            ⟨number, message, hserved ▸ rfl, hs.catalog ▸ hmessage, hhandler⟩
          have hcalls : handlerCalls s₁ = handlerCalls s := by
            rw [← hserved, handlerCalls_change, handlerCalls_change]
          have hanswered := hcall handler input s₁ (hserved ▸ hdiscarded.1.change rfl rfl) hserving
          generalize hanswer : call handler input s₁ = answered at hanswered
          obtain ⟨output, s₂⟩ := answered
          obtain ⟨hafter, hmore⟩ := hanswered
          rw [bind_run_eq hanswer, bind_run_eq (among_modify_run _)]
          have hcalls₂ := handlerCalls_change (s := s₂) fun g => { g with running := none }
          -- whatever the handler did, it has been counted, and leaves no message running
          have hlast : Attested table (s₂.change fun g => { g with running := none }) :=
            hafter.change rfl rfl
          simp only at hmore
          have hresumes : Resumes s (s₂.change fun g => { g with running := none }) :=
            ⟨by omega, fun hsame => absurd hsame (by omega), fun _ => rfl⟩
          exact ⟨hlast, .single hresumes⟩

theorem resumable_sendArgs (number : Nat) (priority : Priority) (size : Nat) :
    Resumable table (sendArgs (among limit reply) call ((among limit reply).layer who) number
      priority size) := by
  refine resumable_unless (resumable_modify limit reply fun g => .unlock g _) fun _ => ?_
  refine (hreply (.capacity who)).bind fun room => ?_
  split
  · exact resumable_settle (fun g => (Edits.count g _).trans (Edits.discard _ _)) _
  refine (resumable_invoke hcall _ _).bind fun output => ?_
  cases output with
  | none => exact .pure _
  | some args =>
      simp only
      split
      · exact resumable_settle (fun g => .count g _) _
      refine (resumable_emit hreply who _ _ _).bind fun step => ?_
      split
      · exact resumable_now.bind fun now => resumable_settle (fun g => .arm g _ _ _) _
      · exact .pure _

theorem resumable_perform (entry : Entry) :
    Resumable table
      (perform (among limit reply) call ((among limit reply).layer who) entry) := by
  refine Follows.bind resumable_look fun g => ?_
  split
  · exact .pure _
  split
  · exact resumable_sendDescriptor hreply who _ _
  split
  · exact resumable_sendQuery hreply who _
  split
  · refine (resumable_modify limit reply fun g => .unlock g _).bind fun _ => ?_
    exact (resumable_invoke hcall _ _).bind fun _ => .pure _
  · exact resumable_sendArgs hreply hcall who _ _ _

theorem resumable_sendQueued (turns sent : Nat) :
    Resumable table
      (sendQueued (among limit reply) call ((among limit reply).layer who) turns sent) := by
  induction turns generalizing sent with
  | zero => exact .pure _
  | succ turns ih =>
      refine (hreply (.capacity who)).bind fun room => ?_
      split
      · exact .pure _
      intro s hs
      rw [bind_run_eq among_get_run]
      cases hpop : s.layer.queue.pop with
      | none => exact ⟨hs, .refl⟩
      | some popped =>
          obtain ⟨entry, queue⟩ := popped
          simp only
          rw [bind_run_eq (among_modify_run _)]
          refine resumable_after (resumable_change hs (.pop hpop)) ?_
          refine (resumable_perform hreply hcall who entry).bind fun step => ?_
          cases step with
          | sent => exact ih _
          | quiet => exact ih _
          | stalled =>
              exact resumable_settle (fun g => .push g _ _) _

theorem resumable_schedule :
    Resumable table (schedule (among limit reply) call).run := by
  refine resumable_child fun who => ?_
  refine Follows.except_bind (.except_lift resumable_now) fun now => ?_
  refine Follows.except_bind
    (.except_lift (resumable_modify limit reply fun g => .expire g now)) fun _ => ?_
  refine Follows.except_bind (.except_lift resumable_look) fun g => ?_
  exact .except_lift (resumable_sendQueued hreply hcall who _ _)

/-- Whatever operation is called, a handler can go on after it. -/
theorem resumable_on (op : Op) : Resumable table (op.on (among limit reply) call) := by
  cases op with
  | recv packet => exact resumable_recv hreply packet
  | post number priority =>
      intro s hs
      cases hpost : s.layer.post number priority with
      | error error =>
          have hrun : (Op.post number priority).on (among limit reply) call s =
              (.error error, s) := by
            simp only [Op.on, hpost]
          rw [hrun]
          exact ⟨hs, .refl⟩
      | ok g =>
          have hrun : (Op.post number priority).on (among limit reply) call s =
              (.ok (), s.change fun _ => g) := by
            simp only [Op.on, hpost]
          rw [hrun]
          exact resumable_change hs (f := fun _ => g) (.of_edits (.post hpost))
  | resend =>
      exact fun s hs => resumable_change hs (f := fun g => (g.resend s.now).2)
        (.of_edits (.resend _ _))
  | schedule => exact resumable_schedule hreply hcall
  | delivered report => exact resumable_modify limit reply fun g => .onDelivered g report
  | advance ticks =>
      intro s hs
      have hlater : Attested table { s with now := s.now + ticks } :=
        ⟨hs.catalog, hs.levels, hs.sound⟩
      have hexpired := resumable_change hlater (f := (·.expire (s.now + ticks)))
        (.of_edits (.expire _ _))
      have hstep : Resumes s { s with now := s.now + ticks } := .of_eq rfl rfl
      exact ⟨hexpired.1, .head hstep hexpired.2⟩

end Operations

end Messenger

/-! ### Running programs -/

/-- A handler was called in some state, and since then there were only steps after which it can
go on. -/
def Activation.Continues (table : Table η) (a : Activation η) (s : Space η E) : Prop :=
  ∃ s₀ : Space η E, a = activation a.handler s₀ ∧ Serving table a.handler s₀.layer ∧ Resumes s₀ s

section Programs

variable {table : Table η} {frame : Option (Activation η)}

theorem Activation.Continues.trans {a : Activation η} {s s' : Space η E}
    (h : a.Continues table s) (hsteps : Relation.ReflTransGen Resumes s s') :
    a.Continues table s' := by
  obtain ⟨s₀, hactivation, hserving, hresumes⟩ := h
  exact ⟨s₀, hactivation, hserving, hresumes.trans (resumes_of_steps hsteps)⟩

/-- What a handler sees is sound. -/
theorem Activation.Continues.sound {a : Activation η} {s : Space η E} (h : a.Continues table s)
    (hs : Attested table s) : (Sighting.control a (handlerCalls s) s.layer).Sound table := by
  obtain ⟨s₀, hactivation, ⟨number, message, hrunning, hmessage, hhandler⟩, hresumes⟩ := h
  have hcalls : a.calls = handlerCalls s₀ := by rw [hactivation]; rfl
  have hpriority : a.priority = s₀.layer.handlerPriority := by rw [hactivation]; rfl
  have hlt : number < s.layer.table.size := hs.catalog ▸ lt_size_of_get? hmessage
  refine ⟨number, message, ?_, hmessage, hhandler, ?_⟩
  · rw [hactivation]
    exact hrunning
  rw [hcalls]
  by_cases hsame : handlerCalls s = handlerCalls s₀
  · obtain ⟨hstill, hpriority'⟩ := hresumes.undisturbed hsame
    have hshielded : s.layer.Shielded number a.priority :=
      shielded_of_running (hstill.trans hrunning) (hpriority'.trans hpriority.symm) hlt
    exact iff_of_true hshielded hsame
  · have hnone := hresumes.disturbed (Nat.lt_of_le_of_ne hresumes.calls (Ne.symm hsame))
    have hexposed : ¬ s.layer.Shielded number a.priority := by
      refine not_shielded ?_ (hs.catalog ▸ hs.levels) hlt
      rw [hnone]
      nofun
    exact iff_of_false hexposed hsame

/-- A program runs on a sound record, in the handler it is the code of. -/
abbrev Going (table : Table η) (frame : Option (Activation η)) (s : Space η E) : Prop :=
  Attested table s ∧ ∀ a ∈ frame, a.Continues table s

theorem follows_of_resumable {act : StateM (Space η E) α} (h : Resumable table act) :
    Follows (Going table frame) id Resumes act := by
  intro s ⟨hs, hframe⟩
  obtain ⟨hafter, hsteps⟩ := h s hs
  exact ⟨⟨hafter, fun a ha => (hframe a ha).trans hsteps⟩, hsteps⟩

theorem follows_sight :
    Follows (Going table frame) id Resumes (sight frame : StateM (Space η E) Unit) := by
  intro s ⟨hs, hframe⟩
  cases frame with
  | none => exact ⟨⟨hs, hframe⟩, .refl⟩
  | some a =>
      have hsound := (hframe a rfl).sound hs
      have hcalls := handlerCalls_meet (s := s) s.around (.control a (handlerCalls s) s.layer)
      have hstep : Resumes s (s.meet s.around (.control a (handlerCalls s) s.layer)) :=
        ⟨Nat.le_of_eq hcalls.symm, fun _ => ⟨rfl, rfl⟩, fun h => absurd hcalls (Nat.ne_of_gt h)⟩
      exact ⟨⟨hs.meet _ hsound, fun a ha => (hframe a ha).trans (.single hstep)⟩, .single hstep⟩

variable (table) in
/-- Running a program keeps the record sound, and leaves a handler able to go on. -/
theorem follows_run (limit : Nat) (program : Program η E α) (frame : Option (Activation η)) :
    Follows (Going table frame) id Resumes (program.run limit frame) := by
  -- each part of a program is run in a frame of its own: the rest in the same one, a neighbour
  -- in none, and a handler in that of its call
  induction program generalizing frame with
  | done a => exact follows_sight.bind fun _ => .pure _
  | act own next ih =>
      refine follows_sight.bind fun _ => Follows.bind (follows_of_resumable ?_) fun found => ih _ _
      exact fun s hs => ⟨⟨hs.catalog, hs.levels, hs.sound⟩, .single (.of_eq rfl rfl)⟩
  | call op handlers neighbours next ihhandlers ihneighbours ihnext =>
      refine follows_sight.bind fun _ => Follows.bind (follows_of_resumable ?_) fun answer =>
        ihnext _ _
      refine resumable_on (fun demand s hs => ?_) (fun handler input s hs hserving => ?_) op
      · obtain ⟨⟨hafter, -⟩, hsteps⟩ := ihneighbours demand none s ⟨hs, nofun⟩
        exact ⟨hafter, hsteps⟩
      · -- the handler is counted before its code has control
        have hcalled : Attested table (s.meet s.around (.called handler input)) :=
          hs.meet _ trivial
        have hcalls : handlerCalls (s.meet s.around (.called handler input)) =
            handlerCalls s + 1 :=
          handlerCalls_meet s.around (.called handler input)
        have hcontinues : ∀ a ∈ some (activation handler (s.meet s.around (.called handler input))),
            a.Continues table (s.meet s.around (.called handler input)) := by
          rintro a ⟨⟩
          exact ⟨_, rfl, hserving, .refl _⟩
        obtain ⟨⟨hafter, -⟩, hsteps⟩ := ihhandlers handler input _ _ ⟨hcalled, hcontinues⟩
        have hmore := (resumes_of_steps hsteps).calls
        rw [id, hcalls] at hmore
        exact ⟨hafter, hmore⟩

end Programs

/-- Whatever is done with a message layer, and whatever its handlers and neighbours do while it
calls them: whenever the code of a handler has control, its message is shielded and the layer
tells the priority it was called at exactly if no handler has been called after it. -/
theorem shielded_iff_calls_eq (table : Table η) (config : Config) (parent : Option Neighbour)
    (limit : Nat) (program : Program η E α) (around : E) (now : Tick) {a : Activation η}
    {calls : Nat} {g : Messenger Neighbour η}
    (hsighting : Sighting.control a calls g ∈
      (program.run limit none ⟨.begun table config parent, around, now, []⟩).2.trace) :
    ∃ number message, a.running = some number ∧ table.get? number = some message ∧
      message.handler = some a.handler ∧ (g.Shielded number a.priority ↔ calls = a.calls) := by
  have hstart : Attested table
      (⟨.begun table config parent, around, now, []⟩ : Space η E) :=
    ⟨rfl, (stands_begun table config parent).tidy.levels, List.forall_mem_nil _⟩
  obtain ⟨⟨hafter, -⟩, -⟩ := follows_run table limit program none _ ⟨hstart, nofun⟩
  exact hafter.sound _ hsighting

/-! ### A handler that schedules -/

section Nested

/-- A catalog of which two messages have handlers. -/
def twoHandlers : Catalog.Draft Bool where
  slots := [some { descriptor := "a", size := 0, handler := some false, priority := 0 },
    some { descriptor := "b", size := 0, handler := some true, priority := 0 },
    some { descriptor := "%!", size := 0, handler := none, priority := 0 }]
  used := 3

def twoHandlersTable : Table Bool where
  messages := [
    { descriptor := { source := "a", tokens := [.literal "a"] }, size := 0, handler := some false,
      priority := 0 },
    { descriptor := { source := "b", tokens := [.literal "b"] }, size := 0, handler := some true,
      priority := 0 },
    { descriptor := { source := "%!", tokens := [.terminator] }, size := 0, handler := none,
      priority := 0 }]

theorem finish_twoHandlers : twoHandlers.finish = .ok twoHandlersTable := by
  with_unfolding_all rfl

/-- Neighbours that have room and take everything. -/
def Demand.granted : (demand : Demand) → Program Bool Unit demand.Answer
  | .recv _ packet | .send _ packet | .sendConfirmed _ packet => .done (.ok packet.length)
  | .capacity _ => .done 256
  | .alive _ => .done true

/-- Both messages are queued, and the handler of the first schedules. -/
def scheduling : Program Bool Unit (Except LayerError Nat) :=
  let quiet : Bool → Option Bytes → Program Bool Unit (Option Bytes) := fun _ _ => .done (some [])
  .call (.post 0 .highest) quiet Demand.granted fun _ =>
  .call (.post 1 .highest) quiet Demand.granted fun _ =>
  .call .schedule (fun handler _ =>
    if handler then .done (some [])
    else .call .schedule quiet Demand.granted fun _ => .done (some [])) Demand.granted .done

def scheduled : List (Sighting Bool) :=
  (scheduling.run 0 none ⟨.begun twoHandlersTable {} none, (), 0, []⟩).2.trace

/-- How many handlers had been called when the one that has control was, and how many by now. -/
def Sighting.calls? : Sighting η → Option (Nat × Nat)
  | called .. => none
  | control activation calls _ => some (activation.calls, calls)

/-- The message of the handler that has control can be queued. -/
def Sighting.exposes (priority : Priority) : Sighting η → Bool
  | called .. => false
  | control activation _ g =>
    match activation.running.map (g.post · priority) with
    | some (.ok g') => g'.queue ≠ g.queue
    | _ => false

theorem calls_scheduled : scheduled.filterMap Sighting.calls? = [(1, 1), (2, 2), (1, 2)] := by
  decide +kernel

theorem exists_of_mem_calls {a calls : Nat} (h : (a, calls) ∈ scheduled.filterMap Sighting.calls?) :
    ∃ activation g, Sighting.control activation calls g ∈ scheduled ∧ activation.calls = a := by
  obtain ⟨sighting, hmem, hcalls⟩ := List.mem_filterMap.mp h
  cases sighting with
  | called => cases hcalls
  | control activation calls g =>
      cases hcalls
      exact ⟨activation, g, hmem, rfl⟩

/-- The handler that schedules is shielded before it does, and not after it. -/
theorem shielded_scheduled :
    (∃ a g, Sighting.control a 1 g ∈ scheduled ∧ a.calls = 1 ∧
      ∃ number, a.running = some number ∧ g.Shielded number a.priority) ∧
    ∃ a g, Sighting.control a 2 g ∈ scheduled ∧ a.calls = 1 ∧
      ∃ number, a.running = some number ∧ ¬ g.Shielded number a.priority := by
  constructor
  · obtain ⟨a, g, hmem, hcalls⟩ := exists_of_mem_calls
      (show (1, 1) ∈ scheduled.filterMap Sighting.calls? by rw [calls_scheduled]; decide)
    obtain ⟨number, -, hrunning, -, -, hiff⟩ :=
      shielded_iff_calls_eq twoHandlersTable {} none 0 scheduling () 0 hmem
    exact ⟨a, g, hmem, hcalls, number, hrunning, hiff.mpr hcalls.symm⟩
  · obtain ⟨a, g, hmem, hcalls⟩ := exists_of_mem_calls
      (show (1, 2) ∈ scheduled.filterMap Sighting.calls? by rw [calls_scheduled]; decide)
    obtain ⟨number, -, hrunning, -, -, hiff⟩ :=
      shielded_iff_calls_eq twoHandlersTable {} none 0 scheduling () 0 hmem
    refine ⟨a, g, hmem, hcalls, number, hrunning, fun hshielded => ?_⟩
    exact absurd (hiff.mp hshielded) (by omega)

theorem exposes_scheduled : ∃ sighting ∈ scheduled, sighting.exposes .low := by
  decide +kernel

theorem not_shielded_of_exposes {a : Activation η} {calls number : Nat} {g : Messenger Neighbour η}
    {priority : Priority} (hlegal : priority ≤ Priority.max) (hrunning : a.running = some number)
    (h : (Sighting.control a calls g).exposes priority) : ¬ g.Shielded number a.priority := by
  intro hshielded
  obtain ⟨g', hpost, hqueue, -, -⟩ := hshielded.post priority hlegal
  simp [Sighting.exposes, hrunning, hpost, hqueue] at h

theorem not_forall_shielded :
    ¬ ∀ (draft : Catalog.Draft Bool) (table : Table Bool), draft.finish = .ok table →
      ∀ (config : Config) (parent : Option Neighbour) (limit : Nat)
        (program : Program Bool Unit (Except LayerError Nat)) (now : Tick) (a : Activation Bool)
        (calls : Nat) (g : Messenger Neighbour Bool),
      Sighting.control a calls g ∈
        (program.run limit none ⟨.begun table config parent, (), now, []⟩).2.trace →
      ∃ number, a.running = some number ∧ g.Shielded number a.priority := by
  intro hall
  obtain ⟨sighting, hmem, hexposes⟩ := exposes_scheduled
  cases sighting with
  | called => cases hexposes
  | control a calls g =>
      obtain ⟨number, hrunning, hshielded⟩ := hall twoHandlers twoHandlersTable
        finish_twoHandlers {} none 0 scheduling 0 a calls g hmem
      exact not_shielded_of_exposes (by decide) hrunning hexposes hshielded

end Nested

end LinkStack.Exchange
