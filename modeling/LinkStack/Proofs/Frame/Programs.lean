import LinkStack.Proofs.Frame.Framer
import LinkStack.Proofs.Layer.Scene

/-!
Programs around a framing layer, run twice.

A `Program` is code around a framing layer: an application, a neighbour or another timer.
It calls operations of the layer, and what the layer asks of others on the way is answered
by programs again, so that calls nest to any depth. What is asked and how much time passes
is put on record.

Two runs of the same code from related scenes stay related as long as the code does not
see what the scenes differ in. Which relations this holds for is said by their behaviour
under the few changes that the layer makes (`Coupling`, and `Reading` for what comes in);
the functions of the layer are gone through once, for all of them. A relation may say more
from the moment on at which the timer of the layer has looked at the clock, that is what
its flag is for.
-/

namespace LinkStack.Frame

variable {E α β : Type}

/-! ### Programs -/

/-- The layer without the part of a frame that waits, and without the count of what was
dropped. -/
def Framer.veil {ρ : Type} (f : Framer ρ) : Framer ρ :=
  { f with buffer := [], stats := { f.stats with rxDropped := 0 } }

/-- What a framing layer asks of what is around it. -/
inductive Demand where
  | recv (who : Neighbour) (bytes : Bytes)
  | send (who : Neighbour) (bytes : Bytes)
  | capacity (who : Neighbour)
  | delivered (who : Neighbour) (report : Delivery)
  | name (who : Neighbour)
  /-- The clock has been moved, and other timers are run before the one of this layer. -/
  | timers
  deriving DecidableEq

abbrev Demand.Answer : Demand → Type
  | recv .. | send .. => Except LayerError Nat
  | capacity _ => Nat
  | delivered .. | timers => Unit
  | name _ => String

/-- What is called on a framing layer. -/
inductive Request where
  | recv (bytes : Bytes)
  | send (packet : Bytes)
  | sendConfirmed (packet : Bytes)
  | capacity
  | service
  | advance (ticks : Tick)
  deriving DecidableEq

abbrev Request.Answer : Request → Type
  | recv _ | send _ | sendConfirmed _ => Except LayerError Nat
  | capacity => Nat
  | service | advance _ => Unit

def Request.isRecv : Request → Bool
  | recv _ => true
  | _ => false

/-- Code that looks at the layer and acts on its surroundings, and calls operations of the
layer. With each call comes what is done about the demands of the layer during it, which may
be something else each time, and may again call operations. -/
inductive Program (E : Type) : Type → Type 1 where
  | done {α : Type} (a : α) : Program E α
  | act {α β : Type} (own : Framer Neighbour → Tick → StateM E β) (next : β → Program E α) :
      Program E α
  | call {α : Type} (request : Request) (reply : (demand : Demand) → Program E demand.Answer)
      (next : request.Answer → Program E α) : Program E α

/-- What is put on record. -/
inductive Note where
  | asked (demand : Demand)
  | passed (ticks : Tick)
  deriving DecidableEq

def Note.ticks : Note → Nat
  | asked _ => 0
  | passed ticks => ticks.toNat

abbrev Space (E : Type) := Scene (Framer Neighbour) E Note

namespace Space

/-- A demand is put on record and answered. -/
def ask (reply : (demand : Demand) → StateM (Space E) demand.Answer) (demand : Demand) :
    StateM (Space E) demand.Answer := fun s =>
  reply demand (s.meet s.around (.asked demand))

/-- The clock is moved. -/
def move (s : Space E) (ticks : Tick) : Space E :=
  { s.meet s.around (.passed ticks) with now := s.now + ticks }

@[simp] theorem trace_move (s : Space E) (ticks : Tick) :
    (s.move ticks).trace = s.trace ++ [.passed ticks] :=
  Scene.trace_meet s s.around (.passed ticks)

/-- Where a framing layer runs. Who is still there can be seen from the surroundings. -/
def among (alive : Neighbour → E → Bool) (limit : Nat)
    (reply : (demand : Demand) → StateM (Space E) demand.Answer) :
    Site (StateM (Space E)) Neighbour (Framer Neighbour) where
  get := fun s => (s.layer, s)
  modify f := fun s => ((), s.change f)
  layer who :=
    { name := ask reply (.name who)
      recv bytes := ExceptT.mk (ask reply (.recv who bytes))
      send bytes := ExceptT.mk (ask reply (.send who bytes))
      capacity := ask reply (.capacity who)
      delivered report := ask reply (.delivered who report)
      stats := pure {} }
  alive who := fun s => (alive who s.around, s)
  now := fun s => (s.now, s)
  limit := limit

end Space

open Space

/-- A call of an operation. When the clock is moved, the timer of the layer looks at it after
other timers have. -/
def Request.on (alive : Neighbour → E → Bool) (limit : Nat)
    (reply : (demand : Demand) → StateM (Space E) demand.Answer) :
    (request : Request) → StateM (Space E) request.Answer
  | recv bytes => (Framer.recv (among alive limit reply) bytes).run
  | send packet => (Framer.send (among alive limit reply) packet).run
  | sendConfirmed packet => (Framer.sendConfirmed (among alive limit reply) packet).run
  | capacity => Framer.capacity (among alive limit reply)
  | service => Framer.service (among alive limit reply)
  | advance ticks => do
    modify (move · ticks)
    ask reply .timers
    Framer.service (among alive limit reply)

namespace Program

def run (alive : Neighbour → E → Bool) (limit : Nat) :
    {α : Type} → Program E α → StateM (Space E) α
  | _, done a => pure a
  | _, act own next => do
    let found ← fun s => Scene.outside (own s.layer s.now) s
    (next found).run alive limit
  | _, call request reply next => do
    let answer ← request.on alive limit fun demand => (reply demand).run alive limit
    (next answer).run alive limit

/-- All requests of a program are of one kind, and its code does not tell apart layers that are
the same in some respect. -/
def Within (legal : Request → Prop) (same : Framer Neighbour → Framer Neighbour → Prop) :
    {α : Type} → Program E α → Prop
  | _, done _ => True
  | _, act own next =>
    (∀ f f' now, same f f' → own f now = own f' now) ∧ ∀ found, (next found).Within legal same
  | _, call request reply next => legal request ∧ (∀ demand, (reply demand).Within legal same) ∧
    ∀ answer, (next answer).Within legal same

theorem Within.and {legal legal' : Request → Prop}
    {same same' : Framer Neighbour → Framer Neighbour → Prop} {p : Program E α}
    (h : p.Within legal same) (h' : p.Within legal' same') : p.Within legal same' := by
  induction p with
  | done a => trivial
  | act own next ih => exact ⟨h'.1, fun found => ih found (h.2 found) (h'.2 found)⟩
  | call request reply next ihreply ihnext =>
      exact ⟨h.1, fun demand => ihreply demand (h.2.1 demand) (h'.2.1 demand),
        fun answer => ihnext answer (h.2.2 answer) (h'.2.2 answer)⟩

theorem within_eq (p : Program E α) : p.Within (fun _ => True) Eq := by
  induction p with
  | done a => trivial
  | act own next ih => exact ⟨fun f f' now h => by rw [h], ih⟩
  | call request reply next ihreply ihnext => exact ⟨trivial, ihreply, ihnext⟩

/-- A program that does not give bytes to the layer. -/
def Quiet (p : Program E α) : Prop := p.Within (·.isRecv = false) Eq

/-- A program that does not look at the part of a frame that waits, or at the count of what was
dropped. -/
def Blind (p : Program E α) : Prop := p.Within (fun _ => True) fun f f' => f.veil = f'.veil

end Program

/-! ### Two runs -/

/-- From related scenes, two actions give the same answer and lead to related scenes. -/
def Alike {σ : Type} (R : σ → σ → Prop) (x x' : StateM σ α) : Prop :=
  ∀ s s', R s s' → (x s).1 = (x' s').1 ∧ R (x s).2 (x' s').2

namespace Alike

variable {σ ε : Type} {R : σ → σ → Prop}

protected theorem pure (a : α) : Alike R (pure a) (pure a) :=
  fun _ _ h => ⟨rfl, h⟩

protected theorem bind {x x' : StateM σ α} {f f' : α → StateM σ β} (hx : Alike R x x')
    (hf : ∀ a, Alike R (f a) (f' a)) : Alike R (x >>= f) (x' >>= f') := by
  intro s s' h
  obtain ⟨hanswer, hnext⟩ := hx s s' h
  rw [bind_run, bind_run, ← hanswer]
  exact hf (x s).1 _ _ hnext

theorem except_bind {x x' : ExceptT ε (StateM σ) α} {f f' : α → ExceptT ε (StateM σ) β}
    (hx : Alike R x.run x'.run) (hf : ∀ a, Alike R (f a).run (f' a).run) :
    Alike R (x >>= f).run (x' >>= f').run := by
  rw [ExceptT.run_bind, ExceptT.run_bind]
  refine hx.bind fun answer => ?_
  cases answer with
  | error error => exact .pure _
  | ok a => exact hf a

theorem except_lift {x x' : StateM σ α} (hx : Alike R x x') :
    Alike R (liftM x : ExceptT ε (StateM σ) α).run (liftM x' : ExceptT ε (StateM σ) α).run :=
  hx.bind fun _ => .pure _

theorem attempt {call call' : ExceptT LayerError (StateM σ) α} (h : Alike R call.run call'.run) :
    Alike R (LinkStack.attempt call).run (LinkStack.attempt call').run :=
  h.bind fun _ => .pure _

end Alike

namespace Framer

variable {ρ : Type}

/-- What does not depend on the veiled parts. -/
theorem eq_of_veil {f f' : Framer ρ} (h : f.veil = f'.veil) (g : Framer ρ → α)
    (hg : ∀ f, g f.veil = g f) : g f = g f' := by
  rw [← hg f, h, hg]

/-- What is done about the decision of the retry timer. -/
def onExpiry {m : Type → Type} [Monad m] (site : Site m ρ (Framer ρ)) : Expiry → m Unit
  | .nothing => pure ()
  | .retransmit wire => do
    match ← (site.child Framer.node).run with
    | .ok child => let _ ← (child.send wire).run
    | .error _ => pure ()
  | .giveUp packet => report site { status := .dropped, packet }

/-- What is done about a packet that an acknowledgement settles. -/
def onSettled {m : Type → Type} [Monad m] (site : Site m ρ (Framer ρ)) : Option Bytes → m Unit
  | some packet => report site { status := .acked, packet }
  | none => pure ()

/-- What is done about the bytes that have come in. -/
def digest {m : Type → Type} [Monad m] (site : Site m ρ (Framer ρ)) : m Unit := do
  drain site ((← site.get).buffer.length + 1)
  retry site

/-- A change that has nothing to do with the part of a frame that waits. -/
structure Tame (f f' : Framer ρ) : Prop where
  node : f'.node = f.node
  config : f'.config = f.config
  buffer : f'.buffer = f.buffer
  lastRx : f'.lastRx = f.lastRx
  rxDropped : f'.stats.rxDropped = f.stats.rxDropped

theorem Tame.refl (f : Framer ρ) : Tame f f := ⟨rfl, rfl, rfl, rfl, rfl⟩

theorem expireOutstanding_tame (f : Framer ρ) (now : Tick) :
    Tame f (f.expireOutstanding now).2 := by
  rcases expireOutstanding_cases f now with ⟨-, h⟩ | ⟨o, -, -, -, h⟩ | ⟨o, -, -, -, h⟩ <;>
    rw [h] <;> exact ⟨rfl, rfl, rfl, rfl, rfl⟩

theorem acknowledge_tame (f : Framer ρ) (seq : UInt8) : Tame f (f.acknowledge seq).2 := by
  rcases acknowledge_cases f seq with ⟨o, -, -, h⟩ | ⟨-, h⟩ <;> rw [h] <;>
    exact ⟨rfl, rfl, rfl, rfl, rfl⟩

/-- What the retry timer decides does not depend on what is veiled. -/
theorem expireOutstanding_veil (f : Framer ρ) (now : Tick) : f.veil.expireOutstanding now =
    ((f.expireOutstanding now).1, (f.expireOutstanding now).2.veil) := by
  have houtstanding : f.veil.outstanding = f.outstanding := rfl
  have hconfig : f.veil.config = f.config := rfl
  unfold expireOutstanding
  rw [houtstanding, hconfig]
  cases f.outstanding with
  | none => rfl
  | some o =>
      dsimp only
      split
      · rfl
      · split <;> rfl

theorem acknowledge_veil (f : Framer ρ) (seq : UInt8) : f.veil.acknowledge seq =
    ((f.acknowledge seq).1, (f.acknowledge seq).2.veil) := by
  have houtstanding : f.veil.outstanding = f.outstanding := rfl
  unfold acknowledge
  rw [houtstanding]
  cases f.outstanding with
  | none => rfl
  | some o =>
      dsimp only
      split <;> rfl

theorem count_tame (f : Framer ρ) (event : Traffic) (h : event ≠ .rxDropped) :
    Tame f (f.count event) := by
  cases event <;> first | exact absurd rfl h | exact ⟨rfl, rfl, rfl, rfl, rfl⟩

theorem count_veil (f : Framer ρ) (event : Traffic) (h : event ≠ .rxDropped) :
    (f.count event).veil = f.veil.count event := by
  cases event <;> first | exact absurd rfl h | rfl

end Framer

/-- A relation that what a framing layer does without being given bytes preserves, whatever stands
in the veiled parts. It may say more once the timer has looked at the clock. -/
structure Coupling (R : Bool → Space E → Space E → Prop) : Prop where
  veil : ∀ {looked s s'}, R looked s s' → s.layer.veil = s'.layer.veil
  around : ∀ {looked s s'}, R looked s s' → s.around = s'.around
  now : ∀ {looked s s'}, R looked s s' → s.now = s'.now
  forget : ∀ {looked s s'}, R true s s' → R looked s s'
  tame : ∀ {looked s s' f f'}, R looked s s' → s.layer.Tame f → s'.layer.Tame f' →
    f.veil = f'.veil → R looked (s.change fun _ => f) (s'.change fun _ => f')
  asked : ∀ {looked s s'}, R looked s s' → ∀ demand,
    R looked (s.meet s.around (.asked demand)) (s'.meet s'.around (.asked demand))
  outside : ∀ {looked s s'}, R looked s s' → ∀ around,
    R looked { s with around } { s' with around }
  moved : ∀ {looked s s'}, R looked s s' → ∀ ticks, R false (s.move ticks) (s'.move ticks)
  expired : ∀ {looked s s'}, R looked s s' →
    R true (s.change (·.expirePartial s.now)) (s'.change (·.expirePartial s'.now))

/-- A relation that is preserved as well when bytes come in. -/
structure Reading (R : Bool → Space E → Space E → Prop) : Prop extends Coupling R where
  buffer : ∀ {looked s s'}, R looked s s' → s.layer.buffer = s'.layer.buffer
  dropped : ∀ {looked s s'}, R looked s s' →
    R looked (s.change (·.count .rxDropped)) (s'.change (·.count .rxDropped))
  received : ∀ {looked s s'}, R looked s s' → ∀ bytes,
    R true (s.change fun f => (f.expirePartial s.now).receive s.now bytes)
      (s'.change fun f => (f.expirePartial s'.now).receive s'.now bytes)
  taken : ∀ {looked s s' f f'}, R looked s s' → s.layer.buffer ≠ [] → s.layer.Tame f →
    s'.layer.Tame f' → f.veil = f'.veil → ∀ rest,
    R looked (s.change fun _ => { f with buffer := rest })
      (s'.change fun _ => { f' with buffer := rest })

section Functions

variable {R : Bool → Space E → Space E → Prop} {alive : Neighbour → E → Bool} {limit : Nat}
  {reply : (demand : Demand) → StateM (Space E) demand.Answer} {looked : Bool}

theorem among_get_run {s : Space E} : (among alive limit reply).get s = (s.layer, s) := rfl

section Quiet

variable (hR : Coupling R)
  (hreply : ∀ demand looked, Alike (R looked) (reply demand) (reply demand))

include hR

theorem Coupling.get_bind {k k' : Framer Neighbour → StateM (Space E) β}
    (h : ∀ f f', f.veil = f'.veil → Alike (R looked) (k f) (k' f')) :
    Alike (R looked) ((among alive limit reply).get >>= k) ((among alive limit reply).get >>= k') :=
  fun s s' hs => h s.layer s'.layer (hR.veil hs) s s' hs

theorem Coupling.except_get_bind {ε : Type}
    {k k' : Framer Neighbour → ExceptT ε (StateM (Space E)) β}
    (h : ∀ f f', f.veil = f'.veil → Alike (R looked) (k f).run (k' f').run) :
    Alike (R looked) (liftM (among alive limit reply).get >>= k).run
      (liftM (among alive limit reply).get >>= k').run :=
  fun s s' hs => h s.layer s'.layer (hR.veil hs) s s' hs

theorem Coupling.time :
    Alike (R looked) (among alive limit reply).now (among alive limit reply).now :=
  fun _ _ hs => ⟨hR.now hs, hs⟩

theorem Coupling.modify {g : Framer Neighbour → Framer Neighbour}
    (htame : ∀ f : Framer Neighbour, f.Tame (g f))
    (hveil : ∀ f : Framer Neighbour, (g f).veil = g f.veil) :
    Alike (R looked) ((among alive limit reply).modify g) ((among alive limit reply).modify g) := by
  refine fun s s' hs => ⟨rfl, hR.tame hs (htame s.layer) (htame s'.layer) ?_⟩
  rw [hveil, hveil, hR.veil hs]

theorem Coupling.count (event : Traffic) (h : event ≠ .rxDropped) :
    Alike (R looked) ((among alive limit reply).modify (·.count event))
      ((among alive limit reply).modify (·.count event)) :=
  hR.modify (fun f => f.count_tame event h) fun f => f.count_veil event h

/-- The parent that a layer names, if it is there. -/
def parentOf (alive : Neighbour → E → Bool) (s : Space E) : Except LayerError (Option Neighbour) :=
  s.layer.node.linked.map fun links => links.parent.filter (alive · s.around)

omit hR in
theorem parent?_run (s : Space E) : ((among alive limit reply).parent? Framer.node).run s =
    ((parentOf alive s).map (·.map (among alive limit reply).layer), s) := by
  rw [Site.parent?_run among_get_run fun who => rfl, parentOf]
  cases s.layer.node.linked <;> rfl

theorem Coupling.child_bind
    {k k' : Except LayerError (Layer (StateM (Space E))) → StateM (Space E) β}
    (h : ∀ found : Except LayerError Neighbour,
      Alike (R looked) (k (found.map (among alive limit reply).layer))
        (k' (found.map (among alive limit reply).layer))) :
    Alike (R looked) (((among alive limit reply).child Framer.node).run >>= k)
      (((among alive limit reply).child Framer.node).run >>= k') := by
  intro s s' hs
  rw [bind_run_eq (Site.child_run among_get_run), bind_run_eq (Site.child_run among_get_run),
    ← Framer.eq_of_veil (hR.veil hs) (·.node.child) fun _ => rfl]
  exact h _ s s' hs

theorem Coupling.except_child_bind
    {k k' : Layer (StateM (Space E)) → ExceptT LayerError (StateM (Space E)) β}
    (h : ∀ who, Alike (R looked) (k ((among alive limit reply).layer who)).run
      (k' ((among alive limit reply).layer who)).run) :
    Alike (R looked) ((among alive limit reply).child Framer.node >>= k).run
      ((among alive limit reply).child Framer.node >>= k').run := by
  rw [ExceptT.run_bind, ExceptT.run_bind]
  refine hR.child_bind fun found => ?_
  cases found with
  | error error => exact .pure _
  | ok who => exact h who

theorem Coupling.parent?_bind
    {k k' : Except LayerError (Option (Layer (StateM (Space E)))) → StateM (Space E) β}
    (h : ∀ found : Except LayerError (Option Neighbour),
      Alike (R looked) (k (found.map (·.map (among alive limit reply).layer)))
        (k' (found.map (·.map (among alive limit reply).layer)))) :
    Alike (R looked) (((among alive limit reply).parent? Framer.node).run >>= k)
      (((among alive limit reply).parent? Framer.node).run >>= k') := by
  intro s s' hs
  have hfound : parentOf alive s = parentOf alive s' := by
    rw [parentOf, parentOf, Framer.eq_of_veil (hR.veil hs) (·.node.linked) fun _ => rfl,
      hR.around hs]
  rw [bind_run_eq (parent?_run s), bind_run_eq (parent?_run s'), ← hfound]
  exact h _ s s' hs

theorem alike_ensureInitialized :
    Alike (R looked) ((among alive limit reply).ensureInitialized Framer.node).run
      ((among alive limit reply).ensureInitialized Framer.node).run := by
  refine hR.except_get_bind fun f f' hveil => ?_
  rw [Framer.eq_of_veil hveil (·.node.linked) fun _ => rfl]
  exact Alike.except_bind (.pure _) fun _ => .pure _

include hreply

theorem alike_ask (demand : Demand) : Alike (R looked) (ask reply demand) (ask reply demand) :=
  fun _ _ hs => hreply demand looked _ _ (hR.asked hs demand)

namespace Framer

theorem alike_report (delivery : Delivery) :
    Alike (R looked) (report (among alive limit reply) delivery)
      (report (among alive limit reply) delivery) := by
  rw [report]
  refine hR.parent?_bind fun found => ?_
  match found with
  | .ok (some who) => exact alike_ask hR hreply (.delivered who delivery)
  | .ok none => exact .pure _
  | .error error => exact .pure _

theorem alike_write (body : Bytes) : Alike (R looked) (write (among alive limit reply) body).run
    (write (among alive limit reply) body).run := by
  rw [write]
  refine hR.except_get_bind fun f f' hveil => ?_
  rw [eq_of_veil hveil codec fun _ => rfl]
  dsimp only
  refine Alike.except_bind (.pure _) fun _ => hR.except_child_bind fun who => ?_
  refine Alike.except_bind (.attempt (alike_ask hR hreply _)) fun answer => ?_
  cases answer with
  | error error =>
      exact Alike.except_bind (.except_lift (hR.count _ nofun)) fun _ => .pure _
  | ok written =>
      dsimp only
      split
      · exact Alike.except_bind (.except_lift (hR.count _ nofun)) fun _ => .pure _
      · refine Alike.except_bind (.except_lift (hR.count _ nofun)) fun _ => ?_
        exact Alike.except_bind (.except_lift (alike_ask hR hreply _)) fun _ => .pure _

omit hreply in
/-- The state is replaced by one that is computed from it. -/
theorem alike_update {γ : Type} {g : Framer Neighbour → Tick → γ × Framer Neighbour}
    (htame : ∀ (f : Framer Neighbour) now, f.Tame (g f now).2)
    (hveil : ∀ f now, g f.veil now = ((g f now).1, (g f now).2.veil))
    {k : γ → StateM (Space E) β} (hk : ∀ a, Alike (R looked) (k a) (k a)) {s s' : Space E}
    (hs : R looked s s') :
    (k (g s.layer s.now).1 (s.change fun _ => (g s.layer s.now).2)).1 =
        (k (g s'.layer s'.now).1 (s'.change fun _ => (g s'.layer s'.now).2)).1 ∧
      R looked (k (g s.layer s.now).1 (s.change fun _ => (g s.layer s.now).2)).2
        (k (g s'.layer s'.now).1 (s'.change fun _ => (g s'.layer s'.now).2)).2 := by
  have hanswer : (g s.layer s.now).1 = (g s'.layer s'.now).1 := by
    rw [← hR.now hs]
    exact eq_of_veil (hR.veil hs) (fun f => (g f s.now).1) fun f => by rw [hveil]
  have hstate : (g s.layer s.now).2.veil = (g s'.layer s'.now).2.veil := by
    rw [← hR.now hs]
    exact eq_of_veil (hR.veil hs) (fun f => (g f s.now).2.veil) fun f => by rw [hveil]; rfl
  rw [← hanswer]
  exact hk _ _ _ (hR.tame hs (htame _ _) (htame _ _) hstate)

theorem alike_retry : Alike (R looked) (retry (among alive limit reply))
    (retry (among alive limit reply)) := by
  refine fun s s' hs => alike_update hR expireOutstanding_tame expireOutstanding_veil
    (k := onExpiry (among alive limit reply)) (fun expiry => ?_) hs
  cases expiry with
  | nothing => exact .pure _
  | retransmit wire =>
      refine hR.child_bind fun found => ?_
      cases found with
      | error error => exact .pure _
      | ok who => exact (alike_ask hR hreply _).bind fun _ => .pure _
  | giveUp packet => exact alike_report hR hreply _

/-- When the timers have run, the clock has been looked at. -/
theorem alike_service {s s' : Space E} (hs : R looked s s') :
    R true (service (among alive limit reply) s).2 (service (among alive limit reply) s').2 :=
  (alike_retry hR hreply _ _ (hR.expired hs)).2

theorem alike_send (packet : Bytes) : Alike (R looked) (send (among alive limit reply) packet).run
    (send (among alive limit reply) packet).run := by
  rw [send]
  refine Alike.except_bind (alike_ensureInitialized hR) fun _ => ?_
  refine hR.except_get_bind fun f f' hveil => ?_
  rw [eq_of_veil hveil (·.checkSize packet.length 0) fun _ => rfl]
  refine Alike.except_bind (.pure _) fun _ => ?_
  exact Alike.except_bind (alike_write hR hreply packet) fun _ => .pure _

theorem alike_sendConfirmed (packet : Bytes) :
    Alike (R looked) (sendConfirmed (among alive limit reply) packet).run
      (sendConfirmed (among alive limit reply) packet).run := by
  rw [sendConfirmed]
  refine Alike.except_bind (alike_ensureInitialized hR) fun _ => ?_
  refine hR.except_get_bind fun f f' hveil => ?_
  rw [eq_of_veil hveil (·.checkSize packet.length controlHeader) fun _ => rfl,
    eq_of_veil hveil (·.outstanding) fun _ => rfl, eq_of_veil hveil (·.node.name) fun _ => rfl,
    eq_of_veil hveil (·.nextSeq) fun _ => rfl]
  refine Alike.except_bind (.pure _) fun _ => ?_
  dsimp only
  split
  · exact fun _ _ hs => ⟨rfl, hs⟩
  refine Alike.except_bind (.except_lift (hR.modify (fun _ => ?_) fun _ => rfl)) fun _ => ?_
  · exact ⟨rfl, rfl, rfl, rfl, rfl⟩
  refine Alike.except_bind (alike_write hR hreply _) fun wire => ?_
  refine Alike.except_bind (.except_lift hR.time) fun now => ?_
  refine Alike.except_bind (.except_lift (hR.modify (fun _ => ?_) fun _ => rfl)) fun _ => .pure _
  exact ⟨rfl, rfl, rfl, rfl, rfl⟩

theorem alike_capacity : Alike (R looked) (capacity (among alive limit reply))
    (capacity (among alive limit reply)) := by
  rw [capacity]
  refine hR.child_bind fun found => ?_
  cases found with
  | error error => exact .pure _
  | ok who =>
      refine hR.get_bind fun f f' hveil => ?_
      refine (alike_ask hR hreply _).bind fun room => ?_
      rw [eq_of_veil hveil (fun f => min (room - f.config.mode.overhead f.bodyLimit) f.bodyLimit)
        fun _ => rfl]
      exact .pure _

end Framer

/-- A call that does not bring bytes. -/
theorem alike_quiet {request : Request} (h : request.isRecv = false) :
    Alike (R looked) (request.on alive limit reply) (request.on alive limit reply) := by
  cases request with
  | recv bytes => cases h
  | send packet => exact Framer.alike_send hR hreply packet
  | sendConfirmed packet => exact Framer.alike_sendConfirmed hR hreply packet
  | capacity => exact Framer.alike_capacity hR hreply
  | service => exact fun s s' hs => ⟨rfl, hR.forget (Framer.alike_service hR hreply hs)⟩
  | advance ticks =>
      intro s s' hs
      have hmoved := (alike_ask hR hreply .timers _ _ (hR.moved hs ticks)).2
      exact ⟨rfl, hR.forget (Framer.alike_service hR hreply hmoved)⟩

end Quiet

section Bytes

variable (hR : Reading R)
  (hreply : ∀ demand looked, Alike (R looked) (reply demand) (reply demand))

include hR hreply

namespace Framer

theorem alike_deliver (body : Bytes) : Alike (R looked) (deliver (among alive limit reply) body)
    (deliver (among alive limit reply) body) := by
  rw [deliver]
  refine hR.parent?_bind fun found => ?_
  have hnobody : Alike (R looked) ((among alive limit reply).modify (·.count .rxDropped))
      ((among alive limit reply).modify (·.count .rxDropped)) := fun _ _ hs => ⟨rfl, hR.dropped hs⟩
  match found with
  | .ok (some who) =>
      exact (hR.count (.rxPacket body.length) nofun).bind fun _ =>
        (alike_ask hR.toCoupling hreply (.recv who body)).bind fun _ => .pure _
  | .ok none => exact hnobody
  | .error error => exact hnobody

theorem alike_control (payload : Bytes) :
    Alike (R looked) (control (among alive limit reply) payload)
      (control (among alive limit reply) payload) := by
  rw [control]
  cases Control.read payload with
  | data seq packet =>
      refine (alike_write hR.toCoupling hreply _).bind fun _ => ?_
      refine hR.time.bind fun now => hR.get_bind fun f f' hveil => ?_
      rw [eq_of_veil hveil (·.isRepeat now seq) fun _ => rfl]
      dsimp only
      refine Alike.bind (hR.modify (fun _ => ⟨rfl, rfl, rfl, rfl, rfl⟩) fun _ => rfl) fun _ => ?_
      split
      · exact hR.count _ nofun
      · exact alike_deliver hR hreply packet
  | ack seq =>
      refine fun s s' hs => alike_update hR.toCoupling (g := fun f _ => f.acknowledge seq)
        (fun f _ => f.acknowledge_tame seq) (fun f _ => f.acknowledge_veil seq)
        (k := onSettled (among alive limit reply)) (fun settled => ?_) hs
      cases settled with
      | none => exact .pure _
      | some packet => exact alike_report hR.toCoupling hreply _
  | malformed => exact hR.count _ nofun

theorem alike_take (item : Item) : Alike (R looked) (take (among alive limit reply) item)
    (take (among alive limit reply) item) := by
  cases item with
  | packet packet =>
      rw [take]
      split
      · exact alike_control hR hreply packet.payload
      · exact alike_deliver hR hreply packet.body
  | stray bytes =>
      rw [take]
      refine hR.get_bind fun f f' hveil => ?_
      rw [eq_of_veil hveil (·.other) fun _ => rfl]
      cases f'.other with
      | none => exact .pure _
      | some who =>
          exact (alike_ask hR.toCoupling hreply (.recv who bytes)).bind fun _ => .pure _

omit hR hreply in
theorem drain_among_needsMore {s : Space E}
    (h : s.layer.codec.decode s.layer.buffer = .needsMore) (turns : Nat) :
    drain (among alive limit reply) (turns + 1) s = ((), s) := by
  rw [drain, bind_run_eq among_get_run]
  simp only [h]
  rfl

omit hR hreply in
theorem drain_among_item {s : Space E} {item : Item} {rest : Bytes}
    (h : s.layer.codec.decode s.layer.buffer = .item item rest) (turns : Nat) :
    drain (among alive limit reply) (turns + 1) s = drain (among alive limit reply) turns
      (take (among alive limit reply) item (s.change fun f => { f with buffer := rest })).2 := by
  rw [drain, bind_run_eq among_get_run]
  simp only [h]
  rfl

omit hR hreply in
theorem drain_among_refused {s : Space E} {error : Error} {rest : Bytes}
    (h : s.layer.codec.decode s.layer.buffer = .refused error rest) (turns : Nat) :
    drain (among alive limit reply) (turns + 1) s = drain (among alive limit reply) turns
      (s.change fun f => { f.count .rxError with buffer := rest }) := by
  rw [drain, bind_run_eq among_get_run]
  simp only [h]
  rfl

/-- Both runs read the same units. -/
theorem alike_drain (turns : Nat) : Alike (R looked) (drain (among alive limit reply) turns)
    (drain (among alive limit reply) turns) := by
  induction turns with
  | zero => exact .pure _
  | succ turns ih =>
      intro s s' hs
      have hdecode : s.layer.codec.decode s.layer.buffer =
          s'.layer.codec.decode s'.layer.buffer := by
        rw [hR.buffer hs, eq_of_veil (hR.veil hs) codec fun _ => rfl]
      cases hunit : s.layer.codec.decode s.layer.buffer with
      | needsMore =>
          rw [drain_among_needsMore hunit, drain_among_needsMore (hdecode ▸ hunit)]
          exact ⟨rfl, hs⟩
      | item item rest =>
          have hne : s.layer.buffer ≠ [] := fun hnil => by rw [hnil] at hunit; cases hunit
          rw [drain_among_item hunit, drain_among_item (hdecode ▸ hunit)]
          exact ih _ _ (alike_take hR hreply item _ _
            (hR.taken hs hne (.refl _) (.refl _) (hR.veil hs) rest)).2
      | refused error rest =>
          have hne : s.layer.buffer ≠ [] := fun hnil => by rw [hnil] at hunit; cases hunit
          rw [drain_among_refused hunit, drain_among_refused (hdecode ▸ hunit)]
          have hveil : (s.layer.count .rxError).veil = (s'.layer.count .rxError).veil := by
            rw [count_veil _ .rxError nofun, count_veil _ .rxError nofun, hR.veil hs]
          exact ih _ _ (hR.taken hs hne (count_tame _ .rxError nofun) (count_tame _ .rxError nofun)
            hveil rest)

variable (looked) in
theorem alike_digest : Alike (R looked) (digest (among alive limit reply))
    (digest (among alive limit reply)) := by
  intro s s' hs
  rw [digest, bind_run_eq among_get_run, bind_run_eq among_get_run, hR.buffer hs]
  exact (alike_drain hR hreply _).bind (fun _ => alike_retry hR.toCoupling hreply) s s' hs

theorem alike_recv (bytes : Bytes) : Alike (R looked) (recv (among alive limit reply) bytes).run
    (recv (among alive limit reply) bytes).run := by
  rw [recv]
  refine Alike.except_bind (alike_ensureInitialized hR.toCoupling) fun _ => ?_
  exact fun s s' hs =>
    ⟨rfl, hR.forget (alike_digest true hR hreply _ _ (hR.received hs bytes)).2⟩

end Framer

theorem alike_request (request : Request) :
    Alike (R looked) (request.on alive limit reply) (request.on alive limit reply) := by
  cases request with
  | recv bytes => exact Framer.alike_recv hR hreply bytes
  | _ => exact alike_quiet hR.toCoupling hreply rfl

end Bytes

end Functions

namespace Program.Within

variable {R : Bool → Space E → Space E → Prop} (alive : Neighbour → E → Bool) (limit : Nat)
  {same : Framer Neighbour → Framer Neighbour → Prop} {p : Program E α}

/-- What holds of every request that is made holds of a program. -/
theorem alike {legal : Request → Prop} (hp : p.Within legal same) (hR : Coupling R)
    (hsame : ∀ looked s s', R looked s s' → same s.layer s'.layer)
    (hlegal : ∀ request, legal request → ∀ reply,
      (∀ demand looked, Alike (R looked) (reply demand) (reply demand)) → ∀ looked,
      Alike (R looked) (request.on alive limit reply) (request.on alive limit reply))
    (looked : Bool) : Alike (R looked) (p.run alive limit) (p.run alive limit) := by
  induction p generalizing looked with
  | done a => exact .pure a
  | act own next ih =>
      obtain ⟨hown, hnext⟩ := hp
      refine Alike.bind (fun s s' hs => ?_) fun found => ih found (hnext found) looked
      have hacted : own s.layer s.now s.around = own s'.layer s'.now s'.around := by
        rw [hown _ _ _ (hsame looked s s' hs), hR.now hs, hR.around hs]
      rw [Scene.outside, Scene.outside, hacted]
      exact ⟨rfl, hR.outside hs _⟩
  | call request reply next ihreply ihnext =>
      obtain ⟨hrequest, hreply, hnext⟩ := hp
      exact Alike.bind (hlegal request hrequest _
        (fun demand looked => ihreply demand (hreply demand) looked) looked)
        fun answer => ihnext answer (hnext answer) looked

theorem alike_of_quiet (hp : p.Within (·.isRecv = false) same) (hR : Coupling R)
    (hsame : ∀ looked s s', R looked s s' → same s.layer s'.layer) (looked : Bool) :
    Alike (R looked) (p.run alive limit) (p.run alive limit) :=
  hp.alike alive limit hR hsame (fun _ hquiet _ hreply _ => alike_quiet hR hreply hquiet) looked

theorem alike_of_reading (hp : p.Within (fun _ => True) same) (hR : Reading R)
    (hsame : ∀ looked s s', R looked s s' → same s.layer s'.layer) (looked : Bool) :
    Alike (R looked) (p.run alive limit) (p.run alive limit) :=
  hp.alike alive limit hR.toCoupling hsame
    (fun request _ _ hreply _ => alike_request hR hreply request) looked

end Program.Within

end LinkStack.Frame
