import Mathlib.Logic.Relation
import LinkStack.Layer.Basic

/-!
A layer among neighbours that do not call it back.

The behaviour of a layer is written over any monad in which its neighbours act.
Here the neighbours act on a state of their own, of any type: they do not see
the layer and it does not see them, and that is all that keeps them from calling
back. A `Scene` is the layer, its surroundings and the time, with the history of
what happened: every change of the layer's state, and every call that it made.

What a call of the layer does is described by the steps that lead from the scene
before it to the one after it. The rules for `Follows` take an action apart, so
that an invariant only has to be shown for single steps.
-/

namespace LinkStack

/-- The places around a layer. -/
inductive Neighbour where
  | child
  | parent
  | other
  deriving DecidableEq, Repr

/-- What stands around a layer, and acts on a state of type `E`. -/
structure Neighbours (E : Type) where
  layer : Neighbour → Layer (StateM E)
  alive : Neighbour → StateM E Bool

/-- A neighbour that always has the same room, and takes everything. -/
def Layer.ample {E : Type} (room : Nat) : Layer (StateM E) where
  name := pure "ample"
  recv packet := pure packet.length
  send packet := pure packet.length
  capacity := pure room
  delivered _ := pure ()
  stats := pure {}

def Neighbours.ample {E : Type} (room : Nat) : Neighbours E where
  layer _ := .ample room
  alive _ := pure true

/-- A call to a neighbour, with its answer. -/
inductive Contact where
  | capacity (room : Nat)
  | send (packet : Bytes) (answer : Except LayerError Nat)
  | sendConfirmed (packet : Bytes) (answer : Except LayerError Nat)
  | recv (packet : Bytes) (answer : Except LayerError Nat)
  | delivered (report : Delivery)

/-- One entry of a history: a change of the layer, or something noted. -/
inductive Moment (S X : Type) where
  | changed (before after : S)
  | noted (what : X)

def Moment.noted? {S X : Type} : Moment S X → Option X
  | .changed .. => none
  | .noted what => some what

structure Scene (S E X : Type) where
  layer : S
  around : E
  now : Tick
  history : List (Moment S X)

namespace Scene

variable {S E X α β : Type}

def change (s : Scene S E X) (f : S → S) : Scene S E X :=
  { s with layer := f s.layer, history := s.history ++ [.changed s.layer (f s.layer)] }

/-- The surroundings have changed while something was noted. -/
def meet (s : Scene S E X) (around : E) (what : X) : Scene S E X :=
  { s with around, history := s.history ++ [.noted what] }

/-- What was noted. -/
def trace (s : Scene S E X) : List X := s.history.filterMap Moment.noted?

section Fields

variable (s : Scene S E X) (f : S → S) (around : E) (what : X)

@[simp] theorem layer_change : (s.change f).layer = f s.layer := rfl
@[simp] theorem around_change : (s.change f).around = s.around := rfl
@[simp] theorem now_change : (s.change f).now = s.now := rfl
@[simp] theorem history_change :
    (s.change f).history = s.history ++ [.changed s.layer (f s.layer)] := rfl
@[simp] theorem layer_meet : (s.meet around what).layer = s.layer := rfl
@[simp] theorem around_meet : (s.meet around what).around = around := rfl
@[simp] theorem now_meet : (s.meet around what).now = s.now := rfl
@[simp] theorem history_meet : (s.meet around what).history = s.history ++ [.noted what] := rfl

@[simp] theorem trace_change : (s.change f).trace = s.trace := by
  simp [trace, change, Moment.noted?]

@[simp] theorem trace_meet : (s.meet around what).trace = s.trace ++ [what] := by
  simp [trace, meet, Moment.noted?]

end Fields

/-- What happens around the layer without being noted. -/
def outside (act : StateM E α) : StateM (Scene S E X) α := fun s =>
  ((act s.around).1, { s with around := (act s.around).2 })

/-- What happens around the layer, and is noted together with its answer. -/
def noting (what : α → X) (act : StateM E α) : StateM (Scene S E X) α := fun s =>
  ((act s.around).1, s.meet (act s.around).2 (what (act s.around).1))

end Scene

/-- A neighbour whose calls are noted. -/
def Layer.noted {S E X : Type} (note : Contact → X) (l : Layer (StateM E)) :
    Layer (StateM (Scene S E X)) where
  name := Scene.outside l.name
  recv packet :=
    ExceptT.mk (Scene.noting (fun answer => note (.recv packet answer)) (l.recv packet).run)
  send packet :=
    ExceptT.mk (Scene.noting (fun answer => note (.send packet answer)) (l.send packet).run)
  sendConfirmed packet :=
    ExceptT.mk (Scene.noting (fun answer => note (.sendConfirmed packet answer))
      (l.sendConfirmed packet).run)
  capacity := Scene.noting (fun room => note (.capacity room)) l.capacity
  delivered report := Scene.noting (fun _ => note (.delivered report)) (l.delivered report)
  stats := Scene.outside l.stats

namespace Scene

variable {S E X : Type}

/-- Where the layer of a scene runs. -/
def site (neighbours : Neighbours E) (note : Neighbour → Contact → X) (limit : Nat) :
    Site (StateM (Scene S E X)) Neighbour S where
  get := fun s => (s.layer, s)
  modify f := fun s => ((), s.change f)
  layer who := (neighbours.layer who).noted (note who)
  alive who := outside (neighbours.alive who)
  now := fun s => (s.now, s)
  limit := limit

end Scene

/-! ### Running actions -/

section Running

variable {σ ε α β : Type} {s s' : σ} {a : α}

theorem pure_run (a : α) (s : σ) : (pure a : StateM σ α) s = (a, s) := rfl

theorem bind_run (x : StateM σ α) (f : α → StateM σ β) (s : σ) :
    (x >>= f) s = f (x s).1 (x s).2 := rfl

theorem bind_run_eq {x : StateM σ α} (h : x s = (a, s')) (f : α → StateM σ β) :
    (x >>= f) s = f a s' := by
  rw [bind_run, h]

theorem bind_run_ok {x : ExceptT ε (StateM σ) α} (h : x.run s = (.ok a, s'))
    (f : α → ExceptT ε (StateM σ) β) : (x >>= f).run s = (f a).run s' := by
  rw [ExceptT.run_bind, bind_run_eq h]

theorem bind_run_error {x : ExceptT ε (StateM σ) α} {e : ε} (h : x.run s = (.error e, s'))
    (f : α → ExceptT ε (StateM σ) β) : (x >>= f).run s = (.error e, s') := by
  rw [ExceptT.run_bind, bind_run_eq h]
  rfl

/-- A value computed from what is known, given as the answer of an action. -/
theorem answer_run {answer answer' : Except ε α} (h : answer = answer') :
    (ExceptT.mk (pure answer) : ExceptT ε (StateM σ) α).run s = (answer', s) := by
  rw [h]
  rfl

theorem lift_run {x : StateM σ α} (h : x s = (a, s')) :
    (liftM x : ExceptT ε (StateM σ) α).run s = (.ok a, s') := by
  show (x >>= fun a => pure (Except.ok a)) s = _
  rw [bind_run_eq h]
  rfl

theorem attempt_run {call : ExceptT LayerError (StateM σ) α} {answer : Except LayerError α}
    (h : call.run s = (answer, s')) : (attempt call).run s = (.ok answer, s') := by
  show (call.run >>= fun answer => pure (Except.ok answer)) s = _
  rw [bind_run_eq h]
  rfl

section Links

variable {ρ S : Type} {site : Site (StateM σ) ρ S} {node : S → Node ρ} {layer : S}

/-- Looking for the child changes nothing. -/
theorem Site.child_run (hget : site.get s = (layer, s)) :
    (site.child node).run s = ((node layer).child.map site.layer, s) := by
  rw [Site.child, bind_run_ok (lift_run hget)]
  cases hchild : (node layer).child with
  | error error => exact bind_run_error (answer_run rfl) _
  | ok who => exact bind_run_ok (answer_run rfl) _

theorem Site.child_run_ok (hget : site.get s = (layer, s)) {who : ρ}
    (hchild : (node layer).child = .ok who) :
    (site.child node).run s = (.ok (site.layer who), s) := by
  rw [Site.child_run hget, hchild]
  rfl

/-- Asking for the links changes nothing. -/
theorem Site.ensureInitialized_run (hget : site.get s = (layer, s)) :
    (site.ensureInitialized node).run s = ((node layer).linked.map fun _ => (), s) := by
  rw [Site.ensureInitialized, bind_run_ok (lift_run hget)]
  cases hlinked : (node layer).linked with
  | error error => exact bind_run_error (answer_run rfl) _
  | ok links => exact bind_run_ok (answer_run rfl) _

theorem Site.ensureInitialized_run_ok (hget : site.get s = (layer, s))
    (h : (node layer).isInitialized) : (site.ensureInitialized node).run s = (.ok (), s) := by
  obtain ⟨links, hlinks⟩ := Option.isSome_iff_exists.mp h
  rw [Site.ensureInitialized_run hget, Node.linked, hlinks]
  rfl

/-- Looking for the parent changes nothing if it can be seen from the state who is there. -/
theorem Site.parent?_run (hget : site.get s = (layer, s)) {present : ρ → Bool}
    (halive : ∀ who, site.alive who s = (present who, s)) :
    (site.parent? node).run s =
      ((node layer).linked.map fun links => (links.parent.filter present).map site.layer, s) := by
  rw [Site.parent?, bind_run_ok (lift_run hget)]
  cases hlinked : (node layer).linked with
  | error error => exact bind_run_error (answer_run rfl) _
  | ok links =>
      rw [bind_run_ok (answer_run rfl)]
      show _ = (Except.ok ((links.parent.filter present).map site.layer), s)
      cases links.parent with
      | none => rfl
      | some who =>
          refine (bind_run_ok (lift_run (halive who)) _).trans ?_
          rw [Option.filter_some]
          cases present who <;> rfl

end Links

end Running

/-- From a state that is ready, an action leads to another one that is, by steps on
what is viewed of it. -/
def Follows {σ τ α : Type} (ready : σ → Prop) (view : σ → τ) (step : τ → τ → Prop)
    (act : StateM σ α) : Prop :=
  ∀ s, ready s → ready (act s).2 ∧ Relation.ReflTransGen step (view s) (view (act s).2)

namespace Follows

variable {σ τ ε α β : Type} {ready : σ → Prop} {view : σ → τ} {step : τ → τ → Prop}

protected theorem pure (a : α) : Follows ready view step (pure a : StateM σ α) :=
  fun _ hs => ⟨hs, .refl⟩

protected theorem bind {x : StateM σ α} {f : α → StateM σ β} (hx : Follows ready view step x)
    (hf : ∀ a, Follows ready view step (f a)) : Follows ready view step (x >>= f) := by
  intro s hs
  rw [bind_run]
  have hfirst := hx s hs
  have hsecond := hf (x s).1 _ hfirst.1
  exact ⟨hsecond.1, hfirst.2.trans hsecond.2⟩

theorem except_bind {x : ExceptT ε (StateM σ) α} {f : α → ExceptT ε (StateM σ) β}
    (hx : Follows ready view step x.run) (hf : ∀ a, Follows ready view step (f a).run) :
    Follows ready view step (x >>= f).run := by
  rw [ExceptT.run_bind]
  refine hx.bind fun answer => ?_
  cases answer with
  | error e => exact .pure _
  | ok a => exact hf a

theorem except_lift {x : StateM σ α} (hx : Follows ready view step x) :
    Follows ready view step (liftM x : ExceptT ε (StateM σ) α).run :=
  hx.bind fun _ => .pure _

theorem foldlM {l : List α} {f : β → α → StateM σ β}
    (hf : ∀ b a, Follows ready view step (f b a)) (b : β) :
    Follows ready view step (l.foldlM f b) := by
  induction l generalizing b with
  | nil => exact .pure b
  | cons a l ih =>
      rw [List.foldlM_cons]
      exact (hf b a).bind ih

/-- What steps preserve holds after the action. -/
theorem preserves {act : StateM σ α} (h : Follows ready view step act) {P : τ → Prop}
    (hstep : ∀ t t', step t t' → P t → P t') {s : σ} (hs : ready s) (hP : P (view s)) :
    P (view (act s).2) := by
  have hpath := (h s hs).2
  generalize view (act s).2 = t at hpath ⊢
  induction hpath with
  | refl => exact hP
  | tail _ hlast ih => exact hstep _ _ hlast ih

end Follows

end LinkStack
