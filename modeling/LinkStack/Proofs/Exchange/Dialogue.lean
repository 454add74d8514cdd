import Mathlib.Logic.Function.Basic
import LinkStack.Proofs.Exchange.Received

/-!
Two message layers that talk.

Each layer is used by its application, and is fed packets that the other one has
sent, in any order and any number of times. The layers have surroundings of their
own, which act on a state that they share; the layers themselves share nothing.
-/

namespace LinkStack.Exchange

inductive Peer where
  | left
  | right
  deriving DecidableEq, Repr

def Peer.other : Peer → Peer
  | left => right
  | right => left

variable {η E : Type}

/-! ### What a call shows -/

/-- A packet that is handed to the child, or the call of a handler. -/
inductive Notice (η : Type) where
  | handed (packet : Bytes)
  | called (running : Option Nat) (handler : η) (input : Option Bytes)

def notice? : Instant η → Option (Notice η)
  | .noted (.contact .child (.send packet _)) => some (.handed packet)
  | .noted (.contact .child (.sendConfirmed packet _)) => some (.handed packet)
  | .noted (.called running handler input) => some (.called running handler input)
  | _ => none

def seen (history : List (Instant η)) : List (Notice η) := history.filterMap notice?

def Notice.packet? : Notice η → Option Bytes
  | handed packet => some packet
  | called .. => none

/-- The packets that were handed to the child. -/
def handed (history : List (Instant η)) : List Bytes := (seen history).filterMap Notice.packet?

section Seen

variable (history later : List (Instant η))

@[simp] theorem seen_nil : seen ([] : List (Instant η)) = [] := rfl

@[simp] theorem seen_append : seen (history ++ later) = seen history ++ seen later :=
  List.filterMap_append

@[simp] theorem handed_append : handed (history ++ later) = handed history ++ handed later := by
  simp [handed]

@[simp] theorem seen_cons_changed (g g' : Messenger Neighbour η) :
    seen (.changed g g' :: history) = seen history :=
  rfl

@[simp] theorem seen_cons_called (running : Option Nat) (handler : η) (input : Option Bytes) :
    seen (.noted (.called running handler input) :: history) =
      .called running handler input :: seen history :=
  rfl

@[simp] theorem seen_cons_capacity (who : Neighbour) (room : Nat) :
    seen (.noted (.contact who (.capacity room)) :: history) = seen history := by
  cases who <;> rfl

@[simp] theorem seen_cons_recv (who : Neighbour) (packet : Bytes)
    (answer : Except LayerError Nat) :
    seen (.noted (.contact who (.recv packet answer)) :: history) = seen history := by
  cases who <;> rfl

@[simp] theorem seen_cons_transmission (confirmed : Bool) (bytes : Bytes)
    (answer : Except LayerError Nat) :
    seen (.noted (Messenger.transmission confirmed bytes answer) :: history) =
      .handed bytes :: seen history := by
  cases confirmed <;> rfl

end Seen

/-- An operation with the record of its call, with any handlers. -/
def Op.record (n : Neighbours E) (limit : Nat) (call : Handlers η E) (op : Op) :
    StateM (Stage η E) (Call η) := fun s =>
  let s' := (op.run n limit call { s with history := [] }).2
  ({ op, before := s.layer, moments := s'.history, after := s'.layer }, s')

/-- With handlers that note their calls, this is the record of a single layer's call. -/
theorem Op.record_noted (n : Neighbours E) (limit : Nat)
    (handle : η → Option Bytes → StateM E (Option Bytes)) (op : Op) :
    op.record n limit (.noted handle) = op.call n limit handle :=
  rfl

/-! ### Dialogues -/

/-- What the layers stand among, and their handlers. -/
structure Surroundings (η E : Type) where
  neighbours : Peer → Neighbours E
  limit : Peer → Nat
  handlers : Peer → Handlers η E

/-- Two layers with what has been done with them. -/
structure Dialogue (η E : Type) where
  layer : Peer → Messenger Neighbour η
  now : Peer → Tick
  around : E
  calls : Peer → List (Call η) := fun _ => []

namespace Dialogue

/-- New layers for the same catalog. -/
def begun (table : Catalog.Table η) (config : Peer → Config) (parent : Peer → Option Neighbour)
    (around : E) (now : Peer → Tick) : Dialogue η E where
  layer who := .begun table (config who) (parent who)
  now := now
  around := around

def stage (d : Dialogue η E) (who : Peer) : Stage η E := ⟨d.layer who, d.around, d.now who, []⟩

/-- The packets that a layer has sent. -/
def sent (d : Dialogue η E) (who : Peer) : List Bytes :=
  (d.calls who).flatMap fun call => handed call.moments

def perform (w : Surroundings η E) (who : Peer) (op : Op) (d : Dialogue η E) : Dialogue η E :=
  let (call, s) := op.record (w.neighbours who) (w.limit who) (w.handlers who) (d.stage who)
  { layer := Function.update d.layer who s.layer
    now := Function.update d.now who s.now
    around := s.around
    calls := Function.update d.calls who (d.calls who ++ [call]) }

section Fields

variable (w : Surroundings η E) (who : Peer) (op : Op) (d : Dialogue η E) {m : Peer}

/-- The scene of a layer after an operation. -/
def performed : Stage η E :=
  (op.run (w.neighbours who) (w.limit who) (w.handlers who) (d.stage who)).2

@[simp] theorem layer_perform_self :
    (d.perform w who op).layer who = (d.performed w who op).layer :=
  Function.update_self ..

@[simp] theorem layer_perform_of_ne (h : m ≠ who) : (d.perform w who op).layer m = d.layer m :=
  Function.update_of_ne h ..

@[simp] theorem now_perform_self : (d.perform w who op).now who = (d.performed w who op).now :=
  Function.update_self ..

@[simp] theorem now_perform_of_ne (h : m ≠ who) : (d.perform w who op).now m = d.now m :=
  Function.update_of_ne h ..

@[simp] theorem around_perform : (d.perform w who op).around = (d.performed w who op).around :=
  rfl

@[simp] theorem calls_perform_self : (d.perform w who op).calls who = d.calls who ++
    [⟨op, d.layer who, (d.performed w who op).history, (d.performed w who op).layer⟩] :=
  Function.update_self ..

@[simp] theorem calls_perform_of_ne (h : m ≠ who) : (d.perform w who op).calls m = d.calls m :=
  Function.update_of_ne h ..

@[simp] theorem sent_perform_self : (d.perform w who op).sent who =
    d.sent who ++ handed (d.performed w who op).history := by
  simp [sent]

@[simp] theorem sent_perform_of_ne (h : m ≠ who) : (d.perform w who op).sent m = d.sent m := by
  simp [sent, h]

end Fields

end Dialogue

namespace Dialogue

variable {w : Surroundings η E} {who m : Peer} {d d' d'' : Dialogue η E}

/-- The application of a layer uses it, or the layer is fed a packet that the other one
has sent. -/
inductive Talks (w : Surroundings η E) (d : Dialogue η E) : Dialogue η E → Prop where
  | perform (who : Peer) (op : Op)
      (hfed : ∀ packet, op = .recv packet → packet ∈ d.sent who.other) :
      Talks w d (d.perform w who op)

/-- Operations on one layer, one after the other. -/
def performAll (w : Surroundings η E) (who : Peer) (ops : List Op) (d : Dialogue η E) :
    Dialogue η E :=
  ops.foldl (fun d op => d.perform w who op) d

theorem talks_performAll {ops : List Op} (hops : ∀ op ∈ ops, ∀ packet, op ≠ .recv packet) :
    Relation.ReflTransGen (Talks w) d (d.performAll w who ops) := by
  induction ops generalizing d with
  | nil => exact .refl
  | cons op ops ih =>
      rw [List.forall_mem_cons] at hops
      exact .head (.perform who op fun packet hop => absurd hop (hops.1 packet)) (ih hops.2)

/-- What has been done with one layer: the layer and the surroundings after it, and what
was sent meanwhile. -/
structure Changes (who : Peer) (d : Dialogue η E) (layer : Messenger Neighbour η) (around : E)
    (packets : List Bytes) (d' : Dialogue η E) : Prop where
  layer : d'.layer who = layer
  layer_of_ne : ∀ m, m ≠ who → d'.layer m = d.layer m
  calls_of_ne : ∀ m, m ≠ who → d'.calls m = d.calls m
  now : d'.now = d.now
  around : d'.around = around
  sent : d'.sent who = d.sent who ++ packets

theorem Changes.sent_of_ne {g : Messenger Neighbour η} {around : E} {packets : List Bytes}
    (h : Changes who d g around packets d') (hm : m ≠ who) : d'.sent m = d.sent m := by
  rw [Dialogue.sent, Dialogue.sent, h.calls_of_ne m hm]

theorem Changes.trans {g g' : Messenger Neighbour η} {around around' : E}
    {packets packets' : List Bytes} (h : Changes who d g around packets d')
    (h' : Changes who d' g' around' packets' d'') :
    Changes who d g' around' (packets ++ packets') d'' where
  layer := h'.layer
  layer_of_ne m hm := (h'.layer_of_ne m hm).trans (h.layer_of_ne m hm)
  calls_of_ne m hm := (h'.calls_of_ne m hm).trans (h.calls_of_ne m hm)
  now := h'.now.trans h.now
  around := h'.around
  sent := by rw [h'.sent, h.sent, List.append_assoc]

variable (who) in
theorem changes_perform (op : Op) {s : Stage η E} (hs : d.performed w who op = s)
    (hnow : s.now = d.now who) :
    Changes who d s.layer s.around (handed s.history) (d.perform w who op) := by
  subst hs
  refine ⟨layer_perform_self .., fun m hm => layer_perform_of_ne _ _ _ _ hm,
    fun m hm => calls_perform_of_ne _ _ _ _ hm, ?_, rfl, sent_perform_self ..⟩
  funext m
  by_cases hm : m = who
  · subst hm
    rw [now_perform_self, hnow]
  · exact now_perform_of_ne _ _ _ _ hm

theorem changes_post {number : Nat} {priority : Priority} {g : Messenger Neighbour η}
    (hpost : (d.layer who).post number priority = .ok g) :
    Changes who d g d.around [] (d.perform w who (.post number priority)) := by
  have hperformed : d.performed w who (.post number priority) =
      (d.stage who).change fun _ => g := by
    have hstage : (d.stage who).layer.post number priority = .ok g := hpost
    simp only [performed, Op.run, hstage]
  exact changes_perform who (.post number priority) hperformed rfl

/-- Messages that are queued, or taken out of the queue, one after the other. -/
theorem changes_posts {numbers : List Nat} {priority : Priority} {g : Messenger Neighbour η}
    (hposts : numbers.foldlM (fun g number => g.post number priority) (d.layer who) = .ok g) :
    Changes who d g d.around [] (d.performAll w who (numbers.map (.post · priority))) := by
  induction numbers generalizing d with
  | nil =>
      obtain rfl := Except.ok.inj hposts
      exact ⟨rfl, fun _ _ => rfl, fun _ _ => rfl, rfl, rfl, (List.append_nil _).symm⟩
  | cons number numbers ih =>
      cases hpost : (d.layer who).post number priority with
      | error error =>
          rw [List.foldlM_cons, hpost] at hposts
          cases hposts
      | ok g' =>
          rw [List.foldlM_cons, hpost] at hposts
          have hfirst := changes_post (w := w) hpost
          have hrest := ih (d := d.perform w who (.post number priority)) (hfirst.layer ▸ hposts)
          rw [hfirst.around] at hrest
          exact hfirst.trans hrest

end Dialogue

/-! ### A small catalog -/

/-- A catalog of one message with a handler. -/
def named (text : String) (size : Nat) : Catalog.Draft Unit where
  slots := [some { descriptor := text, size, handler := some (), priority := 0 },
    some { descriptor := "%!", size := 0, handler := none, priority := 0 }]
  used := 2

/-- The catalog, if the text is a plain one. -/
def namedTable (text : String) (size : Nat) : Catalog.Table Unit where
  messages := [
    { descriptor := { source := text, tokens := [.literal text] }, size, handler := some (),
      priority := 0 },
    { descriptor := { source := "%!", tokens := [.terminator] }, size := 0, handler := none,
      priority := 0 }]

theorem finish_named : (named "v" 1).finish = .ok (namedTable "v" 1) := by
  with_unfolding_all rfl

end LinkStack.Exchange
