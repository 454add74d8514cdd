import LinkStack.Proofs.Network.Execution

/-!
Networks up to their counters.

Packets that pass through a network leave its objects as they are, apart from
counters and from what a framing layer holds of a frame. The outline of an
object leaves those out, so a network keeps its outline whatever passes.

`Yields plan act c x c'` says that on every network with the outline `plan` and
the contents `c` the action answers `x` and leaves the outline `plan` and the
contents `c'`. Nothing has to be known of how many objects there are or where
they stand; what a layer is linked to is read off the outline. As with `Does`,
the rules follow the structure of an action.
-/

namespace LinkStack

namespace Object

/-- An object without its counters, without what it has received in part and
without the side it last heard. -/
def outline : Object → Object
  | .framer f => .framer { f with buffer := [], lastRx := 0, stats := {} }
  | .dispatch d => .dispatch { d with stats := {} }
  | .transport t => .transport { t with stats := {} }
  | .user u => .user { u with stats := {} }
  | .duplicator d first second =>
    .duplicator { d with lastOrigin := none, disagreements := 0, stats := {} } first second
  | .redirect r => .redirect { r with stats := {} }
  | .loopback l inbox outbox => .loopback { l with stats := {} } inbox outbox
  | .receiver r key => .receiver { r with stats := {} } key
  | object => object

/-- What is left out of an outline and yet matters: the errors that a framing
layer or a port layer has counted, and what a framing layer has received of a
frame. -/
structure Condition where
  rxErrors : UInt32 := 0
  buffer : Bytes := []

def condition : Object → Condition
  | .framer f => { rxErrors := f.stats.rxErrors, buffer := f.buffer }
  | .transport t => { rxErrors := t.stats.rxErrors }
  | _ => {}

end Object

/-! ### Outlines in views -/

/-- A view in which the outline of an object is the outline of its state. -/
class View.Outlined {S : Type} (view : View S) where
  outline : S → S
  condition : S → Object.Condition
  get?_outline (object : Object) : view.get? object.outline = (view.get? object).map outline
  set_get {object : Object} {state : S} (h : view.get? object = some state) :
    view.set state object = object
  outline_set {object : Object} {state : S} (h : view.get? object = some state) (state' : S) :
    (view.set state' object).outline = view.set (outline state') object.outline
  condition_get {object : Object} {state : S} (h : view.get? object = some state) :
    object.condition = condition state
  condition_set {object : Object} {state : S} (h : view.get? object = some state) (state' : S) :
    (view.set state' object).condition = condition state'

namespace View

instance : Outlined framer where
  outline f := { f with buffer := [], lastRx := 0, stats := {} }
  condition f := { rxErrors := f.stats.rxErrors, buffer := f.buffer }
  get?_outline object := by cases object <;> rfl
  set_get {object} _ h := by cases object <;> cases h; rfl
  outline_set {object} _ h _ := by cases object <;> cases h; rfl
  condition_get {object} _ h := by cases object <;> cases h; rfl
  condition_set {object} _ h _ := by cases object <;> cases h; rfl

instance : Outlined dispatch where
  outline d := { d with stats := {} }
  condition _ := {}
  get?_outline object := by cases object <;> rfl
  set_get {object} _ h := by cases object <;> cases h; rfl
  outline_set {object} _ h _ := by cases object <;> cases h; rfl
  condition_get {object} _ h := by cases object <;> cases h; rfl
  condition_set {object} _ h _ := by cases object <;> cases h; rfl

instance : Outlined transport where
  outline t := { t with stats := {} }
  condition t := { rxErrors := t.stats.rxErrors }
  get?_outline object := by cases object <;> rfl
  set_get {object} _ h := by cases object <;> cases h; rfl
  outline_set {object} _ h _ := by cases object <;> cases h; rfl
  condition_get {object} _ h := by cases object <;> cases h; rfl
  condition_set {object} _ h _ := by cases object <;> cases h; rfl

instance : Outlined user where
  outline u := { u with stats := {} }
  condition _ := {}
  get?_outline object := by cases object <;> rfl
  set_get {object} _ h := by cases object <;> cases h; rfl
  outline_set {object} _ h _ := by cases object <;> cases h; rfl
  condition_get {object} _ h := by cases object <;> cases h; rfl
  condition_set {object} _ h _ := by cases object <;> cases h; rfl

instance : Outlined duplicator where
  outline d := { d with lastOrigin := none, disagreements := 0, stats := {} }
  condition _ := {}
  get?_outline object := by cases object <;> rfl
  set_get {object} _ h := by cases object <;> cases h; rfl
  outline_set {object} _ h _ := by cases object <;> cases h; rfl
  condition_get {object} _ h := by cases object <;> cases h; rfl
  condition_set {object} _ h _ := by cases object <;> cases h; rfl

instance : Outlined redirect where
  outline r := { r with stats := {} }
  condition _ := {}
  get?_outline object := by cases object <;> rfl
  set_get {object} _ h := by cases object <;> cases h; rfl
  outline_set {object} _ h _ := by cases object <;> cases h; rfl
  condition_get {object} _ h := by cases object <;> cases h; rfl
  condition_set {object} _ h _ := by cases object <;> cases h; rfl

instance : Outlined loopback where
  outline l := { l with stats := {} }
  condition _ := {}
  get?_outline object := by cases object <;> rfl
  set_get {object} _ h := by cases object <;> cases h; rfl
  outline_set {object} _ h _ := by cases object <;> cases h; rfl
  condition_get {object} _ h := by cases object <;> cases h; rfl
  condition_set {object} _ h _ := by cases object <;> cases h; rfl

instance : Outlined receiver where
  outline r := { r with stats := {} }
  condition _ := {}
  get?_outline object := by cases object <;> rfl
  set_get {object} _ h := by cases object <;> cases h; rfl
  outline_set {object} _ h _ := by cases object <;> cases h; rfl
  condition_get {object} _ h := by cases object <;> cases h; rfl
  condition_set {object} _ h _ := by cases object <;> cases h; rfl

end View

namespace Network

variable {σ α β ε : Type}

/-! ### Outline and contents -/

def outline (n : Network σ) : Ref → Option Object := fun ref => (n.object? ref).map (·.outline)

theorem outline_eq {n : Network σ} {ref : Ref} {object : Object} (h : n.object? ref = some object) :
    n.outline ref = some object.outline := by
  rw [outline, h]
  rfl

/-- What passing packets change in a network. -/
structure Contents (σ : Type) where
  condition : Ref → Object.Condition
  mailboxes : Array (List Bytes)
  timers : List Ref
  app : σ

def contents (n : Network σ) : Contents σ where
  condition ref := ((n.object? ref).map (·.condition)).getD {}
  mailboxes := n.mailboxes
  timers := n.clock.timers
  app := n.app

namespace Contents

variable (c : Contents σ)

def mailbox (mailbox : Mailbox) : List Bytes := c.mailboxes[mailbox]?.getD []

def updateMailbox (mailbox : Mailbox) (change : List Bytes → List Bytes) : Contents σ :=
  { c with mailboxes := c.mailboxes.modify mailbox change }

def setCondition (ref : Ref) (condition : Object.Condition) : Contents σ :=
  { c with condition := Function.update c.condition ref condition }

theorem setCondition_self (ref : Ref) : c.setCondition ref (c.condition ref) = c := by
  simp [setCondition]

theorem condition_setCondition (ref : Ref) (condition : Object.Condition) :
    (c.setCondition ref condition).condition ref = condition :=
  Function.update_self ..

theorem setCondition_setCondition (ref : Ref) (condition condition' : Object.Condition) :
    (c.setCondition ref condition).setCondition ref condition' = c.setCondition ref condition' := by
  simp [setCondition]

theorem mailbox_updateMailbox_self {mailbox : Mailbox} (h : mailbox < c.mailboxes.size)
    (change : List Bytes → List Bytes) :
    (c.updateMailbox mailbox change).mailbox mailbox = change (c.mailbox mailbox) := by
  simp only [Contents.mailbox, updateMailbox, Array.getElem?_modify, if_true,
    Array.getElem?_eq_getElem h, Option.map_some, Option.getD_some]

theorem mailbox_updateMailbox_of_ne {mailbox other : Mailbox} (h : other ≠ mailbox)
    (change : List Bytes → List Bytes) :
    (c.updateMailbox other change).mailbox mailbox = c.mailbox mailbox := by
  simp [Contents.mailbox, updateMailbox, Array.getElem?_modify, h]

end Contents

theorem withHolders_self (n : Network σ) :
    (n.withHolders fun ref => ((n.slot? ref).map (·.holders)).getD 1) = n := by
  have hslots : n.slots.mapIdx (fun ref slot => slot.map fun slot =>
      { slot with holders := ((n.slot? ref).map (·.holders)).getD 1 }) = n.slots := by
    apply Array.ext_getElem?
    intro ref
    rw [Array.getElem?_mapIdx]
    cases hslot : n.slots[ref]? with
    | none => rfl
    | some slot => cases slot <;> simp [slot?, hslot]
  rw [withHolders, hslots]

theorem outline_withHolders (n : Network σ) (holders : Ref → Nat) :
    (n.withHolders holders).outline = n.outline := by
  funext ref
  rw [outline, outline, object?_withHolders]

theorem contents_withHolders (n : Network σ) (holders : Ref → Nat) :
    (n.withHolders holders).contents = n.contents := by
  simp only [contents, object?_withHolders]
  rfl

section Objects

variable {n : Network σ} {ref : Ref} {object : Object}

theorem slot?_setSlot (n : Network σ) (ref other : Ref) (slot : Option Slot) :
    (n.setSlot ref slot).slot? other =
      if ref = other then (if ref < n.slots.size then slot else none) else n.slot? other := by
  rw [slot?, setSlot, Array.getElem?_setIfInBounds]
  by_cases hother : ref = other
  · by_cases hsize : ref < n.slots.size <;> simp [hother, hother ▸ hsize]
  · simp [hother, slot?]

theorem object?_setObject (h : n.object? ref = some object) (object' : Object) (other : Ref) :
    (n.setObject ref object').object? other =
      Function.update n.object? ref (some object') other := by
  obtain ⟨slot, hslot, -⟩ := Option.map_eq_some_iff.mp h
  have hsize : ref < n.slots.size := by
    rw [slot?, Option.join_eq_some_iff] at hslot
    exact (Array.getElem?_eq_some_iff.mp hslot).1
  rw [object?, setObject, hslot, slot?_setSlot]
  by_cases hother : ref = other
  · subst hother
    simp [hsize]
  · rw [if_neg hother, Function.update_of_ne (Ne.symm hother)]
    rfl

theorem object?_update {S : Type} {view : View S} {state : S} (h : n.object? ref = some object)
    (hget : view.get? object = some state) (change : S → S) (other : Ref) :
    (n.update view ref change).object? other =
      Function.update n.object? ref (some (view.set (change state) object)) other := by
  rw [update, h]
  simp only [hget]
  exact object?_setObject h _ other

theorem setObject_eq (n : Network σ) (ref : Ref) (object : Object) :
    n.setObject ref object = { n with slots := (n.setObject ref object).slots } := by
  rw [setObject]
  split <;> rfl

theorem update_eq {S : Type} (n : Network σ) (view : View S) (ref : Ref) (change : S → S) :
    n.update view ref change = { n with slots := (n.update view ref change).slots } := by
  rw [update]
  split
  · rfl
  · split
    · rfl
    · exact setObject_eq ..

variable {S : Type} {view : View S} [View.Outlined view] {state : S}

theorem outline_update (h : n.object? ref = some object) (hget : view.get? object = some state)
    {change : S → S}
    (hsame : View.Outlined.outline view (change state) = View.Outlined.outline view state) :
    (n.update view ref change).outline = n.outline := by
  have hself : (view.set (change state) object).outline = object.outline := by
    rw [View.Outlined.outline_set hget, hsame]
    apply View.Outlined.set_get
    rw [View.Outlined.get?_outline, hget]
    rfl
  funext other
  rw [outline, object?_update h hget]
  by_cases hother : other = ref
  · subst hother
    rw [Function.update_self, outline, h]
    exact congrArg some hself
  · rw [Function.update_of_ne hother]
    rfl

theorem contents_update (h : n.object? ref = some object) (hget : view.get? object = some state)
    (change : S → S) :
    (n.update view ref change).contents =
      n.contents.setCondition ref (View.Outlined.condition view (change state)) := by
  have hcondition : (n.update view ref change).contents.condition =
      Function.update n.contents.condition ref
        (View.Outlined.condition view (change state)) := by
    funext other
    simp only [contents, object?_update h hget]
    by_cases hother : other = ref
    · subst hother
      simp [View.Outlined.condition_set hget]
    · simp only [Function.update_of_ne hother]
  rw [Contents.setCondition, ← hcondition, update_eq]
  rfl

end Objects

/-! ### Running actions -/

/-- On every network with the outline `plan` and the contents `c`, the action
answers `x` and leaves the outline as it is and the contents `c'`. -/
def Yields (plan : Ref → Option Object) (act : Act σ α) (c : Contents σ) (x : α)
    (c' : Contents σ) : Prop :=
  ∀ n : Network σ, n.outline = plan → n.contents = c →
    ∃ n' : Network σ, Does act n x n' ∧ n'.outline = plan ∧ n'.contents = c'

namespace Yields

variable {plan : Ref → Option Object} {c c' c'' : Contents σ} {x : α} {y : β}

/-- An action that asks only for what the outline and the contents say. -/
theorem of_query {act : Act σ α}
    (h : ∀ n : Network σ, n.outline = plan → n.contents = c → Does act n x n) :
    Yields plan act c x c :=
  fun n hplan hc => ⟨n, h n hplan hc, hplan, hc⟩

/-- The action on a network in which everything has a holder. -/
theorem run {act : Act σ α} {n : Network σ} (h : Yields plan act c x c')
    (hholders : ∀ ref slot, n.slot? ref = some slot → 0 < slot.holders)
    (hplan : n.outline = plan) (hc : n.contents = c) :
    ∃ n', act n = some (x, n') ∧ n'.outline = plan ∧ n'.contents = c' := by
  obtain ⟨n', hdoes, hplan', hc'⟩ := h n hplan hc
  have hact := hdoes (fun ref => ((n.slot? ref).map (·.holders)).getD 1) fun ref => by
    cases hslot : n.slot? ref with
    | none => exact Nat.one_pos
    | some slot => exact hholders ref slot hslot
  rw [withHolders_self] at hact
  exact ⟨_, hact, (outline_withHolders ..).trans hplan', (contents_withHolders ..).trans hc'⟩

theorem pure : Yields plan (pure x : Act σ α) c x c := of_query fun _ _ _ => Does.pure

theorem bind {act : Act σ α} {next : α → Act σ β} (h : Yields plan act c x c')
    (hnext : Yields plan (next x) c' y c'') : Yields plan (act >>= next) c y c'' := by
  intro n hplan hc
  obtain ⟨n', hact, hplan', hc'⟩ := h n hplan hc
  obtain ⟨n'', hrest, hplan'', hc''⟩ := hnext n' hplan' hc'
  exact ⟨n'', hact.bind hrest, hplan'', hc''⟩

theorem map {act : Act σ α} {f : α → β} (h : Yields plan act c x c') :
    Yields plan (f <$> act) c (f x) c' := by
  rw [map_eq_pure_bind]
  exact h.bind pure

/-- A question to which the answer is not known, but what follows does not
depend on it. -/
theorem query_bind {act : Act σ α} {next : α → Act σ β} {P : α → Prop}
    (h : ∀ n : Network σ, n.outline = plan → n.contents = c → ∃ x, P x ∧ Does act n x n)
    (hnext : ∀ x, P x → Yields plan (next x) c y c') : Yields plan (act >>= next) c y c' := by
  intro n hplan hc
  obtain ⟨x, hx, hact⟩ := h n hplan hc
  obtain ⟨n', hrest, hplan', hc'⟩ := hnext x hx n hplan hc
  exact ⟨n', hact.bind hrest, hplan', hc'⟩

theorem holding {act : Act σ α} {ref : Ref} (halive : (plan ref).isSome)
    (h : Yields plan act c x c') : Yields plan (holding ref act) c x c' := by
  intro n hplan hc
  obtain ⟨n', hact, hplan', hc'⟩ := h n hplan hc
  refine ⟨n', Does.holding ?_ hact, hplan', hc'⟩
  rw [← hplan', Network.outline, Option.isSome_map, object?, Option.isSome_map] at halive
  exact halive

/-! ### The application -/

theorem modify_app (change : σ → σ) :
    Yields plan (modify fun n => { n with app := change n.app } : Act σ PUnit) c PUnit.unit
      { c with app := change c.app } := by
  intro n hplan hc
  refine ⟨_, Does.modify fun _ => rfl, hplan, ?_⟩
  rw [← hc]
  rfl

theorem get_app_bind {next : Network σ → Act σ β}
    (hsame : ∀ (n : Network σ) (holders : Ref → Nat), next (n.withHolders holders) = next n)
    (hnext : ∀ n : Network σ, n.app = c.app → Yields plan (next n) c y c') :
    Yields plan (get >>= next) c y c' := by
  intro n hplan hc
  obtain ⟨n', hrest, hn'⟩ := hnext n (congrArg Contents.app hc) n hplan hc
  exact ⟨n', Does.get_bind (hsame n) hrest, hn'⟩

/-! ### Actions that can be refused -/

theorem bind_ok {act : ExceptT ε (Act σ) α} {next : α → ExceptT ε (Act σ) β} {answer : Except ε β}
    (h : Yields plan act.run c (.ok x) c') (hnext : Yields plan (next x).run c' answer c'') :
    Yields plan (act >>= next).run c answer c'' := by
  rw [ExceptT.run_bind]
  exact h.bind hnext

theorem bind_error {act : ExceptT ε (Act σ) α} {next : α → ExceptT ε (Act σ) β} {error : ε}
    (h : Yields plan act.run c (.error error) c') :
    Yields plan (act >>= next).run c (.error error) c' := by
  rw [ExceptT.run_bind]
  exact h.bind pure

theorem lift {act : Act σ α} (h : Yields plan act c x c') :
    Yields plan (liftM act : ExceptT ε (Act σ) α).run c (.ok x) c' :=
  h.map

theorem lift_bind {act : Act σ α} {next : α → ExceptT ε (Act σ) β} {answer : Except ε β}
    (h : Yields plan (act >>= fun x => (next x).run) c answer c') :
    Yields plan ((liftM act : ExceptT ε (Act σ) α) >>= next).run c answer c' := by
  have hrun : ((liftM act : ExceptT ε (Act σ) α) >>= next).run =
      act >>= fun x => (next x).run := ExceptT.run_bind_lift act next
  rwa [hrun]

theorem ok : Yields plan (Pure.pure x : ExceptT ε (Act σ) α).run c (.ok x) c := pure

theorem throw {error : ε} :
    Yields plan (throw error : ExceptT ε (Act σ) α).run c (.error error) c := pure

theorem attempt {call : ExceptT LayerError (Act σ) α} {answer : Except LayerError α}
    (h : Yields plan call.run c answer c') :
    Yields plan (attempt call).run c (.ok answer) c' :=
  h.map

/-! ### What an object has at hand -/

section Site

variable {S : Type} {calls : Calls σ} {view : View S} [View.Outlined view] {ref : Ref}
  {object : Object} {state : S}

/-- An object with an outline that is seen in a view has a state in it. -/
theorem exists_state {n : Network σ} (hplan : n.outline = plan) (hc : n.contents = c)
    (h : plan ref = some object) (hget : view.get? object = some state) :
    ∃ object' state', n.object? ref = some object' ∧ view.get? object' = some state' ∧
      View.Outlined.outline view state' = state ∧
      View.Outlined.condition view state' = c.condition ref := by
  rw [← hplan, Network.outline, Option.map_eq_some_iff] at h
  obtain ⟨object', hobject, rfl⟩ := h
  rw [View.Outlined.get?_outline, Option.map_eq_some_iff] at hget
  obtain ⟨state', hstate, rfl⟩ := hget
  refine ⟨object', state', hobject, hstate, rfl, ?_⟩
  rw [← hc, ← View.Outlined.condition_get hstate]
  simp only [contents, hobject, Option.map_some, Option.getD_some]

variable (view) in
/-- An object that is there is seen with the condition that the contents show. -/
theorem exists_read {n : Network σ} (h : n.outline ref = some object)
    (hget : view.get? object = some state) :
    ∃ state', n.read? view ref = some state' ∧
      View.Outlined.condition view state' = n.contents.condition ref := by
  obtain ⟨object', state', hobject, hstate, -, hcondition⟩ := exists_state rfl rfl h hget
  refine ⟨state', ?_, hcondition⟩
  rw [read?, hobject, Option.bind_some, hstate]

theorem isAlive {n : Network σ} (hplan : n.outline = plan) (ref : Ref) :
    n.isAlive ref = (plan ref).isSome := by
  rw [← hplan, Network.outline, Option.isSome_map, object?, Option.isSome_map, Network.isAlive]

variable (h : plan ref = some object) (hget : view.get? object = some state)

include h hget

theorem get_bind {next : S → Act σ β}
    (hnext : ∀ s, View.Outlined.outline view s = state →
      View.Outlined.condition view s = c.condition ref → Yields plan (next s) c y c') :
    Yields plan ((site calls view ref).get >>= next) c y c' := by
  refine query_bind (P := fun s => View.Outlined.outline view s = state ∧
    View.Outlined.condition view s = c.condition ref) ?_ fun s hs => hnext s hs.1 hs.2
  intro n hplan hc
  obtain ⟨object', s, hobject, hstate, hs⟩ := exists_state hplan hc h hget
  refine ⟨s, hs, Does.site_get ?_⟩
  rw [read?, hobject, Option.bind_some, hstate]

theorem modify {change : S → S} {condition : Object.Condition}
    (hchange : ∀ s, View.Outlined.outline view s = state →
      View.Outlined.condition view s = c.condition ref →
      View.Outlined.outline view (change s) = state ∧
        View.Outlined.condition view (change s) = condition) :
    Yields plan ((site calls view ref).modify change) c PUnit.unit
      (c.setCondition ref condition) := by
  intro n hplan hc
  obtain ⟨object', s, hobject, hstate, hs, hcondition⟩ := exists_state hplan hc h hget
  obtain ⟨hsame, hnew⟩ := hchange s hs hcondition
  refine ⟨_, Does.site_modify change, ?_, ?_⟩
  · rw [outline_update hobject hstate (hsame.trans hs.symm), hplan]
  · rw [contents_update hobject hstate, hnew, hc]

/-- A change that neither the outline nor the contents show. -/
theorem modify_same {change : S → S}
    (hchange : ∀ s, View.Outlined.outline view s = state →
      View.Outlined.condition view s = c.condition ref →
      View.Outlined.outline view (change s) = state ∧
        View.Outlined.condition view (change s) = c.condition ref) :
    Yields plan ((site calls view ref).modify change) c PUnit.unit c := by
  have hrun : Yields plan ((site calls view ref).modify change) c PUnit.unit
      (c.setCondition ref (c.condition ref)) := modify h hget hchange
  rwa [Contents.setCondition_self] at hrun

variable {node : S → Node Ref} (hnode : ∀ s, node (View.Outlined.outline view s) = node s)
  {links : Links Ref} (hlinks : (node state).links = some links)

include hnode hlinks

theorem exists_linked {n : Network σ} (hplan : n.outline = plan) (hc : n.contents = c) :
    ∃ s, n.read? view ref = some s ∧ (node s).links = some links := by
  obtain ⟨object', s, hobject, hstate, hs, -⟩ := exists_state hplan hc h hget
  refine ⟨s, ?_, ?_⟩
  · rw [read?, hobject, Option.bind_some, hstate]
  · rw [← hlinks, ← hs, hnode]

theorem ensureInitialized :
    Yields plan ((site calls view ref).ensureInitialized node).run c (.ok ()) c :=
  of_query fun _ hplan hc =>
    have ⟨_, hread, hlinked⟩ := exists_linked h hget hnode hlinks hplan hc
    Does.ensureInitialized hread hlinked

theorem child {target : Ref} (hchild : links.child = some target) :
    Yields plan ((site calls view ref).child node).run c (.ok (calls.layer target)) c :=
  of_query fun _ hplan hc =>
    have ⟨_, hread, hlinked⟩ := exists_linked h hget hnode hlinks hplan hc
    Does.child hread hlinked hchild

theorem parent? {target : Ref} (hparent : links.parent = some target)
    (halive : (plan target).isSome) :
    Yields plan ((site calls view ref).parent? node).run c (.ok (some (calls.layer target))) c :=
  of_query fun _ hplan hc =>
    have ⟨_, hread, hlinked⟩ := exists_linked h hget hnode hlinks hplan hc
    Does.parent? hread hlinked hparent ((isAlive hplan target).trans halive)

end Site

section Site

variable {S : Type} {calls : Calls σ} {view : View S} {ref : Ref}

theorem now_bind {next : Tick → Act σ β} (hnext : ∀ now, Yields plan (next now) c y c') :
    Yields plan ((site calls view ref).now >>= next) c y c' :=
  query_bind (P := fun _ => True) (fun _ _ _ => ⟨_, trivial, Does.site_now⟩)
    fun now _ => hnext now

/-- The layer behind a handler whose target is there. -/
theorem resolve (handler : Addressing.Handler Ref) (halive : (plan handler.target).isSome) :
    Yields plan (handler.resolve (site calls view ref)) c (some (calls.layer handler.target))
      c := by
  cases handler with
  | receiver target => exact pure
  | layer target =>
      refine of_query fun n hplan _ => (Does.site_alive target).bind ?_
      rw [isAlive hplan, show (plan target).isSome = true from halive]
      exact Does.pure

end Site

/-! ### Links in memory -/

section Wire

variable {inbox outbox : Mailbox}

theorem push (bytes : Bytes) :
    Yields plan ((wire inbox outbox).push bytes) c PUnit.unit
      (c.updateMailbox outbox (· ++ [bytes])) := by
  intro n hplan hc
  refine ⟨_, Does.push bytes, hplan, ?_⟩
  rw [← hc]
  rfl

theorem pop_nil (h : c.mailbox inbox = []) : Yields plan (wire inbox outbox).pop c none c := by
  refine of_query fun n _ hc => Does.pop_nil ?_
  rw [← hc] at h
  exact h

theorem pop_cons {bytes : Bytes} {rest : List Bytes} (h : c.mailbox inbox = bytes :: rest) :
    Yields plan (wire inbox outbox).pop c (some bytes) (c.updateMailbox inbox List.tail) := by
  intro n hplan hc
  rw [← hc] at h ⊢
  exact ⟨_, Does.pop_cons h, hplan, rfl⟩

theorem pending : Yields plan (wire inbox outbox).pending c (c.mailbox inbox).length c := by
  refine of_query fun n _ hc => ?_
  rw [← hc]
  exact Does.pending

end Wire

/-! ### Calls -/

section Calls

variable {app : App σ} {levels : Nat} {ref : Ref} {object : Object} {layer : Layer (Act σ)}

/-- What an object does as a layer is decided by its outline. -/
theorem layerOf_outline (app : App σ) (calls : Calls σ) (ref : Ref) (object : Object) :
    layerOf app calls ref object.outline = layerOf app calls ref object := by
  cases object <;> rfl

theorem findLayer {below : Calls σ} (h : plan ref = some object)
    (hlayer : layerOf app below ref object = some layer) :
    Yields plan (findLayer app below ref) c layer c := by
  refine of_query fun n hplan _ => ?_
  rw [← hplan, Network.outline, Option.map_eq_some_iff] at h
  obtain ⟨object', hobject, rfl⟩ := h
  exact Does.findLayer hobject ((layerOf_outline ..).symm.trans hlayer)

variable (h : plan ref = some object)
  (hlayer : layerOf app (calls app levels) ref object = some layer)

include h hlayer

theorem recv {bytes : Bytes} {answer : Except LayerError Nat}
    (hrun : Yields plan (layer.recv bytes).run c answer c') :
    Yields plan (((calls app (levels + 1)).layer ref).recv bytes).run c answer c' :=
  holding (by rw [h]; rfl) (bind_ok (lift (findLayer h hlayer)) hrun)

theorem send {bytes : Bytes} {answer : Except LayerError Nat}
    (hrun : Yields plan (layer.send bytes).run c answer c') :
    Yields plan (((calls app (levels + 1)).layer ref).send bytes).run c answer c' :=
  holding (by rw [h]; rfl) (bind_ok (lift (findLayer h hlayer)) hrun)

end Calls

/-! ### Timers -/

theorem serves {act : Ref → Act σ Unit} {timers : List Ref}
    (halive : ∀ timer ∈ timers, (plan timer).isSome)
    (hact : ∀ timer ∈ timers, Yields plan (act timer) c () c) {n : Network σ}
    (hplan : n.outline = plan) (hc : n.contents = c) :
    ∃ n', Serves act timers n n' ∧ n'.outline = plan ∧ n'.contents = c := by
  induction timers generalizing n with
  | nil => exact ⟨n, .nil, hplan, hc⟩
  | cons timer timers ih =>
      obtain ⟨n', hdoes, hplan', hc'⟩ := hact timer List.mem_cons_self n hplan hc
      obtain ⟨n'', hserves, hplan'', hc''⟩ :=
        ih (fun t ht => halive t (List.mem_cons_of_mem _ ht))
          (fun t ht => hact t (List.mem_cons_of_mem _ ht)) hplan' hc'
      refine ⟨n'', .cons hdoes ?_ hserves, hplan'', hc''⟩
      rw [isAlive hplan']
      exact halive timer List.mem_cons_self

/-- The clock moves, and no timer has anything to do. -/
theorem advance_bind {calls : Calls σ} {ticks : Tick} {next : Tick → Act σ β}
    (halive : ∀ timer ∈ c.timers, (plan timer).isSome)
    (hserve : ∀ now, ∀ timer ∈ c.timers, Yields plan (serve calls now timer) c () c)
    (hnext : ∀ now, Yields plan (next now) c y c') :
    Yields plan (advance calls ticks >>= next) c y c' := by
  intro n hplan hc
  have htimers : n.clock.timers = c.timers := congrArg Contents.timers hc
  obtain ⟨m, hm⟩ : ∃ m : Network σ, m = { n with clock := n.clock.advance ticks } := ⟨_, rfl⟩
  have hplan' : m.outline = plan := hm ▸ hplan
  have hc' : m.contents = c := hm ▸ hc
  have hclock : m.clock.timers = c.timers := hm ▸ htimers
  obtain ⟨n', hserves, hplan'', hc''⟩ := serves halive (hserve m.clock.now) hplan' hc'
  have hnotify : Does (notify calls) m () n' := by
    refine Does.notify ?_ (hclock.symm ▸ hserves)
    intro timer htimer
    rw [isAlive hplan']
    exact halive timer (hclock ▸ htimer)
  obtain ⟨n'', hrest, hplan''', hc'''⟩ := hnext _ n' hplan'' hc''
  exact ⟨n'', (Does.advance (hm ▸ hnotify)).bind hrest, hplan''', hc'''⟩

end Yields

end Network

end LinkStack
