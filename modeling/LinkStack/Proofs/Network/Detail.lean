import LinkStack.Proofs.Network.Outline

/-!
Networks with their framing layers in full.

Some runs cannot be followed through outlines alone: what a framing layer keeps
of a frame and of a confirmed packet, what its timers do and what it counts
matters to them, and so does what a redirect counts. The detail of a network
shows these objects in full; its plan shows all objects without what changes in
them.

`Leads plan act d Q` says that on every network with the plan `plan` and the
detail `d` the action comes to an end, keeps the plan, and answers something
that satisfies `Q` together with the detail it leaves. The rules read off the
action what has to be shown of it, one step at a time: the rule of a sequence
asks for the first action with the rest of the sequence as its postcondition.
-/

namespace LinkStack

namespace Object

/-- An object without its counters, and a framing layer without all that
changes in it. -/
def bare : Object → Object
  | .framer f => .framer { node := f.node, other := f.other, config := f.config, lastRx := 0 }
  | object => object.outline

/-- The objects that are shown in full. -/
def tracked? : Object → Option Object
  | .framer f => some (.framer f)
  | .redirect r => some (.redirect r)
  | _ => none

end Object

/-! ### Views of bare objects -/

namespace View

/-- A view in which bare objects have bare states. -/
class Bared {S : Type} (view : View S) where
  bare : S → S
  get?_bare (object : Object) : view.get? object.bare = (view.get? object).map bare
  bare_set {object : Object} {state : S} (h : view.get? object = some state) (state' : S) :
    (view.set state' object).bare = view.set (bare state') object.bare
  set_get {object : Object} {state : S} (h : view.get? object = some state) :
    view.set state object = object

/-- Setting what is there changes nothing, whatever a bare state is. -/
abbrev Bared.of {S : Type} {view : View S} [Outlined view] (bare : S → S)
    (get?_bare : ∀ object : Object, view.get? object.bare = (view.get? object).map bare)
    (bare_set : ∀ {object : Object} {state : S}, view.get? object = some state → ∀ state' : S,
      (view.set state' object).bare = view.set (bare state') object.bare) : Bared view where
  bare := bare
  get?_bare := get?_bare
  bare_set := bare_set
  set_get := Outlined.set_get

/-- A view of objects that are shown in full. -/
class Tracked {S : Type} (view : View S) extends Bared view where
  object : S → Object
  get?_object (state : S) : view.get? (object state) = some state
  tracked?_object (state : S) : (object state).tracked? = some (object state)
  eq_object {o : Object} {state : S} (h : view.get? o = some state) : o = object state
  set_eq (state : S) (o : Object) : view.set state o = object state

/-- A view of objects that are not. -/
class Passing {S : Type} (view : View S) extends Bared view where
  tracked?_get {object : Object} {state : S} (h : view.get? object = some state) :
    object.tracked? = none
  tracked?_set {object : Object} {state : S} (h : view.get? object = some state) (state' : S) :
    (view.set state' object).tracked? = none

instance : Tracked framer where
  toBared := .of (fun f => { node := f.node, other := f.other, config := f.config, lastRx := 0 })
    (fun object => by cases object <;> rfl)
    fun {object} _ h _ => by cases object <;> cases h; rfl
  object := .framer
  get?_object _ := rfl
  tracked?_object _ := rfl
  eq_object {object} _ h := by cases object <;> cases h; rfl
  set_eq _ _ := rfl

instance : Tracked redirect where
  toBared := .of (fun r => { r with stats := {} })
    (fun object => by cases object <;> rfl)
    fun {object} _ h _ => by cases object <;> cases h; rfl
  object := .redirect
  get?_object _ := rfl
  tracked?_object _ := rfl
  eq_object {object} _ h := by cases object <;> cases h; rfl
  set_eq _ _ := rfl

instance : Passing dispatch where
  toBared := .of (fun d => { d with stats := {} })
    (fun object => by cases object <;> rfl)
    fun {object} _ h _ => by cases object <;> cases h; rfl
  tracked?_get {object} _ h := by cases object <;> cases h; rfl
  tracked?_set {object} _ h _ := by cases object <;> cases h; rfl

instance : Passing transport where
  toBared := .of (fun t => { t with stats := {} })
    (fun object => by cases object <;> rfl)
    fun {object} _ h _ => by cases object <;> cases h; rfl
  tracked?_get {object} _ h := by cases object <;> cases h; rfl
  tracked?_set {object} _ h _ := by cases object <;> cases h; rfl

instance : Passing loopback where
  toBared := .of (fun l => { l with stats := {} })
    (fun object => by cases object <;> rfl)
    fun {object} _ h _ => by cases object <;> cases h; rfl
  tracked?_get {object} _ h := by cases object <;> cases h; rfl
  tracked?_set {object} _ h _ := by cases object <;> cases h; rfl

instance : Passing receiver where
  toBared := .of (fun r => { r with stats := {} })
    (fun object => by cases object <;> rfl)
    fun {object} _ h _ => by cases object <;> cases h; rfl
  tracked?_get {object} _ h := by cases object <;> cases h; rfl
  tracked?_set {object} _ h _ := by cases object <;> cases h; rfl

end View

namespace Network

variable {σ α β ε : Type}

/-! ### Plan and detail -/

/-- The objects without what changes in them. -/
def bare (n : Network σ) : Ref → Option Object := fun ref => (n.object? ref).map (·.bare)

/-- The rest of a network, with framing layers and redirects in full. -/
structure Detail (σ : Type) where
  tracked : Ref → Option Object
  mailboxes : Array (List Bytes)
  clock : Clock Ref
  app : σ

def detail (n : Network σ) : Detail σ where
  tracked ref := (n.object? ref).bind (·.tracked?)
  mailboxes := n.mailboxes
  clock := n.clock
  app := n.app

namespace Detail

variable (d : Detail σ) {S : Type} (view : View S)

/-- The state that a tracked object has in a view. -/
def read? (ref : Ref) : Option S := (d.tracked ref).bind view.get?

/-- Replaces the state of a tracked object. -/
def put [View.Tracked view] (ref : Ref) (state : S) : Detail σ :=
  { d with tracked := Function.update d.tracked ref (some (View.Tracked.object view state)) }

def mailbox (mailbox : Mailbox) : List Bytes := d.mailboxes[mailbox]?.getD []

def updateMailbox (mailbox : Mailbox) (change : List Bytes → List Bytes) : Detail σ :=
  { d with mailboxes := d.mailboxes.modify mailbox change }

/-- Replaces the state of the application. -/
def withApp (app : σ) : Detail σ := { d with app }

variable {d view}

@[simp] theorem read?_withApp (app : σ) (ref : Ref) :
    (d.withApp app).read? view ref = d.read? view ref := rfl

@[simp] theorem clock_withApp (app : σ) : (d.withApp app).clock = d.clock := rfl

@[simp] theorem app_withApp (app : σ) : (d.withApp app).app = app := rfl

@[simp] theorem mailbox_withApp (app : σ) (mailbox : Mailbox) :
    (d.withApp app).mailbox mailbox = d.mailbox mailbox := rfl

@[simp] theorem read?_updateMailbox (mailbox : Mailbox) (change : List Bytes → List Bytes)
    (ref : Ref) : (d.updateMailbox mailbox change).read? view ref = d.read? view ref := rfl

theorem mailbox_updateMailbox_self {mailbox : Mailbox} (h : mailbox < d.mailboxes.size)
    (change : List Bytes → List Bytes) :
    (d.updateMailbox mailbox change).mailbox mailbox = change (d.mailbox mailbox) := by
  rw [Detail.mailbox, updateMailbox, Array.getElem?_modify, if_pos rfl,
    Array.getElem?_eq_getElem h, Detail.mailbox, Array.getElem?_eq_getElem h]
  rfl

theorem mailbox_updateMailbox_of_ne {mailbox other : Mailbox} (h : other ≠ mailbox)
    (change : List Bytes → List Bytes) :
    (d.updateMailbox mailbox change).mailbox other = d.mailbox other := by
  rw [Detail.mailbox, updateMailbox, Array.getElem?_modify, if_neg h.symm]
  rfl

@[simp] theorem withApp_withApp (app app' : σ) : (d.withApp app).withApp app' = d.withApp app' := rfl

variable [View.Tracked view]

@[simp] theorem put_withApp (app : σ) (ref : Ref) (state : S) :
    (d.withApp app).put view ref state = (d.put view ref state).withApp app := rfl

@[simp] theorem read?_put_self (ref : Ref) (state : S) :
    (d.put view ref state).read? view ref = some state := by
  simp [read?, put, View.Tracked.get?_object]

theorem read?_put_of_ne {T : Type} {view' : View T} {ref other : Ref} (h : other ≠ ref)
    (state : S) : (d.put view ref state).read? view' other = d.read? view' other := by
  simp [read?, put, h]

@[simp] theorem put_put (ref : Ref) (state state' : S) :
    (d.put view ref state).put view ref state' = d.put view ref state' := by
  simp [put]

theorem put_self {ref : Ref} {state : S} (h : d.read? view ref = some state) :
    d.put view ref state = d := by
  obtain ⟨object, hobject, hget⟩ := Option.bind_eq_some_iff.mp h
  have htracked : d.tracked ref = some (View.Tracked.object view state) := by
    rw [hobject, View.Tracked.eq_object hget]
  rw [put, ← htracked, Function.update_eq_self]

@[simp] theorem clock_put (ref : Ref) (state : S) : (d.put view ref state).clock = d.clock := rfl

@[simp] theorem app_put (ref : Ref) (state : S) : (d.put view ref state).app = d.app := rfl

@[simp] theorem mailbox_put (ref : Ref) (state : S) (mailbox : Mailbox) :
    (d.put view ref state).mailbox mailbox = d.mailbox mailbox := rfl

end Detail

theorem bare_eq {n : Network σ} {ref : Ref} {object : Object} (h : n.object? ref = some object) :
    n.bare ref = some object.bare := by
  rw [bare, h]
  rfl

theorem bare_withHolders (n : Network σ) (holders : Ref → Nat) :
    (n.withHolders holders).bare = n.bare := by
  funext ref
  rw [bare, bare, object?_withHolders]

theorem detail_withHolders (n : Network σ) (holders : Ref → Nat) :
    (n.withHolders holders).detail = n.detail := by
  simp only [detail, object?_withHolders]
  rfl

section Objects

variable {n : Network σ} {ref : Ref} {object : Object} {S : Type} {view : View S} {state : S}

theorem read?_detail [View.Tracked view] (n : Network σ) (ref : Ref) :
    n.detail.read? view ref = n.read? view ref := by
  rw [Detail.read?, detail, read?, Option.bind_assoc]
  refine Option.bind_congr fun object _ => ?_
  cases hget : view.get? object with
  | none =>
      cases htracked : object.tracked? with
      | none => rfl
      | some object' =>
          obtain rfl : object' = object := by
            cases object <;> first | cases htracked; rfl | cases htracked
          exact hget
  | some state =>
      rw [View.Tracked.eq_object hget, View.Tracked.tracked?_object, Option.bind_some,
        View.Tracked.get?_object]

theorem bare_update [View.Bared view] (h : n.object? ref = some object)
    (hget : view.get? object = some state) {change : S → S}
    (hsame : View.Bared.bare view (change state) = View.Bared.bare view state) :
    (n.update view ref change).bare = n.bare := by
  have hself : (view.set (change state) object).bare = object.bare := by
    rw [View.Bared.bare_set hget, hsame]
    apply View.Bared.set_get
    rw [View.Bared.get?_bare, hget]
    rfl
  funext other
  rw [bare, object?_update h hget]
  by_cases hother : other = ref
  · subst hother
    rw [Function.update_self, bare, h]
    exact congrArg some hself
  · rw [Function.update_of_ne hother]
    rfl

/-- A change of one object changes the detail at most there. -/
theorem detail_update (h : n.object? ref = some object) (hget : view.get? object = some state)
    (change : S → S) :
    (n.update view ref change).detail = { n.detail with
      tracked := Function.update n.detail.tracked ref
        (view.set (change state) object).tracked? } := by
  have htracked : (n.update view ref change).detail.tracked =
      Function.update n.detail.tracked ref (view.set (change state) object).tracked? := by
    funext other
    simp only [detail, object?_update h hget]
    by_cases hother : other = ref
    · subst hother
      simp
    · simp only [Function.update_of_ne hother]
  rw [← htracked, update_eq]
  rfl

theorem detail_update_tracked [View.Tracked view] (h : n.object? ref = some object)
    (hget : view.get? object = some state) (change : S → S) :
    (n.update view ref change).detail = n.detail.put view ref (change state) := by
  rw [detail_update h hget, View.Tracked.set_eq, View.Tracked.tracked?_object]
  rfl

theorem detail_update_passing [View.Passing view] (h : n.object? ref = some object)
    (hget : view.get? object = some state) (change : S → S) :
    (n.update view ref change).detail = n.detail := by
  have hnone : n.detail.tracked ref = none := by
    simp only [detail, h, Option.bind_some, View.Passing.tracked?_get hget]
  rw [detail_update h hget, View.Passing.tracked?_set hget, ← hnone, Function.update_eq_self]

end Objects

/-! ### Running actions -/

/-- Everything in a network has a holder. -/
def Held (n : Network σ) : Prop := ∀ ref slot, n.slot? ref = some slot → 0 < slot.holders

theorem Held.of_slots {n : Network σ} {objects : List Object}
    (h : n.slots = (objects.map fun object => some { object, holders := 1 }).toArray) : n.Held := by
  intro ref slot hslot
  rw [slot?, Option.join_eq_some_iff, h] at hslot
  obtain ⟨object, -, hobject⟩ :=
    List.mem_map.mp (List.mem_toArray.mp (Array.mem_of_getElem? hslot))
  cases hobject
  exact Nat.one_pos

/-- On every network with the plan `plan` and the detail `d`, the action keeps
the plan and leaves an answer and a detail that satisfy `Q`. -/
def Leads (plan : Ref → Option Object) (act : Act σ α) (d : Detail σ)
    (Q : α → Detail σ → Prop) : Prop :=
  ∀ n : Network σ, n.bare = plan → n.detail = d →
    ∃ x n', Does act n x n' ∧ n'.bare = plan ∧ Q x n'.detail

namespace Leads

variable {plan : Ref → Option Object} {d : Detail σ}

/-- The action on a network in which everything has a holder. -/
theorem run {act : Act σ α} {Q : α → Detail σ → Prop} {n : Network σ} (h : Leads plan act d Q)
    (hheld : n.Held) (hplan : n.bare = plan) (hd : n.detail = d) :
    ∃ x n', act n = some (x, n') ∧ n'.Held ∧ n'.bare = plan ∧ Q x n'.detail := by
  obtain ⟨x, n', hdoes, hplan', hQ⟩ := h n hplan hd
  let holders (ref : Ref) : Nat := ((n.slot? ref).map (·.holders)).getD 1
  have hpos (ref : Ref) : 0 < holders ref := by
    simp only [holders]
    cases hslot : n.slot? ref with
    | none => exact Nat.one_pos
    | some slot => exact hheld ref slot hslot
  have hact := hdoes holders hpos
  rw [withHolders_self] at hact
  refine ⟨x, _, hact, fun ref slot hslot => ?_, (bare_withHolders ..).trans hplan', ?_⟩
  · rw [slot?_withHolders, Option.map_eq_some_iff] at hslot
    obtain ⟨slot', -, rfl⟩ := hslot
    exact hpos ref
  · rwa [detail_withHolders]

theorem pure {x : α} {Q : α → Detail σ → Prop} (hQ : Q x d) : Leads plan (pure x : Act σ α) d Q :=
  fun n hplan hd => ⟨x, n, Does.pure, hplan, hd ▸ hQ⟩

theorem bind {act : Act σ α} {next : α → Act σ β} {Q : β → Detail σ → Prop}
    (h : Leads plan act d fun x d' => Leads plan (next x) d' Q) :
    Leads plan (act >>= next) d Q := by
  intro n hplan hd
  obtain ⟨x, n', hact, hplan', hrest⟩ := h n hplan hd
  obtain ⟨y, n'', hnext, hplan'', hQ⟩ := hrest n' hplan' rfl
  exact ⟨y, n'', hact.bind hnext, hplan'', hQ⟩

theorem mono {act : Act σ α} {Q Q' : α → Detail σ → Prop} (h : Leads plan act d Q)
    (hQ : ∀ x d', Q x d' → Q' x d') : Leads plan act d Q' := by
  intro n hplan hd
  obtain ⟨x, n', hact, hplan', hx⟩ := h n hplan hd
  exact ⟨x, n', hact, hplan', hQ _ _ hx⟩

theorem map {act : Act σ α} {f : α → β} {Q : β → Detail σ → Prop}
    (h : Leads plan act d fun x d' => Q (f x) d') : Leads plan (f <$> act) d Q := by
  rw [map_eq_pure_bind]
  exact bind (h.mono fun _ _ hQ => pure hQ)

/-- A question about a network that does not depend on the holders. -/
theorem get {next : Network σ → Act σ β} {Q : β → Detail σ → Prop}
    (hsame : ∀ (n : Network σ) (holders : Ref → Nat), next (n.withHolders holders) = next n)
    (hnext : ∀ n : Network σ, n.bare = plan → n.detail = d → Leads plan (next n) d Q) :
    Leads plan (get >>= next) d Q := by
  intro n hplan hd
  obtain ⟨x, n', hrest, hn'⟩ := hnext n hplan hd n hplan hd
  exact ⟨x, n', Does.get_bind (hsame n) hrest, hn'⟩

theorem isAlive {n : Network σ} (hplan : n.bare = plan) (ref : Ref) :
    n.isAlive ref = (plan ref).isSome := by
  rw [← hplan, Network.bare, Option.isSome_map, object?, Option.isSome_map, Network.isAlive]

theorem holding {act : Act σ α} {ref : Ref} {Q : α → Detail σ → Prop}
    (halive : (plan ref).isSome) (h : Leads plan act d Q) :
    Leads plan (holding ref act) d Q := by
  intro n hplan hd
  obtain ⟨x, n', hact, hplan', hQ⟩ := h n hplan hd
  exact ⟨x, n', Does.holding ((isAlive hplan' ref).trans halive) hact, hplan', hQ⟩

/-! ### The application -/

theorem modify_app (change : σ → σ) {Q : PUnit → Detail σ → Prop}
    (hQ : Q PUnit.unit (d.withApp (change d.app))) :
    Leads plan (modify fun n => { n with app := change n.app } : Act σ PUnit) d Q := by
  intro n hplan hd
  refine ⟨PUnit.unit, _, Does.modify fun _ => rfl, hplan, ?_⟩
  rw [← hd] at hQ
  exact hQ

/-! ### Actions that can be refused -/

theorem bind_run {act : ExceptT ε (Act σ) α} {next : α → ExceptT ε (Act σ) β}
    {Q : Except ε β → Detail σ → Prop}
    (h : Leads plan act.run d fun answer d' =>
      match answer with
      | .ok x => Leads plan (next x).run d' Q
      | .error e => Q (.error e) d') : Leads plan (act >>= next).run d Q := by
  rw [ExceptT.run_bind]
  refine bind (h.mono fun answer d' hrest => ?_)
  cases answer with
  | ok x => exact hrest
  | error e => exact pure hrest

theorem lift {act : Act σ α} {next : α → ExceptT ε (Act σ) β} {Q : Except ε β → Detail σ → Prop}
    (h : Leads plan act d fun x d' => Leads plan (next x).run d' Q) :
    Leads plan ((liftM act : ExceptT ε (Act σ) α) >>= next).run d Q := by
  have hrun : ((liftM act : ExceptT ε (Act σ) α) >>= next).run =
      act >>= fun x => (next x).run := ExceptT.run_bind_lift act next
  rw [hrun]
  exact bind h

theorem ok {x : α} {Q : Except ε α → Detail σ → Prop} (hQ : Q (.ok x) d) :
    Leads plan (Pure.pure x : ExceptT ε (Act σ) α).run d Q := pure hQ

theorem throw {error : ε} {Q : Except ε α → Detail σ → Prop} (hQ : Q (.error error) d) :
    Leads plan (throw error : ExceptT ε (Act σ) α).run d Q := pure hQ

theorem attempt {call : ExceptT LayerError (Act σ) α}
    {Q : Except LayerError (Except LayerError α) → Detail σ → Prop}
    (h : Leads plan call.run d fun answer d' => Q (.ok answer) d') :
    Leads plan (attempt call).run d Q :=
  h.map

/-! ### What an object has at hand -/

section Site

variable {S : Type} {calls : Calls σ} {view : View S} {ref : Ref} {object : Object} {state : S}

/-- An object that the plan shows is there. -/
theorem exists_object {n : Network σ} (hplan : n.bare = plan) (h : plan ref = some object) :
    ∃ object', n.object? ref = some object' ∧ object'.bare = object := by
  rwa [← hplan, Network.bare, Option.map_eq_some_iff] at h

variable (view) in
/-- What is known of a tracked object from the plan. -/
theorem learn [View.Tracked view] {act : Act σ α} {Q : α → Detail σ → Prop}
    (h : plan ref = some object) (hget : view.get? object = some state)
    (hnext : ∀ s, d.read? view ref = some s → View.Bared.bare view s = state →
      Leads plan act d Q) : Leads plan act d Q := by
  intro n hplan hd
  obtain ⟨object', hobject, rfl⟩ := exists_object hplan h
  rw [View.Bared.get?_bare, Option.map_eq_some_iff] at hget
  obtain ⟨s, hs, hsame⟩ := hget
  refine hnext s ?_ hsame n hplan hd
  rw [← hd, read?_detail, Network.read?, hobject, Option.bind_some, hs]

/-- What is known from the plan of a tracked object whose state was read. -/
theorem known [View.Tracked view] {act : Act σ α} {Q : α → Detail σ → Prop} {s : S}
    (h : plan ref = some object) (hget : view.get? object = some state)
    (hs : d.read? view ref = some s) (hnext : View.Bared.bare view s = state → Leads plan act d Q) :
    Leads plan act d Q :=
  learn view h hget fun _ hs' hbare => hnext (Option.some.inj (hs'.symm.trans hs) ▸ hbare)

theorem get_tracked [View.Tracked view] {Q : S → Detail σ → Prop}
    (h : d.read? view ref = some state) (hQ : Q state d) :
    Leads plan (site calls view ref).get d Q := by
  intro n hplan hd
  rw [← hd, read?_detail] at h
  exact ⟨state, n, Does.site_get h, hplan, hd ▸ hQ⟩

theorem modify_tracked [View.Tracked view] {change : S → S} {Q : PUnit → Detail σ → Prop}
    (h : d.read? view ref = some state)
    (hbare : View.Bared.bare view (change state) = View.Bared.bare view state)
    (hQ : Q PUnit.unit (d.put view ref (change state))) :
    Leads plan ((site calls view ref).modify change) d Q := by
  intro n hplan hd
  rw [← hd, read?_detail] at h
  obtain ⟨object, hobject, hget⟩ := Option.bind_eq_some_iff.mp h
  refine ⟨PUnit.unit, _, Does.site_modify change, (bare_update hobject hget hbare).trans hplan, ?_⟩
  rwa [detail_update_tracked hobject hget, hd]

/-- An object that the plan shows has a state in a view. -/
theorem exists_state [View.Bared view] {n : Network σ} (hplan : n.bare = plan)
    (h : plan ref = some object) (hget : view.get? object = some state) :
    ∃ object' s, n.object? ref = some object' ∧ view.get? object' = some s ∧
      View.Bared.bare view s = state := by
  obtain ⟨object', hobject, rfl⟩ := exists_object hplan h
  rw [View.Bared.get?_bare, Option.map_eq_some_iff] at hget
  obtain ⟨s, hs, rfl⟩ := hget
  exact ⟨object', s, hobject, hs, rfl⟩

variable (h : plan ref = some object) (hget : view.get? object = some state)

include h hget

theorem get_bare [View.Bared view] {Q : S → Detail σ → Prop}
    (hQ : ∀ s, View.Bared.bare view s = state → Q s d) :
    Leads plan (site calls view ref).get d Q := by
  intro n hplan hd
  obtain ⟨object', s, hobject, hs, hbare⟩ := exists_state hplan h hget
  have hread : n.read? view ref = some s := by rw [Network.read?, hobject, Option.bind_some, hs]
  exact ⟨s, n, Does.site_get hread, hplan, hd ▸ hQ s hbare⟩

/-- A change of what is not shown. -/
theorem modify_passing [View.Passing view] {change : S → S} {Q : PUnit → Detail σ → Prop}
    (hbare : ∀ s, View.Bared.bare view (change s) = View.Bared.bare view s)
    (hQ : Q PUnit.unit d) : Leads plan ((site calls view ref).modify change) d Q := by
  intro n hplan hd
  obtain ⟨object', s, hobject, hs, -⟩ := exists_state hplan h hget
  refine ⟨PUnit.unit, _, Does.site_modify change, ?_, ?_⟩
  · rw [bare_update hobject hs (hbare s), hplan]
  · rwa [detail_update_passing hobject hs, hd]

variable [View.Bared view] {node : S → Node Ref}
  (hnode : ∀ s, node (View.Bared.bare view s) = node s) {links : Links Ref}
  (hlinks : (node state).links = some links)

include hnode hlinks

theorem exists_linked {n : Network σ} (hplan : n.bare = plan) :
    ∃ s, n.read? view ref = some s ∧ (node s).links = some links := by
  obtain ⟨object', s, hobject, hs, hbare⟩ := exists_state hplan h hget
  refine ⟨s, ?_, ?_⟩
  · rw [Network.read?, hobject, Option.bind_some, hs]
  · rw [← hlinks, ← hbare, hnode]

theorem ensureInitialized {Q : Except LayerError Unit → Detail σ → Prop} (hQ : Q (.ok ()) d) :
    Leads plan ((site calls view ref).ensureInitialized node).run d Q := by
  intro n hplan hd
  obtain ⟨s, hread, hlinked⟩ := exists_linked h hget hnode hlinks hplan
  exact ⟨_, n, Does.ensureInitialized hread hlinked, hplan, hd ▸ hQ⟩

theorem child {target : Ref} (hchild : links.child = some target)
    {Q : Except LayerError (Layer (Act σ)) → Detail σ → Prop}
    (hQ : Q (.ok (calls.layer target)) d) :
    Leads plan ((site calls view ref).child node).run d Q := by
  intro n hplan hd
  obtain ⟨s, hread, hlinked⟩ := exists_linked h hget hnode hlinks hplan
  exact ⟨_, n, Does.child hread hlinked hchild, hplan, hd ▸ hQ⟩

theorem parent? {target : Ref} (hparent : links.parent = some target)
    (halive : (plan target).isSome)
    {Q : Except LayerError (Option (Layer (Act σ))) → Detail σ → Prop}
    (hQ : Q (.ok (some (calls.layer target))) d) :
    Leads plan ((site calls view ref).parent? node).run d Q := by
  intro n hplan hd
  obtain ⟨s, hread, hlinked⟩ := exists_linked h hget hnode hlinks hplan
  exact ⟨_, n, Does.parent? hread hlinked hparent ((isAlive hplan target).trans halive), hplan,
    hd ▸ hQ⟩

end Site

section Site

variable {S : Type} {calls : Calls σ} {view : View S} {ref : Ref}

theorem now {Q : Tick → Detail σ → Prop} (hQ : Q d.clock.now d) :
    Leads plan (site calls view ref).now d Q := by
  intro n hplan hd
  rw [← hd] at hQ
  exact ⟨_, n, Does.site_now, hplan, hQ⟩

/-- The layer behind a handler whose target is there. -/
theorem resolve {handler : Addressing.Handler Ref} (halive : (plan handler.target).isSome)
    {Q : Option (Layer (Act σ)) → Detail σ → Prop}
    (hQ : Q (some (calls.layer handler.target)) d) :
    Leads plan (handler.resolve (site calls view ref)) d Q := by
  cases handler with
  | receiver target => exact pure hQ
  | layer target =>
      intro n hplan hd
      refine ⟨_, n, (Does.site_alive target).bind Does.pure, hplan, ?_⟩
      rw [isAlive hplan, show (plan target).isSome = true from halive, hd]
      exact hQ

end Site

/-! ### Links in memory -/

section Wire

variable {inbox outbox : Mailbox}

theorem push {bytes : Bytes} {Q : Unit → Detail σ → Prop}
    (hQ : Q () (d.updateMailbox outbox (· ++ [bytes]))) :
    Leads plan ((wire inbox outbox).push bytes) d Q := by
  intro n hplan hd
  rw [← hd] at hQ
  exact ⟨_, _, Does.push bytes, hplan, hQ⟩

theorem pop_nil {Q : Option Bytes → Detail σ → Prop} (h : d.mailbox inbox = []) (hQ : Q none d) :
    Leads plan (wire inbox outbox).pop d Q := by
  intro n hplan hd
  rw [← hd] at h
  exact ⟨_, n, Does.pop_nil h, hplan, hd ▸ hQ⟩

theorem pop_cons {bytes : Bytes} {rest : List Bytes} {Q : Option Bytes → Detail σ → Prop}
    (h : d.mailbox inbox = bytes :: rest) (hQ : Q (some bytes) (d.updateMailbox inbox List.tail)) :
    Leads plan (wire inbox outbox).pop d Q := by
  intro n hplan hd
  rw [← hd] at h hQ
  exact ⟨_, _, Does.pop_cons h, hplan, hQ⟩

theorem pending {Q : Nat → Detail σ → Prop} (hQ : Q (d.mailbox inbox).length d) :
    Leads plan (wire inbox outbox).pending d Q := by
  intro n hplan hd
  rw [← hd] at hQ
  exact ⟨_, n, Does.pending, hplan, hQ⟩

end Wire

/-! ### Calls -/

section Calls

variable {app : App σ} {levels : Nat} {ref : Ref} {object : Object} {layer : Layer (Act σ)}

theorem layerOf_bare (app : App σ) (calls : Calls σ) (ref : Ref) (object : Object) :
    layerOf app calls ref object.bare = layerOf app calls ref object := by
  cases object <;> rfl

variable (h : plan ref = some object)
  (hlayer : layerOf app (calls app levels) ref object = some layer)

include h hlayer

theorem findLayer {Q : Layer (Act σ) → Detail σ → Prop} (hQ : Q layer d) :
    Leads plan (findLayer app (calls app levels) ref) d Q := by
  intro n hplan hd
  obtain ⟨object', hobject, rfl⟩ := exists_object hplan h
  exact ⟨layer, n, Does.findLayer hobject ((layerOf_bare ..).symm.trans hlayer), hplan, hd ▸ hQ⟩

theorem recv {bytes : Bytes} {Q : Except LayerError Nat → Detail σ → Prop}
    (hrun : Leads plan (layer.recv bytes).run d Q) :
    Leads plan (((calls app (levels + 1)).layer ref).recv bytes).run d Q :=
  holding (by rw [h]; rfl) (lift (findLayer h hlayer hrun))

theorem send {bytes : Bytes} {Q : Except LayerError Nat → Detail σ → Prop}
    (hrun : Leads plan (layer.send bytes).run d Q) :
    Leads plan (((calls app (levels + 1)).layer ref).send bytes).run d Q :=
  holding (by rw [h]; rfl) (lift (findLayer h hlayer hrun))

theorem sendConfirmed {bytes : Bytes} {Q : Except LayerError Nat → Detail σ → Prop}
    (hrun : Leads plan (layer.sendConfirmed bytes).run d Q) :
    Leads plan (((calls app (levels + 1)).layer ref).sendConfirmed bytes).run d Q :=
  holding (by rw [h]; rfl) (lift (findLayer h hlayer hrun))

theorem delivered {report : Delivery} {Q : Unit → Detail σ → Prop}
    (hrun : Leads plan (layer.delivered report) d Q) :
    Leads plan (((calls app (levels + 1)).layer ref).delivered report) d Q :=
  holding (by rw [h]; rfl) (bind (findLayer h hlayer hrun))

theorem capacity {Q : Nat → Detail σ → Prop} (hrun : Leads plan layer.capacity d Q) :
    Leads plan ((calls app (levels + 1)).layer ref).capacity d Q :=
  holding (by rw [h]; rfl) (bind (findLayer h hlayer hrun))

theorem name {Q : String → Detail σ → Prop} (hrun : Leads plan layer.name d Q) :
    Leads plan ((calls app (levels + 1)).layer ref).name d Q :=
  holding (by rw [h]; rfl) (bind (findLayer h hlayer hrun))

end Calls

/-! ### Operations of the application -/

section Operations

variable {calls : Calls σ} {ref : Ref}

theorem poll {l : Channel.Loopback Ref} {inbox outbox : Mailbox}
    (h : plan ref = some (.loopback l inbox outbox)) {Q : Except LayerError Nat → Detail σ → Prop}
    (hrun : Leads plan
      (Channel.Loopback.poll (site calls .loopback ref) (wire inbox outbox)).run d Q) :
    Leads plan (poll calls ref).run d Q := by
  refine holding (by rw [h]; rfl) (get (fun n holders => by rw [object?_withHolders]) ?_)
  intro n hplan _
  obtain ⟨object', hobject, hbare⟩ := exists_object hplan h
  rw [hobject]
  cases object' with
  | loopback l' inbox' outbox' =>
      cases hbare
      exact hrun
  | _ => cases hbare

theorem serve {f : Frame.Framer Ref} (h : plan ref = some (.framer f)) {now : Tick}
    {Q : Unit → Detail σ → Prop}
    (hrun : Leads plan (Frame.Framer.service (site calls .framer ref)) d Q) :
    Leads plan (serve calls now ref) d Q := by
  refine get (fun n holders => by rw [object?_withHolders]) fun n hplan _ => ?_
  obtain ⟨object', hobject, hbare⟩ := exists_object hplan h
  rw [hobject]
  cases object' with
  | framer f' => exact hrun
  | _ => cases hbare

/-- Timers that run one after another. -/
def Rounds (plan : Ref → Option Object) (act : Ref → Act σ Unit) :
    List Ref → Detail σ → (Detail σ → Prop) → Prop
  | [], d, Q => Q d
  | timer :: timers, d, Q => Leads plan (act timer) d fun _ d' => Rounds plan act timers d' Q

theorem serves {act : Ref → Act σ Unit} {timers : List Ref}
    (halive : ∀ timer ∈ timers, (plan timer).isSome) {Q : Detail σ → Prop}
    (h : Rounds plan act timers d Q) {n : Network σ} (hplan : n.bare = plan) (hd : n.detail = d) :
    ∃ n', Serves act timers n n' ∧ n'.bare = plan ∧ Q n'.detail := by
  induction timers generalizing n d with
  | nil => exact ⟨n, .nil, hplan, hd ▸ h⟩
  | cons timer timers ih =>
      obtain ⟨_, n', hdoes, hplan', hrest⟩ := h n hplan hd
      obtain ⟨n'', hserves, hplan'', hQ⟩ :=
        ih (fun t ht => halive t (List.mem_cons_of_mem _ ht)) hrest hplan' rfl
      refine ⟨n'', .cons hdoes ?_ hserves, hplan'', hQ⟩
      rw [isAlive hplan']
      exact halive timer List.mem_cons_self

/-- The clock moves and the timers run. -/
theorem advance {ticks : Tick} {Q : Tick → Detail σ → Prop}
    (halive : ∀ timer ∈ d.clock.timers, (plan timer).isSome)
    (h : Rounds plan (Network.serve calls (d.clock.now + ticks)) d.clock.timers
      { d with clock := d.clock.advance ticks } (Q (d.clock.now + ticks))) :
    Leads plan (advance calls ticks) d Q := by
  intro n hplan hd
  have hclock : n.clock = d.clock := congrArg Detail.clock hd
  obtain ⟨m, hm⟩ : ∃ m : Network σ, m = { n with clock := n.clock.advance ticks } := ⟨_, rfl⟩
  have hplan' : m.bare = plan := hm ▸ hplan
  have hd' : m.detail = { d with clock := d.clock.advance ticks } := by
    rw [hm, ← hd]
    rfl
  have hnow : m.clock = d.clock.advance ticks := congrArg Detail.clock hd'
  obtain ⟨n', hserves, hplan'', hQ⟩ := serves halive h hplan' hd'
  have hnotify : Does (notify calls) m () n' := by
    refine Does.notify ?_ ?_
    · intro timer htimer
      rw [isAlive hplan']
      rw [hnow] at htimer
      exact halive timer htimer
    · rw [hnow]
      exact hserves
  refine ⟨_, n', Does.advance (hm ▸ hnotify), hplan'', ?_⟩
  rw [hclock]
  exact hQ

end Operations

end Leads

end Network

end LinkStack
