import Mathlib.Logic.Function.Basic
import LinkStack.Network.Operations

/-!
Running actions on a network in which nothing disappears.

Every call holds the object it is made on, so the numbers of holders go up and
down all the time although nothing depends on them as long as every object has
a holder of its own. `Does act n x n'` abstracts from them: whatever positive
numbers of holders the objects of `n` have, the action answers `x` and leaves
the same numbers behind and otherwise the network `n'`. The rules below follow
the structure of an action, so that what a layer does can be read off its code
step by step.
-/

namespace LinkStack.Network

variable {σ α β ε : Type}

/-! ### Numbers of holders -/

/-- The network with the given numbers of holders. -/
def withHolders (n : Network σ) (holders : Ref → Nat) : Network σ :=
  { n with slots := n.slots.mapIdx fun ref slot =>
      slot.map fun slot => { slot with holders := holders ref } }

section Holders

variable (n : Network σ) (holders : Ref → Nat) (ref : Ref)

@[simp] theorem slot?_withHolders :
    (n.withHolders holders).slot? ref =
      (n.slot? ref).map fun slot => { slot with holders := holders ref } := by
  simp only [slot?, withHolders, Array.getElem?_mapIdx]
  cases n.slots[ref]? <;> rfl

@[simp] theorem object?_withHolders : (n.withHolders holders).object? ref = n.object? ref := by
  simp only [object?, slot?_withHolders, Option.map_map]
  rfl

@[simp] theorem isAlive_withHolders : (n.withHolders holders).isAlive ref = n.isAlive ref := by
  simp [isAlive]

@[simp] theorem read?_withHolders {S : Type} (view : View S) :
    (n.withHolders holders).read? view ref = n.read? view ref := by
  simp [read?]

theorem setSlot_withHolders (object : Object) (count count' : Nat) :
    (n.withHolders holders).setSlot ref (some { object, holders := count }) =
      (n.setSlot ref (some { object, holders := count' })).withHolders
        (Function.update holders ref count) := by
  simp only [setSlot, withHolders, Network.mk.injEq, and_true]
  apply Array.ext_getElem?
  intro i
  simp only [Array.getElem?_setIfInBounds, Array.getElem?_mapIdx, Array.size_mapIdx]
  by_cases hi : ref = i
  · subst hi
    by_cases hsize : ref < n.slots.size <;> simp [hsize]
  · rw [if_neg hi, if_neg hi, Function.update_of_ne (Ne.symm hi)]

theorem setSlot_self {n : Network σ} {ref : Ref} {slot : Slot} (h : n.slot? ref = some slot) :
    n.setSlot ref (some slot) = n := by
  have hslots : n.slots.setIfInBounds ref (some slot) = n.slots := by
    apply Array.ext_getElem?
    intro i
    rw [Array.getElem?_setIfInBounds]
    by_cases hi : ref = i
    · subst hi
      rw [slot?, Option.join_eq_some_iff] at h
      obtain ⟨hsize, -⟩ := Array.getElem?_eq_some_iff.mp h
      rw [if_pos rfl, if_pos hsize, h]
    · rw [if_neg hi]
  rw [setSlot, hslots]

theorem setObject_withHolders (object : Object) :
    (n.withHolders holders).setObject ref object =
      (n.setObject ref object).withHolders holders := by
  rw [setObject, setObject, slot?_withHolders]
  cases n.slot? ref with
  | none => rfl
  | some slot =>
      have hset := n.setSlot_withHolders holders ref object (holders ref) slot.holders
      rwa [Function.update_eq_self] at hset

theorem update_withHolders {S : Type} (view : View S) (change : S → S) :
    (n.withHolders holders).update view ref change =
      (n.update view ref change).withHolders holders := by
  rw [update, update, object?_withHolders]
  cases n.object? ref with
  | none => rfl
  | some object =>
      cases hget : view.get? object with
      | none => simp [hget]
      | some state => simp [hget, setObject_withHolders]

theorem retain_withHolders :
    (n.withHolders holders).retain ref =
      n.withHolders (Function.update holders ref (holders ref + 1)) := by
  rw [retain, slot?_withHolders]
  cases hslot : n.slot? ref with
  | none =>
      simp only [Option.map_none, withHolders, Network.mk.injEq, and_true]
      apply Array.ext_getElem?
      intro i
      rw [Array.getElem?_mapIdx, Array.getElem?_mapIdx]
      by_cases hi : i = ref
      · subst hi
        rw [slot?] at hslot
        cases hget : n.slots[i]? with
        | none => rfl
        | some slot => simp_all
      · rw [Function.update_of_ne hi]
  | some slot =>
      have hset := n.setSlot_withHolders holders ref slot.object (holders ref + 1) slot.holders
      rw [setSlot_self hslot] at hset
      exact hset

theorem holders_le_holderCount {n : Network σ} {ref : Ref} {slot : Slot}
    (h : n.slot? ref = some slot) : slot.holders ≤ n.holderCount := by
  have hmem : some slot ∈ n.slots.toList := by
    rw [slot?, Option.join_eq_some_iff] at h
    exact Array.mem_toList_iff.mpr (Array.mem_of_getElem? h)
  have hsum (slots : List (Option Slot)) (start : Nat) :
      start ≤ slots.foldl (fun count slot => count + (slot.map (·.holders)).getD 0) start ∧
      (some slot ∈ slots → slot.holders ≤
        slots.foldl (fun count slot => count + (slot.map (·.holders)).getD 0) start) := by
    induction slots generalizing start with
    | nil => simp
    | cons first slots ih =>
        obtain ⟨hstart, hrest⟩ := ih (start + (first.map (·.holders)).getD 0)
        refine ⟨Nat.le_trans (Nat.le_add_right _ _) hstart, ?_⟩
        intro hmem
        rcases List.mem_cons.mp hmem with rfl | hmem
        · exact Nat.le_trans (Nat.le_add_left _ _) hstart
        · exact hrest hmem
  rw [holderCount, ← Array.foldl_toList]
  exact (hsum _ 0).2 hmem

theorem release_withHolders (h : n.isAlive ref) (hholders : 2 ≤ holders ref) :
    (n.withHolders holders).release ref =
      n.withHolders (Function.update holders ref (holders ref - 1)) := by
  obtain ⟨slot, hslot⟩ := Option.isSome_iff_exists.mp h
  have hslot' : (n.withHolders holders).slot? ref = some { slot with holders := holders ref } := by
    rw [slot?_withHolders, hslot]
    rfl
  have hcount := holders_le_holderCount hslot'
  obtain ⟨turns, hturns⟩ : ∃ turns, (n.withHolders holders).holderCount = turns + 1 :=
    Nat.exists_eq_add_one_of_ne_zero (by simp only at hcount; omega)
  have hset := n.setSlot_withHolders holders ref slot.object (holders ref - 1) slot.holders
  rw [setSlot_self hslot] at hset
  rw [release, hturns, releaseAll, hslot']
  simp only [show ¬ holders ref ≤ 1 by omega, if_false]
  rw [hset]
  cases turns <;> rfl

end Holders

/-! ### Running actions -/

/-- Whatever numbers of holders the objects have, the action answers `x` and
takes the network `n` to `n'` without changing them. -/
def Does (act : Act σ α) (n : Network σ) (x : α) (n' : Network σ) : Prop :=
  ∀ holders : Ref → Nat, (∀ ref, 0 < holders ref) →
    act (n.withHolders holders) = some (x, n'.withHolders holders)

namespace Does

variable {n n' n'' : Network σ} {x : α} {y : β}

theorem pure : Does (pure x : Act σ α) n x n := fun _ _ => rfl

theorem bind {act : Act σ α} {next : α → Act σ β} (h : Does act n x n')
    (hnext : Does (next x) n' y n'') : Does (act >>= next) n y n'' := by
  intro holders hpos
  show ((act (n.withHolders holders)).bind fun p => next p.1 p.2) = _
  rw [h holders hpos]
  exact hnext holders hpos

theorem map {act : Act σ α} {f : α → β} (h : Does act n x n') : Does (f <$> act) n (f x) n' := by
  rw [map_eq_pure_bind]
  exact h.bind pure

/-- A question about the network that does not depend on the holders. -/
theorem get_bind {next : Network σ → Act σ β}
    (hnext : ∀ holders, next (n.withHolders holders) = next n) (h : Does (next n) n y n') :
    Does (get >>= next) n y n' := by
  intro holders hpos
  show next (n.withHolders holders) (n.withHolders holders) = _
  rw [hnext holders]
  exact h holders hpos

theorem modify {change : Network σ → Network σ}
    (h : ∀ holders, change (n.withHolders holders) = (change n).withHolders holders) :
    Does (modify change) n PUnit.unit (change n) := by
  intro holders _
  show some (PUnit.unit, change (n.withHolders holders)) = _
  rw [h holders]

theorem holding {act : Act σ α} {ref : Ref} (halive : n'.isAlive ref) (h : Does act n x n') :
    Does (holding ref act) n x n' := by
  intro holders hpos
  have hretain := n.retain_withHolders holders ref
  have hrelease := n'.release_withHolders (Function.update holders ref (holders ref + 1)) ref halive
    (by have := hpos ref; simp; omega)
  simp only [Function.update_self, Function.update_idem, Nat.add_sub_cancel,
    Function.update_eq_self] at hrelease
  have hact := h (Function.update holders ref (holders ref + 1)) (by
    intro other
    by_cases hother : other = ref
    · simp [hother]
    · rw [Function.update_of_ne hother]
      exact hpos other)
  show ((act ((n.withHolders holders).retain ref)).bind fun p =>
    some (p.1, p.2.release ref)) = _
  rw [hretain, hact]
  exact congrArg (fun n => some (x, n)) hrelease

/-! ### Actions that can be refused -/

theorem bind_ok {act : ExceptT ε (Act σ) α} {next : α → ExceptT ε (Act σ) β} {answer : Except ε β}
    (h : Does act.run n (.ok x) n') (hnext : Does (next x).run n' answer n'') :
    Does (act >>= next).run n answer n'' := by
  rw [ExceptT.run_bind]
  exact h.bind hnext

theorem bind_error {act : ExceptT ε (Act σ) α} {next : α → ExceptT ε (Act σ) β} {error : ε}
    (h : Does act.run n (.error error) n') :
    Does (act >>= next).run n (.error error) n' := by
  rw [ExceptT.run_bind]
  exact h.bind pure

theorem lift {act : Act σ α} (h : Does act n x n') :
    Does (liftM act : ExceptT ε (Act σ) α).run n (.ok x) n' :=
  h.map

theorem ok : Does (Pure.pure x : ExceptT ε (Act σ) α).run n (.ok x) n := pure

theorem throw {error : ε} :
    Does (throw error : ExceptT ε (Act σ) α).run n (.error error) n := pure

/-! ### What an object has at hand -/

section Site

variable {S : Type} {calls : Calls σ} {view : View S} {ref : Ref} {state : S}

theorem site_get (h : n.read? view ref = some state) :
    Does (site calls view ref).get n state n := by
  refine get_bind ?_ ?_
  · intro holders
    rw [read?_withHolders]
  · rw [h]
    exact pure

theorem site_modify (change : S → S) :
    Does ((site calls view ref).modify change) n PUnit.unit (n.update view ref change) :=
  modify fun holders => n.update_withHolders holders ref view change

theorem site_now : Does (site calls view ref).now n n.clock.now n :=
  get_bind (fun _ => rfl) pure

theorem site_alive (other : Ref) :
    Does ((site calls view ref).alive other) n (n.isAlive other) n :=
  get_bind (fun holders => by rw [isAlive_withHolders]) pure

theorem ensureInitialized {node : S → Node Ref} {links : Links Ref}
    (h : n.read? view ref = some state) (hlinks : (node state).links = some links) :
    Does ((site calls view ref).ensureInitialized node).run n (.ok ()) n := by
  refine bind_ok (lift (site_get h)) ?_
  rw [Node.linked, hlinks]
  exact bind_ok (pure (x := Except.ok links)) ok

theorem child {node : S → Node Ref} {links : Links Ref} {target : Ref}
    (h : n.read? view ref = some state) (hlinks : (node state).links = some links)
    (hchild : links.child = some target) :
    Does ((site calls view ref).child node).run n (.ok (calls.layer target)) n := by
  have hfound : (node state).child = .ok target := by
    rw [Node.child, Node.linked, hlinks]
    simp only [Bind.bind, Except.bind, hchild]
  have hread : Does (ExceptT.mk (Pure.pure (node state).child) : ExceptT LayerError (Act σ) Ref).run
      n (.ok target) n := by
    rw [hfound]
    exact pure
  exact bind_ok (lift (site_get h)) (bind_ok hread ok)

theorem parent? {node : S → Node Ref} {links : Links Ref} {target : Ref}
    (h : n.read? view ref = some state) (hlinks : (node state).links = some links)
    (hparent : links.parent = some target) (halive : n.isAlive target) :
    Does ((site calls view ref).parent? node).run n (.ok (some (calls.layer target))) n := by
  have hread : Does (ExceptT.mk (Pure.pure (node state).linked) :
      ExceptT LayerError (Act σ) (Links Ref)).run n (.ok links) n := by
    rw [Node.linked, hlinks]
    exact pure
  refine bind_ok (lift (site_get h)) (bind_ok hread ?_)
  rw [hparent]
  refine bind_ok (lift (site_alive target)) ?_
  rw [halive]
  exact ok

end Site

/-! ### Links in memory -/

section Wire

variable {inbox outbox : Mailbox}

theorem push (bytes : Bytes) :
    Does ((wire inbox outbox).push bytes) n PUnit.unit
      (n.updateMailbox outbox (· ++ [bytes])) :=
  modify fun _ => rfl

theorem pop_nil (h : n.mailbox inbox = []) : Does (wire inbox outbox).pop n none n := by
  refine get_bind (fun _ => rfl) ?_
  rw [h]
  exact pure

theorem pop_cons {bytes : Bytes} {rest : List Bytes} (h : n.mailbox inbox = bytes :: rest) :
    Does (wire inbox outbox).pop n (some bytes) (n.updateMailbox inbox List.tail) := by
  refine get_bind (fun _ => rfl) ?_
  rw [h]
  exact (modify fun _ => rfl).bind pure

theorem pending : Does (wire inbox outbox).pending n (n.mailbox inbox).length n :=
  get_bind (fun _ => rfl) pure

end Wire

/-! ### Calls -/

section Calls

variable {app : App σ} {levels : Nat} {ref : Ref} {object : Object} {layer : Layer (Act σ)}

theorem findLayer {below : Calls σ} (h : n.object? ref = some object)
    (hlayer : layerOf app below ref object = some layer) :
    Does (findLayer app below ref) n layer n := by
  refine get_bind (fun holders => by rw [object?_withHolders]) ?_
  rw [h, Option.bind_some, hlayer]
  exact pure

variable (h : n.object? ref = some object)
  (hlayer : layerOf app (calls app levels) ref object = some layer) (halive : n'.isAlive ref)

include h hlayer halive

theorem recv {bytes : Bytes} {answer : Except LayerError Nat}
    (hrun : Does (layer.recv bytes).run n answer n') :
    Does (((calls app (levels + 1)).layer ref).recv bytes).run n answer n' :=
  holding halive (bind_ok (lift (findLayer h hlayer)) hrun)

theorem send {bytes : Bytes} {answer : Except LayerError Nat}
    (hrun : Does (layer.send bytes).run n answer n') :
    Does (((calls app (levels + 1)).layer ref).send bytes).run n answer n' :=
  holding halive (bind_ok (lift (findLayer h hlayer)) hrun)

theorem sendConfirmed {bytes : Bytes} {answer : Except LayerError Nat}
    (hrun : Does (layer.sendConfirmed bytes).run n answer n') :
    Does (((calls app (levels + 1)).layer ref).sendConfirmed bytes).run n answer n' :=
  holding halive (bind_ok (lift (findLayer h hlayer)) hrun)

theorem delivered {report : Delivery} (hrun : Does (layer.delivered report) n () n') :
    Does (((calls app (levels + 1)).layer ref).delivered report) n () n' :=
  holding halive ((findLayer h hlayer).bind hrun)

end Calls

end Does

/-! ### Timers -/

/-- Holds timers before they run. -/
def retainAll (timers : List Ref) : Act σ Unit :=
  timers.forM fun ref => modify (·.retain ref)

theorem retainAll_withHolders (n : Network σ) (timers : List Ref) (holders : Ref → Nat) :
    retainAll timers (n.withHolders holders) =
      some ((), n.withHolders fun ref => holders ref + timers.count ref) := by
  induction timers generalizing holders with
  | nil => rfl
  | cons timer timers ih =>
      have hcount : (fun ref => Function.update holders timer (holders timer + 1) ref +
          timers.count ref) = fun ref => holders ref + (timer :: timers).count ref := by
        funext ref
        rw [List.count_cons]
        by_cases href : ref = timer
        · subst href
          rw [Function.update_self, beq_self_eq_true, if_pos rfl]
          omega
        · rw [Function.update_of_ne href, beq_eq_false_iff_ne.mpr (Ne.symm href)]
          rfl
      show retainAll timers ((n.withHolders holders).retain timer) = _
      rw [retain_withHolders, ih, hcount]

/-- Timers that run one after another. -/
inductive Serves (act : Ref → Act σ Unit) : List Ref → Network σ → Network σ → Prop
  | nil {n : Network σ} : Serves act [] n n
  | cons {timer : Ref} {timers : List Ref} {n n' n'' : Network σ} (h : Does (act timer) n () n')
      (halive : n'.isAlive timer) (tail : Serves act timers n' n'') :
      Serves act (timer :: timers) n n''

/-- A timer that was held runs and is let go. -/
def runHeld (act : Ref → Act σ Unit) (ref : Ref) : Act σ Unit := do
  act ref
  modify (·.release ref)

theorem Serves.forM_runHeld {act : Ref → Act σ Unit} {timers : List Ref} {n n' : Network σ}
    (h : Serves act timers n n') {holders : Ref → Nat} (hpos : ∀ ref, 0 < holders ref) :
    timers.forM (runHeld act) (n.withHolders fun ref => holders ref + timers.count ref) =
      some ((), n'.withHolders holders) := by
  induction h with
  | nil => rfl
  | @cons timer timers n n' n'' hact halive tail ih =>
      have hheld : 2 ≤ holders timer + (timer :: timers).count timer := by
        have hone := hpos timer
        rw [List.count_cons_self]
        omega
      have hcount : Function.update (fun ref => holders ref + (timer :: timers).count ref) timer
          (holders timer + (timer :: timers).count timer - 1) =
          fun ref => holders ref + timers.count ref := by
        funext ref
        by_cases href : ref = timer
        · subst href
          rw [Function.update_self, List.count_cons_self]
          omega
        · rw [Function.update_of_ne href, List.count_cons_of_ne (Ne.symm href)]
      have hrun : runHeld act timer
          (n.withHolders fun ref => holders ref + (timer :: timers).count ref) =
          some ((), n'.withHolders fun ref => holders ref + timers.count ref) := by
        show ((act timer (n.withHolders _)).bind fun p => some ((), p.2.release timer)) = _
        rw [hact _ fun ref => Nat.add_pos_left (hpos ref) _, Option.bind_some,
          n'.release_withHolders _ timer halive hheld, hcount]
      show ((runHeld act timer (n.withHolders _)).bind fun p =>
        timers.forM (runHeld act) p.2) = _
      rw [hrun]
      exact ih

theorem notify_eq (calls : Calls σ) (n : Network σ) :
    notify calls n =
      (retainAll (n.clock.prune n.isAlive).timers
        { n with clock := n.clock.prune n.isAlive }).bind fun p =>
          (n.clock.prune n.isAlive).timers.forM (runHeld (serve calls n.clock.now)) p.2 :=
  rfl

theorem Does.notify {calls : Calls σ} {n n' : Network σ}
    (halive : ∀ timer ∈ n.clock.timers, n.isAlive timer)
    (h : Serves (serve calls n.clock.now) n.clock.timers n n') :
    Does (notify calls) n () n' := by
  intro holders hpos
  have hpruned : (n.withHolders holders).clock.prune (n.withHolders holders).isAlive =
      n.clock := by
    have hsame : (n.withHolders holders).isAlive = n.isAlive :=
      funext fun ref => n.isAlive_withHolders holders ref
    rw [hsame]
    show n.clock.prune n.isAlive = n.clock
    rw [Clock.prune, List.filter_eq_self.mpr halive]
  rw [notify_eq, hpruned]
  show (retainAll n.clock.timers (n.withHolders holders)).bind _ = _
  rw [retainAll_withHolders]
  exact h.forM_runHeld hpos

theorem Does.advance {calls : Calls σ} {n n' : Network σ} {ticks : Tick}
    (h : Does (Network.notify calls) { n with clock := n.clock.advance ticks } () n') :
    Does (advance calls ticks) n (n.clock.advance ticks).now n' :=
  get_bind (fun _ => rfl) ((modify fun _ => rfl).bind (h.bind pure))

end LinkStack.Network
