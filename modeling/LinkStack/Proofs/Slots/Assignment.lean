import Mathlib.Logic.Function.Basic
import LinkStack.Proofs.Slots

/-!
Tables as maps from slots to items.

An `Assignment` says which item each slot was assigned last, and `Assignment.Takes` what
it means for it to append an item or to choose a slot for one. Nothing is ever taken out
of a table, so the mark of used slots is a property of the assignment: it is one past the
highest slot that is assigned (`Assignment.IsMark`). Every call of a table is one on its
assignment and has the same answer, and all that can be read off a table can be read off
its assignment, with the reason why it cannot be finished (`behaves_as_assignment`).
-/

namespace LinkStack.Slots

variable {α : Type}

/-! ### Assignments -/

/-- The item that each slot was assigned last, if it was. -/
abbrev Assignment (α : Type) := Nat → Option α

namespace Assignment

def empty : Assignment α := fun _ => none

def put (m : Assignment α) (slot : Nat) (item : α) : Assignment α :=
  Function.update m slot (some item)

/-- The slots that are assigned with their items, in slot order. -/
def listed (m : Assignment α) (capacity : Nat) : List (Nat × α) :=
  (List.range capacity).filterMap fun slot => (m slot).map fun item => (slot, item)

/-- One past the highest slot that is assigned, or zero if none is. -/
structure IsMark (m : Assignment α) (mark : Nat) : Prop where
  below : ∀ slot item, m slot = some item → slot < mark
  top : ∀ slot, slot + 1 = mark → ∃ item, m slot = some item

theorem IsMark.unique {m : Assignment α} {mark mark' : Nat} (h : m.IsMark mark)
    (h' : m.IsMark mark') : mark = mark' := by
  have hle {mark mark' : Nat} (h : m.IsMark mark) (h' : m.IsMark mark') : mark ≤ mark' := by
    cases mark with
    | zero => exact Nat.zero_le _
    | succ slot =>
        obtain ⟨item, hitem⟩ := h.top slot rfl
        exact h'.below slot item hitem
  exact Nat.le_antisymm (hle h h') (hle h' h)

/-- What a call means for a table of the given capacity, and what it answers. -/
inductive Takes (capacity : Nat) (m : Assignment α) :
    Call α → Except SlotsError Nat → Assignment α → Prop where
  | add {mark : Nat} {item : α} (hmark : m.IsMark mark) (h : mark < capacity) :
      Takes capacity m (.add item) (.ok mark) (m.put mark item)
  | full {mark : Nat} {item : α} (hmark : m.IsMark mark) (h : capacity ≤ mark) :
      Takes capacity m (.add item) (.error (.capacityExceeded capacity)) m
  | assign {index : Nat} {item : α} (h : index < capacity) :
      Takes capacity m (.assign index item) (.ok index) (m.put index item)
  | outside {index : Nat} {item : α} (h : capacity ≤ index) :
      Takes capacity m (.assign index item) (.error (.indexOutOfRange index capacity)) m

/-- Calls one after the other, with their answers. -/
inductive Runs (capacity : Nat) :
    Assignment α → List (Call α) → List (Except SlotsError Nat) → Assignment α → Prop where
  | nil (m : Assignment α) : Runs capacity m [] [] m
  | cons {m m' m'' : Assignment α} {call : Call α} {answer : Except SlotsError Nat}
      {calls : List (Call α)} {answers : List (Except SlotsError Nat)}
      (hcall : Takes capacity m call answer m') (hrest : Runs capacity m' calls answers m'') :
      Runs capacity m (call :: calls) (answer :: answers) m''

end Assignment

/-- The answers to calls, each a slot or the reason for a refusal. -/
def answers : Slots α → List (Call α) → List (Except SlotsError Nat)
  | _, [] => []
  | t, call :: calls =>
    (t.perform call).map Prod.fst :: (t.after (t.perform call)).answers calls

/-- A table says what an assignment says, in each of its parts. -/
structure Describes (size : Nat) (t : Slots α) (m : Assignment α) : Prop where
  capacity : t.capacity = size
  within : ∀ slot item, m slot = some item → slot < size
  get? : ∀ slot, t.get? slot = m slot
  toList : t.toList = m.listed size
  used : m.IsMark t.used
  /-- The items of a finished table stand in slot order. -/
  items : ∀ items, t.finish = .ok items ↔ items.length = size ∧ ∀ slot, items[slot]? = m slot
  filled : (∃ items, t.finish = .ok items) ↔ ∀ slot < size, ∃ item, m slot = some item
  short : ∀ declared found, t.finish = .error (.sizeMismatch declared found) ↔
    declared = size ∧ m.IsMark found ∧ found < size
  /-- The slot that is named is the lowest one without an item. -/
  hole : ∀ slot, t.finish = .error (.emptySlot slot) ↔
    m.IsMark size ∧ slot < size ∧ m slot = none ∧ ∀ earlier < slot, ∃ item, m earlier = some item

variable {t : Slots α} {slot : Nat} {item : α}

/-! ### Reading a table -/

theorem getElem?_slots_eq_some_some :
    t.slots[slot]? = some (some item) ↔ t.get? slot = some item := by
  rw [get?, Option.join_eq_some_iff]

theorem getElem?_slots_eq_some_none :
    t.slots[slot]? = some none ↔ slot < t.capacity ∧ t.get? slot = none := by
  rw [get?, capacity]
  constructor
  · intro h
    exact ⟨(List.getElem?_eq_some_iff.mp h).1, by rw [h]; rfl⟩
  · rintro ⟨hlt, h⟩
    rw [List.getElem?_eq_getElem hlt] at h ⊢
    exact congrArg some h

theorem get?_put_eq (h : slot < t.capacity) (item : α) :
    (t.put slot item).get? = Assignment.put t.get? slot item := by
  funext other
  rw [get?_put h, Assignment.put, Function.update_apply]

theorem toList_eq_listed (t : Slots α) : t.toList = Assignment.listed t.get? t.capacity := by
  have hslots : t.slots.zipIdx = (List.range t.capacity).map fun slot => (t.get? slot, slot) := by
    refine List.ext_getElem (by simp [capacity]) fun slot hslot _ => ?_
    rw [List.length_zipIdx] at hslot
    simp [get?, List.getElem?_eq_getElem hslot]
  rw [toList, hslots, List.filterMap_map, Assignment.listed]
  rfl

/-! ### The highest slot -/

/-- The mark is not only above the slots that are used, but next to the highest of them. -/
structure Topped (t : Slots α) : Prop extends Marked t where
  top : ∀ slot, slot + 1 = t.used → ∃ item, t.get? slot = some item

theorem topped_ofCapacity (n : Nat) : Topped (ofCapacity n : Slots α) where
  toMarked := marked_ofCapacity n
  top _ h := nomatch h

namespace Topped

theorem isMark (h : t.Topped) : Assignment.IsMark t.get? t.used :=
  ⟨h.below, h.top⟩

theorem put (h : t.Topped) (hslot : slot < t.capacity) (item : α) : (t.put slot item).Topped where
  toMarked := h.toMarked.put hslot item
  top := by
    intro other hother
    replace hother : other + 1 = max t.used (slot + 1) := hother
    rw [get?_put hslot]
    split
    · exact ⟨item, rfl⟩
    · exact h.top other (by omega)

theorem after (h : t.Topped) (call : Call α) : (t.after (t.perform call)).Topped := by
  cases hcall : t.perform call with
  | error error => exact h
  | ok answer =>
      obtain ⟨slot, t'⟩ := answer
      obtain ⟨hroom, rfl⟩ := perform_eq_ok hcall
      exact h.put hroom call.item

/-! ### Calls -/

/-- A call of a table is one on its assignment. -/
theorem takes (h : t.Topped) (call : Call α) :
    Assignment.Takes t.capacity t.get? call ((t.perform call).map Prod.fst)
      (t.after (t.perform call)).get? := by
  cases call with
  | add item =>
      by_cases hroom : t.used < t.capacity
      · have hcall : t.perform (.add item) = .ok (t.used, t.put t.used item) := if_pos hroom
        rw [hcall, Slots.after, get?_put_eq hroom]
        exact .add h.isMark hroom
      · have hcall : t.perform (.add item) = .error (.capacityExceeded t.capacity) := if_neg hroom
        rw [hcall, Slots.after]
        exact .full h.isMark (Nat.not_lt.mp hroom)
  | assign index item =>
      by_cases hroom : index < t.capacity
      · have hcall : t.perform (.assign index item) = .ok (index, t.put index item) := if_pos hroom
        rw [hcall, Slots.after, get?_put_eq hroom]
        exact .assign hroom
      · have hcall : t.perform (.assign index item) = .error (.indexOutOfRange index t.capacity) :=
          if_neg hroom
        rw [hcall, Slots.after]
        exact .outside (Nat.not_lt.mp hroom)

theorem runs (h : t.Topped) (calls : List (Call α)) :
    (t.build calls).Topped ∧
      Assignment.Runs t.capacity t.get? calls (t.answers calls) (t.build calls).get? := by
  induction calls generalizing t with
  | nil => exact ⟨h, .nil _⟩
  | cons call calls ih =>
      have hcapacity : (t.after (t.perform call)).capacity = t.capacity :=
        capacity_build t [call]
      obtain ⟨htopped, hruns⟩ := ih (h.after call)
      rw [hcapacity] at hruns
      exact ⟨htopped, .cons (h.takes call) hruns⟩

end Topped

/-! ### Tables that cannot be finished -/

/-- What is reported of slots is the first that has no item. -/
theorem collect_eq_error_iff {index : Nat} {slots : List (Option α)} {error : SlotsError} :
    collect index slots = .error error ↔
      ∃ slot, error = .emptySlot (index + slot) ∧ slots[slot]? = some none ∧
        ∀ earlier < slot, ∃ item, slots[earlier]? = some (some item) := by
  induction slots generalizing index with
  | nil => simp [collect]
  | cons held rest ih =>
      cases held with
      | none =>
          rw [collect, Except.error.injEq]
          constructor
          · rintro rfl
            exact ⟨0, rfl, rfl, fun earlier hearlier => absurd hearlier earlier.not_lt_zero⟩
          · rintro ⟨slot, rfl, -, hfirst⟩
            -- a later slot is not reported, since this one has no item
            cases slot with
            | zero => rfl
            | succ slot => simpa using hfirst 0 (Nat.succ_pos slot)
      | some item =>
          have hrest : collect index (some item :: rest) = .error error ↔
              collect (index + 1) rest = .error error := by
            rw [collect]
            cases collect (index + 1) rest <;> simp [Except.map]
          rw [hrest, ih]
          constructor
          · rintro ⟨slot, rfl, hnone, hfirst⟩
            refine ⟨slot + 1, by rw [Nat.add_right_comm, Nat.add_assoc], hnone, ?_⟩
            intro earlier hearlier
            cases earlier with
            | zero => exact ⟨item, rfl⟩
            | succ earlier => exact hfirst earlier (Nat.lt_of_succ_lt_succ hearlier)
          · rintro ⟨slot, rfl, hnone, hfirst⟩
            cases slot with
            | zero => simp at hnone
            | succ slot =>
                refine ⟨slot, by rw [Nat.add_right_comm, Nat.add_assoc], hnone, ?_⟩
                exact fun earlier hearlier => hfirst (earlier + 1) (Nat.succ_lt_succ hearlier)

theorem finish_eq_sizeMismatch_iff {declared found : Nat} :
    t.finish = .error (.sizeMismatch declared found) ↔
      declared = t.capacity ∧ found = t.used ∧ t.used ≠ t.capacity := by
  rw [finish]
  split
  · rename_i hused
    refine iff_of_false (fun hcollect => ?_) fun h => h.2.2 hused
    obtain ⟨slot, herror, -⟩ := collect_eq_error_iff.mp hcollect
    cases herror
  · rename_i hused
    rw [Except.error.injEq, SlotsError.sizeMismatch.injEq, eq_comm, eq_comm (a := t.used)]
    exact and_congr_right fun _ => (and_iff_left hused).symm

theorem finish_eq_emptySlot_iff :
    t.finish = .error (.emptySlot slot) ↔
      t.used = t.capacity ∧ slot < t.capacity ∧ t.get? slot = none ∧
        ∀ earlier < slot, ∃ item, t.get? earlier = some item := by
  rw [finish]
  split
  · rename_i hused
    simp only [collect_eq_error_iff, Nat.zero_add, SlotsError.emptySlot.injEq, exists_eq_left',
      getElem?_slots_eq_some_none, getElem?_slots_eq_some_some, and_assoc]
    exact (and_iff_right hused).symm
  · rename_i hused
    exact iff_of_false (fun h => by cases h) fun h => hused h.1

theorem Topped.describes (h : t.Topped) : t.Describes t.capacity t.get? where
  capacity := rfl
  within slot item hitem := Nat.lt_of_lt_of_le (h.below slot item hitem) h.within
  get? _ := rfl
  toList := toList_eq_listed t
  used := h.isMark
  items _ := h.finish_eq_ok_iff
  filled := h.exists_finish_iff
  short declared found := by
    rw [finish_eq_sizeMismatch_iff]
    have hwithin := h.within
    constructor
    · rintro ⟨rfl, rfl, hused⟩
      exact ⟨rfl, h.isMark, by omega⟩
    · rintro ⟨rfl, hmark, hlt⟩
      obtain rfl := hmark.unique h.isMark
      exact ⟨rfl, rfl, Nat.ne_of_lt hlt⟩
  hole slot := by
    rw [finish_eq_emptySlot_iff]
    exact and_congr_left fun _ => ⟨fun hused => hused ▸ h.isMark, fun hmark => h.isMark.unique hmark⟩

/-- A table is a map from slots to items: every call is one on the assignment, with the same
answer, and what is listed, counted and finished is what was assigned last. -/
theorem behaves_as_assignment (capacity : Nat) (calls : List (Call α)) :
    ∃ m : Assignment α,
      Assignment.Runs capacity .empty calls ((ofCapacity capacity).answers calls) m ∧
      ((ofCapacity capacity).build calls).Describes capacity m := by
  have hempty : (ofCapacity capacity : Slots α).get? = Assignment.empty :=
    funext fun slot => get?_ofCapacity capacity slot
  obtain ⟨htopped, hruns⟩ := (topped_ofCapacity (α := α) capacity).runs calls
  have hdescribes := htopped.describes
  rw [capacity_ofCapacity, hempty] at hruns
  rw [capacity_build, capacity_ofCapacity] at hdescribes
  exact ⟨_, hruns, hdescribes⟩

/-- An item that is appended goes behind the slots that were left out, not into them. -/
example : ((ofCapacity 3).build [.assign 1 'b', .add 'c']).finish = .error (.emptySlot 0) := rfl

end LinkStack.Slots
