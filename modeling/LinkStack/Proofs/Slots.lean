import LinkStack.Slots

/-!
Tables and the calls that have filled them.

A call that is refused changes nothing. One that is accepted assigns the slot that it
answers, so that a table holds in each slot the item that was assigned to it last
(`get?_build`). No item stands above the mark of used slots, hence a table can be finished
exactly if each of its slots has been assigned (`Marked.finish_eq_ok_iff`).
-/

namespace LinkStack

/-- Only an error is translated. -/
theorem mapError_ok {α ε ε' : Type} (f : ε → ε') (a : α) :
    (Except.ok a : Except ε α).mapError f = .ok a :=
  rfl

namespace Slots

variable {α ε : Type}

theorem mem_toList_iff {t : Slots α} {slot : Nat} {item : α} :
    (slot, item) ∈ t.toList ↔ t.get? slot = some item := by
  simp only [toList, get?, List.mem_filterMap, Prod.exists, List.mem_zipIdx_iff_getElem?]
  constructor
  · rintro ⟨held, index, hheld, hitem⟩
    obtain ⟨item', rfl, hitem⟩ := Option.map_eq_some_iff.mp hitem
    cases hitem
    rw [hheld]
    rfl
  · intro h
    refine ⟨some item, slot, ?_, rfl⟩
    cases hheld : t.slots[slot]? with
    | none => simp [hheld] at h
    | some held =>
        rw [hheld] at h
        exact congrArg some h

/-! ### Histories -/

/-- A call of a table under construction. -/
inductive Call (α : Type) where
  | add (item : α)
  | assign (index : Nat) (item : α)
  deriving DecidableEq, Repr

def Call.item : Call α → α
  | .add item => item
  | .assign _ item => item

def perform (t : Slots α) : Call α → Except SlotsError (Nat × Slots α)
  | .add item => t.add item
  | .assign index item => t.assign index item

/-- The table after a call, given its answer. -/
def after (t : Slots α) : Except ε (Nat × Slots α) → Slots α
  | .ok (_, t') => t'
  | .error _ => t

/-- The table after calls. -/
def build (t : Slots α) (calls : List (Call α)) : Slots α :=
  calls.foldl (fun t call => t.after (t.perform call)) t

/-- The slots that were answered to calls, each with the item that it was assigned. -/
def assigned : Slots α → List (Call α) → List (Nat × α)
  | _, [] => []
  | t, call :: calls =>
    match t.perform call with
    | .ok (slot, t') => (slot, call.item) :: t'.assigned calls
    | .error _ => t.assigned calls

/-- What was assigned last to a slot. -/
def lastAssigned (t : Slots α) (calls : List (Call α)) (slot : Nat) : Option α :=
  (t.assigned calls).reverse.lookup slot

variable {t t' : Slots α} {call : Call α} {calls : List (Call α)} {slot : Nat}

/-- A call that is accepted puts its item into a slot within the capacity. -/
theorem perform_eq_ok (h : t.perform call = .ok (slot, t')) :
    slot < t.capacity ∧ t' = t.put slot call.item := by
  cases call with
  | add item =>
      rw [perform, add] at h
      split at h
      · rename_i hroom
        cases h
        exact ⟨hroom, rfl⟩
      · cases h
  | assign index item =>
      rw [perform, assign] at h
      split at h
      · rename_i hroom
        cases h
        exact ⟨hroom, rfl⟩
      · cases h

theorem build_cons (t : Slots α) (call : Call α) (calls : List (Call α)) :
    t.build (call :: calls) = (t.after (t.perform call)).build calls :=
  rfl

@[simp] theorem capacity_build (t : Slots α) (calls : List (Call α)) :
    (t.build calls).capacity = t.capacity := by
  induction calls generalizing t with
  | nil => rfl
  | cons call calls ih =>
      rw [build_cons, ih]
      cases hcall : t.perform call with
      | error error => rfl
      | ok answer =>
          obtain ⟨slot, t'⟩ := answer
          obtain ⟨-, rfl⟩ := perform_eq_ok hcall
          exact capacity_put t slot call.item

/-- A slot holds what was assigned to it last, or what it held before. -/
theorem get?_build (t : Slots α) (calls : List (Call α)) (slot : Nat) :
    (t.build calls).get? slot = (t.lastAssigned calls slot).or (t.get? slot) := by
  induction calls generalizing t with
  | nil => rfl
  | cons call calls ih =>
      rw [build_cons, ih]
      cases hcall : t.perform call with
      | error error => simp [lastAssigned, assigned, hcall, after]
      | ok answer =>
          obtain ⟨own, t'⟩ := answer
          obtain ⟨hroom, rfl⟩ := perform_eq_ok hcall
          have hown : (t.put own call.item).get? slot =
              ([(own, call.item)].lookup slot).or (t.get? slot) := by
            rw [get?_put hroom]
            by_cases hslot : slot = own
            · simp [hslot]
            · simp [List.lookup_cons, hslot, beq_false_of_ne hslot]
          simp [lastAssigned, assigned, hcall, after, hown, List.lookup_append, Option.or_assoc]

theorem get?_build_ofCapacity (n : Nat) (calls : List (Call α)) (slot : Nat) :
    ((ofCapacity n).build calls).get? slot = (ofCapacity n).lastAssigned calls slot := by
  rw [get?_build, get?_ofCapacity, Option.or_none]

/-! ### The mark of used slots -/

/-- The slots that are used lie below the mark, and the mark within the capacity. -/
structure Marked (t : Slots α) : Prop where
  within : t.used ≤ t.capacity
  below : ∀ slot item, t.get? slot = some item → slot < t.used

theorem marked_ofCapacity (n : Nat) : Marked (ofCapacity n : Slots α) where
  within := Nat.zero_le _
  below := by simp

theorem Marked.put (h : t.Marked) (hslot : slot < t.capacity) (item : α) :
    (t.put slot item).Marked where
  within := by
    rw [capacity_put]
    exact Nat.max_le.mpr ⟨h.within, hslot⟩
  below := by
    intro other found hfound
    rw [get?_put hslot] at hfound
    show other < max t.used (slot + 1)
    split at hfound
    · omega
    · have := h.below other found hfound
      omega

theorem Marked.build (h : t.Marked) (calls : List (Call α)) : (t.build calls).Marked := by
  induction calls generalizing t with
  | nil => exact h
  | cons call calls ih =>
      rw [build_cons]
      refine ih ?_
      cases hcall : t.perform call with
      | error error => exact h
      | ok answer =>
          obtain ⟨slot, t'⟩ := answer
          obtain ⟨hroom, rfl⟩ := perform_eq_ok hcall
          exact h.put hroom call.item

/-! ### Finished tables -/

theorem collect_map_some (index : Nat) (items : List α) :
    collect index (items.map some) = .ok items := by
  induction items generalizing index with
  | nil => rfl
  | cons item items ih => simp [collect, ih, Except.map]

theorem eq_map_some_of_collect {index : Nat} {slots : List (Option α)} {items : List α}
    (h : collect index slots = .ok items) : slots = items.map some := by
  induction slots generalizing index items with
  | nil =>
      cases h
      rfl
  | cons slot rest ih =>
      cases slot with
      | none => cases h
      | some item =>
          cases hrest : collect (index + 1) rest with
          | error error =>
              rw [collect, hrest] at h
              cases h
          | ok later =>
              rw [collect, hrest] at h
              cases h
              rw [ih hrest, List.map_cons]

theorem slots_eq_map_some_iff {items : List α} :
    t.slots = items.map some ↔ items.length = t.capacity ∧ ∀ slot, items[slot]? = t.get? slot := by
  constructor
  · intro h
    refine ⟨by rw [capacity, h, List.length_map], fun slot => ?_⟩
    rw [get?, h, List.getElem?_map]
    cases items[slot]? <;> rfl
  · rintro ⟨hlength, hitems⟩
    refine List.ext_getElem? fun slot => ?_
    have hslot := hitems slot
    rw [get?] at hslot
    rw [List.getElem?_map, hslot]
    rcases Nat.lt_or_ge slot t.slots.length with hlt | hge
    · have hitem : slot < items.length := hlength ▸ hlt
      rw [List.getElem?_eq_getElem hitem] at hslot
      rw [List.getElem?_eq_getElem hlt] at hslot ⊢
      cases hat : t.slots[slot] with
      | none => simp [hat] at hslot
      | some item => rfl
    · rw [List.getElem?_eq_none hge]
      rfl

/-- A table can be finished exactly if every slot is used, and gives the items in the order of
the slots. -/
theorem Marked.finish_eq_ok_iff (h : t.Marked) {items : List α} :
    t.finish = .ok items ↔ items.length = t.capacity ∧ ∀ slot, items[slot]? = t.get? slot := by
  rw [← slots_eq_map_some_iff]
  constructor
  · intro hfinish
    rw [finish] at hfinish
    split at hfinish
    · exact eq_map_some_of_collect hfinish
    · cases hfinish
  · intro hslots
    obtain ⟨hlength, hitems⟩ := slots_eq_map_some_iff.mp hslots
    have hused : t.used = t.capacity := by
      refine Nat.le_antisymm h.within ?_
      rcases Nat.eq_zero_or_pos t.capacity with hzero | hpos
      · omega
      · have htop : t.capacity - 1 < items.length := by omega
        have := h.below (t.capacity - 1) items[t.capacity - 1]
          (by rw [← hitems, List.getElem?_eq_getElem htop])
        omega
    rw [finish, if_pos hused, hslots]
    exact collect_map_some 0 items

theorem exists_eq_map_some {slots : List (Option α)} (h : ∀ slot ∈ slots, slot.isSome) :
    ∃ items : List α, slots = items.map some := by
  induction slots with
  | nil => exact ⟨[], rfl⟩
  | cons slot rest ih =>
      obtain ⟨hslot, hrest⟩ := List.forall_mem_cons.mp h
      obtain ⟨item, rfl⟩ := Option.isSome_iff_exists.mp hslot
      obtain ⟨items, rfl⟩ := ih hrest
      exact ⟨item :: items, rfl⟩

theorem Marked.exists_finish_iff (h : t.Marked) :
    (∃ items, t.finish = .ok items) ↔ ∀ slot < t.capacity, ∃ item, t.get? slot = some item := by
  constructor
  · rintro ⟨items, hfinish⟩ slot hslot
    obtain ⟨hlength, hitems⟩ := h.finish_eq_ok_iff.mp hfinish
    exact ⟨items[slot], by rw [← hitems, List.getElem?_eq_getElem]⟩
  · intro hall
    obtain ⟨items, hslots⟩ : ∃ items : List α, t.slots = items.map some := by
      refine exists_eq_map_some fun slot hmem => ?_
      obtain ⟨index, hindex, rfl⟩ := List.mem_iff_getElem.mp hmem
      obtain ⟨item, hitem⟩ := hall index hindex
      rw [get?, List.getElem?_eq_getElem hindex] at hitem
      simp only [Option.join_some] at hitem
      rw [hitem]
      rfl
    exact ⟨items, h.finish_eq_ok_iff.mpr (slots_eq_map_some_iff.mp hslots)⟩

end Slots

end LinkStack
