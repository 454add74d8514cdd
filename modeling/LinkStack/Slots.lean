/-!
Tables that are filled slot by slot and then sealed.

A table is declared with a capacity. Items are appended after the highest slot
used so far, or assigned to a chosen slot; a second item for a slot replaces
the first. Sealing demands that every declared slot holds an item. Both the
bindings of a dispatcher and the catalog of a message layer are built this way.
-/

namespace LinkStack

/-- Why a table refuses an item, or refuses to be sealed. -/
inductive SlotsError where
  | capacityExceeded (capacity : Nat)
  | indexOutOfRange (index capacity : Nat)
  | sizeMismatch (expected found : Nat)
  | emptySlot (index : Nat)
  deriving DecidableEq, Repr

def SlotsError.message : SlotsError → String
  | .capacityExceeded capacity => s!"table capacity exceeded (capacity {capacity})"
  | .indexOutOfRange index capacity => s!"slot {index} out of range (capacity {capacity})"
  | .sizeMismatch expected found =>
    s!"table size not matching (declared {expected}, bound {found})"
  | .emptySlot index => s!"slot {index} was never assigned"

/-- A table under construction: its slots, and one past the highest slot that
was ever assigned. -/
structure Slots (α : Type) where
  slots : List (Option α)
  used : Nat := 0
  deriving Repr

namespace Slots

variable {α : Type}

/-- An empty table of the given capacity. -/
def ofCapacity (capacity : Nat) : Slots α := { slots := List.replicate capacity none }

def capacity (t : Slots α) : Nat := t.slots.length

/-- The item in a slot. -/
def get? (t : Slots α) (index : Nat) : Option α := (t.slots[index]?).join

/-- The assigned slots with their items, in slot order. -/
def toList (t : Slots α) : List (Nat × α) :=
  t.slots.zipIdx.filterMap fun (slot, index) => slot.map fun item => (index, item)

/-- Puts an item into a slot within the capacity. -/
def put (t : Slots α) (index : Nat) (item : α) : Slots α :=
  { slots := t.slots.set index (some item), used := max t.used (index + 1) }

/-- Appends an item after the highest slot used, and answers its slot. -/
def add (t : Slots α) (item : α) : Except SlotsError (Nat × Slots α) :=
  if t.used < t.capacity then .ok (t.used, t.put t.used item)
  else .error (.capacityExceeded t.capacity)

/-- Assigns a chosen slot, and answers it. -/
def assign (t : Slots α) (index : Nat) (item : α) : Except SlotsError (Nat × Slots α) :=
  if index < t.capacity then .ok (index, t.put index item)
  else .error (.indexOutOfRange index t.capacity)

/-- The items of a full table, or the lowest slot that was left empty. -/
def collect : Nat → List (Option α) → Except SlotsError (List α)
  | _, [] => .ok []
  | index, none :: _ => .error (.emptySlot index)
  | index, some item :: rest => (collect (index + 1) rest).map (item :: ·)

/-- The items in slot order. A table whose highest slots are unused is short of
its declared size; any other hole is an empty slot. -/
def finish (t : Slots α) : Except SlotsError (List α) :=
  if t.used = t.capacity then collect 0 t.slots
  else .error (.sizeMismatch t.capacity t.used)

@[simp] theorem capacity_ofCapacity (n : Nat) : (ofCapacity n : Slots α).capacity = n := by
  simp [ofCapacity, capacity]

@[simp] theorem capacity_put (t : Slots α) (index : Nat) (item : α) :
    (t.put index item).capacity = t.capacity := by
  simp [put, capacity]

@[simp] theorem get?_ofCapacity (n index : Nat) : (ofCapacity n : Slots α).get? index = none := by
  simp only [ofCapacity, get?]
  grind

theorem get?_put {t : Slots α} {index : Nat} (h : index < t.capacity) (item : α) (other : Nat) :
    (t.put index item).get? other = if other = index then some item else t.get? other := by
  simp only [put, get?, capacity] at *
  grind

end Slots

end LinkStack
