import LinkStack.Layer.Basic
import LinkStack.Slots
import LinkStack.Text.Hex

/-!
Bind tables: which layer takes a protocol tag or a port number.

A table is declared at a fixed size, filled slot by slot and then finished. No
route occurs twice, and a route that matches everything can only stand last, so
the first binding that matches a number is the only one that names it, or else
the catch-all.
-/

namespace LinkStack.Addressing

/-- What a binding matches. -/
inductive Route where
  | number (number : UInt8)
  | any
  deriving DecidableEq, Repr

namespace Route

def describe : Route → String
  | .number n => s!"0x{Text.Hex.padded 2 n.toNat}"
  | .any => "any"

/-- Whether a route matches a number. -/
def covers : Route → UInt8 → Bool
  | .number own, n => own = n
  | .any, _ => true

end Route

/-- The layer behind a binding. Layers above are only pointed at, as parents
are; a receiver that nothing else keeps is owned by the table. -/
inductive Handler (ρ : Type) where
  | layer (target : ρ)
  | receiver (target : ρ)
  deriving DecidableEq, Repr

def Handler.target {ρ : Type} : Handler ρ → ρ
  | .layer target => target
  | .receiver target => target

/-- A handler as it is written out, given the name of its layer if it is still
there. -/
def Handler.describe : Option String → String
  | some name => s!"Handler({name})"
  | none => "Handler(<dropped>)"

structure Binding (ρ : Type) where
  route : Route
  handler : Handler ρ
  deriving DecidableEq, Repr

/-- Why a table or a layer is refused. -/
inductive Error where
  | table (error : SlotsError)
  | duplicateRoute (route : Route)
  | misplacedCatchAll (index : Nat)
  | invalidUser (tag : UInt8)
  | layer (error : LayerError)
  deriving DecidableEq, Repr

def Error.message : Error → String
  | .table error => s!"bind table: {error.message}"
  | .duplicateRoute route => s!"route {route.describe} bound more than once"
  | .misplacedCatchAll index =>
    s!"catch-all route must be the last binding (found at slot {index})"
  | .invalidUser tag => s!"0x{Text.Hex.padded 2 tag.toNat} is not a user protocol"
  | .layer error => error.message

/-- A bind table under construction. -/
abbrev Draft (ρ : Type) := Slots (Binding ρ)

/-- A finished bind table. -/
structure BindTable (ρ : Type) where
  bindings : List (Binding ρ)
  deriving DecidableEq, Repr

namespace Draft

variable {ρ : Type}

/-- Whether a route stands in a slot other than the given one. -/
def isTaken (d : Draft ρ) (route : Route) (slot : Option Nat) : Bool :=
  (Slots.toList d).any fun (index, binding) => some index ≠ slot && binding.route = route

/-- Appends a binding, and answers its slot. -/
def bind (d : Draft ρ) (route : Route) (handler : Handler ρ) : Except Error (Nat × Draft ρ) :=
  if d.isTaken route none then .error (.duplicateRoute route)
  else (Slots.add d { route, handler }).mapError .table

/-- Binds a chosen slot. -/
def bindAt (d : Draft ρ) (index : Nat) (route : Route) (handler : Handler ρ) :
    Except Error (Nat × Draft ρ) :=
  if d.isTaken route (some index) then .error (.duplicateRoute route)
  else (Slots.assign d index { route, handler }).mapError .table

/-- The finished table. -/
def finish (d : Draft ρ) : Except Error (BindTable ρ) := do
  let bindings ← (Slots.finish d).mapError .table
  match bindings.findIdx? (·.route = .any) with
  | none => .ok { bindings }
  | some index =>
    if index = bindings.length - 1 then .ok { bindings } else .error (.misplacedCatchAll index)

end Draft

namespace BindTable

variable {ρ : Type}

def size (t : BindTable ρ) : Nat := t.bindings.length

def routes (t : BindTable ρ) : List Route := t.bindings.map (·.route)

/-- The handler of the first binding that matches. -/
def lookup (t : BindTable ρ) (id : UInt8) : Option (Handler ρ) :=
  (t.bindings.find? (·.route.covers id)).map (·.handler)

def contains (t : BindTable ρ) (id : UInt8) : Bool := (t.lookup id).isSome

/-- The targets that the table keeps alive. -/
def owned (t : BindTable ρ) : List ρ :=
  t.bindings.filterMap fun binding =>
    match binding.handler with
    | .layer _ => none
    | .receiver target => some target

end BindTable

/-- The layer behind a handler, if it is still there. -/
def Handler.resolve {m : Type → Type} [Monad m] {ρ S : Type} (site : Site m ρ S) :
    Handler ρ → m (Option (Layer m))
  | .layer target => return if ← site.alive target then some (site.layer target) else none
  | .receiver target => return some (site.layer target)

/-- The layer that a table names for a number, if it names one that is still
there. -/
def BindTable.resolve {m : Type → Type} [Monad m] {ρ S : Type} (site : Site m ρ S)
    (t : BindTable ρ) (id : UInt8) : m (Option (Layer m)) :=
  match t.lookup id with
  | none => pure none
  | some handler => handler.resolve site

end LinkStack.Addressing
