import LinkStack.Layer.Error

/-!
The links of a layer. A layer is made unlinked and is given its child, which
carries what it sends, and its parent, which is given what it receives, in one
step that cannot be repeated. Links are references of any type; whether a
parent is still there is not known here, since a parent is never kept alive by
the layers below it.
-/

namespace LinkStack

structure Links (ρ : Type) where
  child : Option ρ
  parent : Option ρ
  deriving DecidableEq, Repr

/-- A layer's name and, once it is initialized, its links. -/
structure Node (ρ : Type) where
  name : String
  links : Option (Links ρ) := none
  deriving DecidableEq, Repr

namespace Node

variable {ρ : Type}

def isInitialized (n : Node ρ) : Bool := n.links.isSome

/-- Sets the links, once. -/
def init (n : Node ρ) (child parent : Option ρ) : Except LayerError (Node ρ) :=
  match n.links with
  | none => .ok { n with links := some { child, parent } }
  | some _ => .error (.alreadyInitialized n.name)

/-- The links of an initialized layer. -/
def linked (n : Node ρ) : Except LayerError (Links ρ) :=
  match n.links with
  | none => .error (.notInitialized n.name)
  | some links => .ok links

/-- The child. -/
def child (n : Node ρ) : Except LayerError ρ := do
  match (← n.linked).child with
  | none => .error (.unlinked n.name .child)
  | some child => .ok child

/-- The child, if the layer has been given one. -/
def child? (n : Node ρ) : Option ρ := n.links.bind (·.child)

/-- How a node is written out. -/
def describe (n : Node ρ) (quote : String → String) : String :=
  "Node \x7b name: " ++ quote n.name ++ ", initialized: " ++ toString n.isInitialized ++ " \x7d"

end Node

end LinkStack
