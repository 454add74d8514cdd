import LinkStack.Text.Hex

/-!
Why a layer refuses a packet or a call.
-/

namespace LinkStack

/-- The links of a layer. -/
inductive Link where
  | child
  | parent
  | other
  deriving DecidableEq, Repr

def Link.name : Link → String
  | .child => "child"
  | .parent => "parent"
  | .other => "other"

/-- The causes; `layer` is always the name of the layer that refuses. -/
inductive LayerError where
  | notInitialized (layer : String)
  | alreadyInitialized (layer : String)
  | unlinked (layer : String) (link : Link)
  | unsupported (layer operation : String)
  | packetTooLarge (size max : Nat)
  | busy (layer : String)
  | emptyPacket
  | unbound (tag : UInt8)
  | io (text : String)
  deriving DecidableEq, Repr

namespace LayerError

def message : LayerError → String
  | .notInitialized layer => s!"{layer} used before init"
  | .alreadyInitialized layer => s!"{layer} already initialized"
  | .unlinked layer link => s!"{layer} has no {link.name} link"
  | .unsupported layer operation => s!"{layer} does not support {operation}"
  | .packetTooLarge size max => s!"packet too large ({size} bytes, max {max})"
  | .busy layer => s!"{layer} is busy"
  | .emptyPacket => "packet is empty"
  | .unbound tag => s!"protocol 0x{Text.Hex.padded 2 tag.toNat} is not bound"
  | .io text => s!"I/O error: {text}"

end LayerError

end LinkStack
