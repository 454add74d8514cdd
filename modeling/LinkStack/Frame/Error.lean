import LinkStack.Frame.Config
import LinkStack.Layer.Error

/-!
Why a frame is refused, written or read.
-/

namespace LinkStack.Frame

inductive Error where
  /-- The byte does not belong in a length field of the mode, or asks for one
  group too many. -/
  | malformedLength (byte : UInt8)
  | lengthCheck (expected found : UInt8)
  | payloadTooLarge (size max : Nat)
  | emptyBody
  | checksumMismatch (expected found : UInt16)
  | invalidConfig (fault : ConfigFault)
  | layer (error : LayerError)
  deriving DecidableEq, Repr

namespace Error

open LinkStack.Text

def message : Error → String
  | .malformedLength byte => s!"malformed length field (0x{Hex.padded 2 byte.toNat})"
  | .lengthCheck expected found =>
    s!"length check mismatch (expected 0x{Hex.padded 2 expected.toNat}, " ++
      s!"found 0x{Hex.padded 2 found.toNat})"
  | .payloadTooLarge size max => s!"frame too large ({size} bytes, max {max})"
  | .emptyBody => "frame body is empty"
  | .checksumMismatch expected found =>
    s!"checksum mismatch (expected 0x{Hex.padded 4 expected.toNat}, " ++
      s!"found 0x{Hex.padded 4 found.toNat})"
  | .invalidConfig fault => s!"invalid frame configuration: {fault.message}"
  | .layer error => error.message

/-- The error as the neighbours of a framing layer see it. -/
def toLayerError : Error → LayerError
  | .payloadTooLarge size max => .packetTooLarge size max
  | .emptyBody => .emptyPacket
  | .layer error => error
  | other => .io other.message

end Error

/-- Refuses unusable settings. -/
def Config.validate (c : Config) : Except Error Unit :=
  match c.fault? with
  | none => .ok ()
  | some fault => .error (.invalidConfig fault)

end LinkStack.Frame
