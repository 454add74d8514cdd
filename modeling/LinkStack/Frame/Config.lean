import LinkStack.Clock
import LinkStack.Frame.Mode

/-!
The settings of a framing layer and which of them are usable.
-/

namespace LinkStack.Frame

/-- The bytes in front of a packet inside a control frame. -/
def controlHeader : Nat := 3

/-- The smallest usable body limit: a control header and one tag. -/
def minSize : Nat := controlHeader + 1

/-- The settings. A partial frame is kept for `rxTimeout` ticks, an
acknowledgement awaited for `ackTimeout` ticks, and a confirmed packet sent
again at most `maxRetries` times. -/
structure Config where
  mode : Mode := .compact
  delimiter : UInt8 := 0xA5
  maxSize : Nat := 4096
  rxTimeout : Tick := 100
  ackTimeout : Tick := 50
  maxRetries : UInt8 := 3
  deriving DecidableEq, Repr

/-- Why settings are unusable. -/
inductive ConfigFault where
  | maxSize (mode : Mode) (found : Nat)
  | ackTimeout
  deriving DecidableEq, Repr

def ConfigFault.message : ConfigFault → String
  | .maxSize mode found =>
    s!"max_size must be {minSize}..={mode.ceiling} in {mode.describe} mode, got {found}"
  | .ackTimeout => "ack_timeout must be positive"

namespace Config

/-- Short frames at their full size. -/
def short : Config := { mode := .short, maxSize := Mode.short.ceiling }

/-- The first fault of the settings, if there is one. -/
def fault? (c : Config) : Option ConfigFault :=
  if c.maxSize < minSize ∨ c.mode.ceiling < c.maxSize then some (.maxSize c.mode c.maxSize)
  else if c.ackTimeout = 0 then some .ackTimeout
  else none

end Config

end LinkStack.Frame
