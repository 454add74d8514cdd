import LinkStack.Layer.Error

/-!
Why a channel cannot be set up.
-/

namespace LinkStack.Channel

/-- What is wrong with the settings of a channel. -/
inductive ConfigFault where
  | emptyLimits
  | baudRate
  | dataBits (found : Nat)
  | stopBits (found : Nat)
  deriving DecidableEq, Repr

def ConfigFault.message : ConfigFault → String
  | .emptyLimits => "max_packet and max_clients must be positive"
  | .baudRate => "baud_rate must be positive"
  | .dataBits found => s!"data_bits must be 5..=8, got {found}"
  | .stopBits found => s!"stop_bits must be 1 or 2, got {found}"

inductive Error where
  /-- The address cannot be bound. -/
  | bind (address : String)
  /-- The host is not an address. -/
  | resolve (host : String) (port : Nat)
  | tooManyClients (max : Nat)
  | invalidConfig (fault : ConfigFault)
  | layer (error : LayerError)
  deriving DecidableEq, Repr

def Error.message : Error → String
  | .bind address => s!"failed to bind to {address}"
  | .resolve host port => s!"failed to resolve {host}:{port}"
  | .tooManyClients max => s!"too many clients (max {max})"
  | .invalidConfig fault => s!"invalid driver configuration: {fault.message}"
  | .layer error => error.message

end LinkStack.Channel
