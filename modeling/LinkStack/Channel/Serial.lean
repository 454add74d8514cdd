import LinkStack.Channel.Error

/-!
The settings of a serial line.
-/

namespace LinkStack.Channel

inductive Parity where
  | none
  | odd
  | even
  deriving DecidableEq, Repr

inductive FlowControl where
  | none
  | software
  | hardware
  deriving DecidableEq, Repr

structure SerialConfig where
  baudRate : Nat := 115200
  dataBits : Nat := 8
  stopBits : Nat := 1
  parity : Parity := .none
  flowControl : FlowControl := .none
  /-- The longest time a write may take, in milliseconds. -/
  writeTimeout : Nat := 100
  deriving DecidableEq, Repr

/-- Refuses settings that no line can have. -/
def SerialConfig.validate (c : SerialConfig) : Except Error Unit :=
  if c.baudRate = 0 then .error (.invalidConfig .baudRate)
  else if c.dataBits < 5 ∨ 8 < c.dataBits then .error (.invalidConfig (.dataBits c.dataBits))
  else if c.stopBits ≠ 1 ∧ c.stopBits ≠ 2 then .error (.invalidConfig (.stopBits c.stopBits))
  else .ok ()

end LinkStack.Channel
