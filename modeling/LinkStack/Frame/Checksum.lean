import LinkStack.Bytes

/-!
The two checksums of frames, bit by bit.

A checksum keeps the remainder of a polynomial division over the two-element
field. Shifting the remainder left by one bit multiplies it by `x`; if a one
falls out of the top, the divisor is subtracted, which is an exclusive or. A
byte enters at the top of the remainder and is followed by eight such steps.
-/

namespace LinkStack.Frame

/-- The divisor `x^8 + x^6 + x^3 + x^2 + 1` without its leading term. -/
def crc8Divisor : UInt8 := 0x4D

/-- The divisor `x^16 + x^12 + x^5 + 1` without its leading term. -/
def crc16Divisor : UInt16 := 0x1021

/-- The remainder that the wide checksum starts from. -/
def crc16Start : UInt16 := 0xFFFF

/-- One division step of the narrow checksum. -/
def crc8Shift (r : UInt8) : UInt8 :=
  if r &&& 0x80 = 0 then r <<< 1 else (r <<< 1) ^^^ crc8Divisor

/-- One division step of the wide checksum. -/
def crc16Shift (r : UInt16) : UInt16 :=
  if r &&& 0x8000 = 0 then r <<< 1 else (r <<< 1) ^^^ crc16Divisor

/-- Takes one byte into the narrow checksum. -/
def crc8Byte (r : UInt8) (b : UInt8) : UInt8 := Nat.repeat crc8Shift 8 (r ^^^ b)

/-- Takes one byte into the wide checksum. -/
def crc16Byte (r : UInt16) (b : UInt8) : UInt16 :=
  Nat.repeat crc16Shift 8 (r ^^^ (b.toUInt16 <<< 8))

/-- The narrow checksum of a byte string. -/
def crc8 (bytes : Bytes) : UInt8 := bytes.foldl crc8Byte 0

/-- The wide checksum of a byte string. -/
def crc16 (bytes : Bytes) : UInt16 := bytes.foldl crc16Byte crc16Start

@[simp] theorem crc8_nil : crc8 [] = 0 := rfl

@[simp] theorem crc16_nil : crc16 [] = crc16Start := rfl

theorem crc8_concat (bytes : Bytes) (b : UInt8) :
    crc8 (bytes ++ [b]) = crc8Byte (crc8 bytes) b := by
  simp [crc8]

end LinkStack.Frame
