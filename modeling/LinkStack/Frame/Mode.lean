import LinkStack.Frame.Checksum

/-!
The two kinds of frame, and how each writes the length of a body.

The length field of a body of `n + 1` bytes holds `n`. In a short frame it is
one byte below `0x40`. In a compact frame the first byte has its top bit set
and carries the low six bits of `n`; if `0x40` is set in it, groups of seven
bits follow, low groups first, and the top bit of a group says that another one
follows. At most two groups may follow. A reader takes any such field, also
one with more groups than its number needs; the writer uses the fewest.
-/

namespace LinkStack.Frame

inductive Mode where
  /-- One length byte and a narrow checksum. -/
  | short
  /-- A length field of one to three bytes and a wide checksum. -/
  | compact
  deriving DecidableEq, Repr

namespace Mode

def describe : Mode → String
  | .short => "Short"
  | .compact => "Compact"

/-- The longest body a frame can carry. -/
def ceiling : Mode → Nat
  | .short => 64
  | .compact => 65536

/-- The number of checksum bytes. -/
def checksumSize : Mode → Nat
  | .short => 1
  | .compact => 2

/-- The checksum of a frame's bytes, as it is compared. -/
def checksum : Mode → Bytes → UInt16
  | .short, bytes => (crc8 bytes).toUInt16
  | .compact, bytes => crc16 bytes

end Mode

/-- The most groups of seven bits in a length field. -/
def maxGroups : Nat := 2

/-- The most bytes of a length field. -/
def maxLengthField : Nat := maxGroups + 1

/-- A number in groups of seven bits, low groups first. -/
def groups (n : Nat) : Bytes :=
  if n < 128 then [UInt8.ofNat n] else UInt8.ofNat (128 + n % 128) :: groups (n / 128)

/-- The number of groups of seven bits that a number needs; zero needs none. -/
def groupCount (n : Nat) : Nat := if n = 0 then 0 else 1 + groupCount (n / 128)

/-- Reads groups of seven bits to the last one, of which there may be at most
as many as given. Answers the number and how many groups it took, nothing if
the bytes end first, and the last group allowed if it asks for another one. -/
def readGroups : Nat → UInt8 → Bytes → Except UInt8 (Option (Nat × Nat))
  | 0, last, _ => .error last
  | _ + 1, _, [] => .ok none
  | more + 1, _, b :: rest =>
    if b < 0x80 then .ok (some (b.toNat, 1))
    else (readGroups more b rest).map (Option.map fun (n, count) =>
      (b.toNat % 128 + 128 * n, count + 1))

namespace Mode

/-- The length field that holds a number. -/
def lengthField : Mode → Nat → Bytes
  | .short, n => [UInt8.ofNat n]
  | .compact, n =>
    if n < 64 then [UInt8.ofNat (0x80 + n)]
    else UInt8.ofNat (0xC0 + n % 64) :: groups (n / 64)

/-- Reads the length field at the front of a byte string. Answers the number it
holds and how many bytes it took, nothing if the string ends within the field,
and the offending byte if it is not a length field of this mode. -/
def readLength : Mode → Bytes → Except UInt8 (Option (Nat × Nat))
  | _, [] => .ok none
  | .short, b :: _ => if b < 0x40 then .ok (some (b.toNat, 1)) else .error b
  | .compact, b :: rest =>
    if b < 0x80 then .error b
    else if b &&& 0x40 = 0 then .ok (some (b.toNat % 64, 1))
    else (readGroups maxGroups b rest).map (Option.map fun (n, count) =>
      (b.toNat % 64 + 64 * n, count + 1))

/-- The number of bytes of the length field of a body. -/
def lengthSize : Mode → Nat → Nat
  | .short, _ => 1
  | .compact, size => 1 + groupCount ((size - 1) / 64)

/-- The number of bytes that a frame adds to a body of a given size: delimiter,
length field, check byte and checksum. -/
def overhead (mode : Mode) (size : Nat) : Nat :=
  1 + mode.lengthSize size + 1 + mode.checksumSize

end Mode

end LinkStack.Frame
