import LinkStack.Bytes

/-!
Traffic counters of a layer.

A layer counts what passes through it in nine 32-bit fields. Counters stop at
their ceiling and never wrap, so a field that reads `2 ^ 32 - 1` means "at
least that many". The snapshot format is the nine fields in declaration order,
four bytes each, little end first: `appendTo` writes it behind what a buffer
holds, and `decode` reads it from the front of a longer string.
-/

namespace LinkStack

/-- Received and sent packets, bytes, errors, retries and drops. -/
structure Stats where
  rxPackets : UInt32 := 0
  rxCounter : UInt32 := 0
  rxErrors : UInt32 := 0
  rxRetries : UInt32 := 0
  rxDropped : UInt32 := 0
  txPackets : UInt32 := 0
  txCounter : UInt32 := 0
  txDropped : UInt32 := 0
  txRetries : UInt32 := 0
  deriving DecidableEq, Repr

/-- What a layer counts: one packet with its length, or one event. -/
inductive Traffic where
  | rxPacket (length : Nat)
  | rxError
  | rxRetry
  | rxDropped
  | txPacket (length : Nat)
  | txDropped
  | txRetry
  deriving DecidableEq, Repr

namespace Stats

/-- The largest value of a counter. -/
def ceiling : Nat := UInt32.size - 1

/-- Adds to a counter and stops at the ceiling. -/
def bump (counter : UInt32) (amount : Nat) : UInt32 :=
  UInt32.ofNat (min ceiling (counter.toNat + min ceiling amount))

/-- Counts one event. -/
def count (s : Stats) : Traffic → Stats
  | .rxPacket length =>
    { s with rxPackets := bump s.rxPackets 1, rxCounter := bump s.rxCounter length }
  | .rxError => { s with rxErrors := bump s.rxErrors 1 }
  | .rxRetry => { s with rxRetries := bump s.rxRetries 1 }
  | .rxDropped => { s with rxDropped := bump s.rxDropped 1 }
  | .txPacket length =>
    { s with txPackets := bump s.txPackets 1, txCounter := bump s.txCounter length }
  | .txDropped => { s with txDropped := bump s.txDropped 1 }
  | .txRetry => { s with txRetries := bump s.txRetries 1 }

/-- The fields in the order of the snapshot format. -/
def toList (s : Stats) : List UInt32 :=
  [s.rxPackets, s.rxCounter, s.rxErrors, s.rxRetries, s.rxDropped,
    s.txPackets, s.txCounter, s.txDropped, s.txRetries]

/-- The snapshot whose fields are given in that order. -/
def ofList? : List UInt32 → Option Stats
  | [rxPackets, rxCounter, rxErrors, rxRetries, rxDropped,
      txPackets, txCounter, txDropped, txRetries] =>
    some { rxPackets, rxCounter, rxErrors, rxRetries, rxDropped,
           txPackets, txCounter, txDropped, txRetries }
  | _ => none

/-- The number of bytes of a snapshot. -/
def wireSize : Nat := 36

/-- A field as four bytes. -/
def word (field : UInt32) : Bytes := Bytes.littleEnd 4 field.toNat

/-- Appends the snapshot to a buffer, and answers the buffer afterwards. -/
def appendTo (s : Stats) (buffer : Bytes) : Bytes :=
  s.toList.foldl (fun buffer field => buffer ++ word field) buffer

/-- The snapshot as bytes. -/
def encode (s : Stats) : Bytes := s.appendTo []

/-- Four bytes at an offset, as a field. -/
def fieldAt (bytes : Bytes) (index : Nat) : UInt32 :=
  UInt32.ofNat (Bytes.ofLittleEnd ((bytes.drop (4 * index)).take 4))

/-- Reads a snapshot from the front of a byte string. -/
def decode (bytes : Bytes) : Option Stats :=
  if bytes.length < wireSize then none
  else ofList? ((List.range 9).map (fieldAt bytes))

@[simp] theorem ofList?_toList (s : Stats) : ofList? s.toList = some s := rfl

theorem toNat_bump (counter : UInt32) (amount : Nat) :
    (bump counter amount).toNat = min ceiling (counter.toNat + amount) := by
  have h := counter.toNat_lt
  simp only [bump, ceiling, UInt32.size, UInt32.toNat_ofNat'] at *
  omega

end Stats

end LinkStack
