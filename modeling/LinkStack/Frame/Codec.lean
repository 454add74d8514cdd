import LinkStack.Frame.Error

/-!
The wire format of frames.

A frame is a delimiter, a length field, a check byte, the body and a checksum.
The check byte is the narrow checksum of the length field; the checksum covers
everything between the delimiter and itself and is written big end first.
Nothing keeps the delimiter out of the rest of a frame: a reader relies on the
length, and only after an error looks for the next delimiter.

`decode` takes one unit from the front of a buffer: a packet, or the bytes in
front of the next delimiter. It answers the buffer that is left, and nothing
while the buffer holds only the beginning of a frame.
-/

namespace LinkStack.Frame

/-- A body that is not empty: a tag and the rest. -/
structure Packet where
  tag : UInt8
  payload : Bytes
  deriving DecidableEq, Repr

namespace Packet

/-- The tag followed by the payload. -/
def body (p : Packet) : Bytes := p.tag :: p.payload

/-- An empty body is no packet. -/
def ofBody? : Bytes → Option Packet
  | [] => none
  | tag :: payload => some { tag, payload }

@[simp] theorem ofBody?_body (p : Packet) : ofBody? p.body = some p := rfl

end Packet

/-- What a reader finds: a packet, or bytes outside of any frame. -/
inductive Item where
  | packet (packet : Packet)
  | stray (bytes : Bytes)
  deriving DecidableEq, Repr

/-- The result of reading from a buffer; `rest` is the buffer afterwards. -/
inductive Decoded where
  /-- The buffer holds no whole frame and stays as it is. -/
  | needsMore
  | item (item : Item) (rest : Bytes)
  | refused (error : Error) (rest : Bytes)
  deriving DecidableEq, Repr

structure Codec where
  mode : Mode
  delimiter : UInt8
  maxSize : Nat
  deriving DecidableEq, Repr

namespace Codec

/-- A codec never carries more than its mode can. -/
def new (mode : Mode) (delimiter : UInt8) (maxSize : Nat) : Codec :=
  { mode, delimiter, maxSize := min maxSize mode.ceiling }

def ofConfig (c : Config) : Codec := new c.mode c.delimiter c.maxSize

/-- The frame around a body, whatever its size. -/
def frame (c : Codec) (body : Bytes) : Bytes :=
  let field := c.mode.lengthField (body.length - 1)
  let covered := field ++ crc8 field :: body
  c.delimiter :: covered ++ Bytes.bigEnd c.mode.checksumSize (c.mode.checksum covered).toNat

/-- Appends the frame of a body to a buffer, and answers the buffer afterwards. -/
def encode (c : Codec) (body buffer : Bytes) : Except Error Unit × Bytes :=
  if body.isEmpty then (.error .emptyBody, buffer)
  else if c.maxSize < body.length then (.error (.payloadTooLarge body.length c.maxSize), buffer)
  else (.ok (), buffer ++ c.frame body)

/-- The bytes from the next delimiter on. -/
def resync (c : Codec) (bytes : Bytes) : Bytes := bytes.dropWhile (· ≠ c.delimiter)

/-- The bytes in front of the next delimiter. -/
def noise (c : Codec) (bytes : Bytes) : Bytes := bytes.takeWhile (· ≠ c.delimiter)

/-- Reads a frame whose delimiter has been taken off: its packet and what
follows it, or nothing if its end is missing. -/
def readFrame (c : Codec) (src : Bytes) : Except Error (Option (Packet × Bytes)) :=
  match c.mode.readLength src with
  | .error byte => .error (.malformedLength byte)
  | .ok none => .ok none
  | .ok (some (n, fieldSize)) =>
    let size := n + 1
    if c.maxSize < size then .error (.payloadTooLarge size c.maxSize)
    else
      let field := src.take fieldSize
      match src.drop fieldSize with
      | [] => .ok none
      | check :: rest =>
        if check ≠ crc8 field then .error (.lengthCheck (crc8 field) check)
        else
          let body := rest.take size
          let trailer := (rest.drop size).take c.mode.checksumSize
          if trailer.length < c.mode.checksumSize then .ok none
          else
            let expected := c.mode.checksum (field ++ check :: body)
            let found := UInt16.ofNat (Bytes.ofBigEnd trailer)
            if expected ≠ found then .error (.checksumMismatch expected found)
            else .ok ((Packet.ofBody? body).map fun packet =>
              (packet, rest.drop (size + c.mode.checksumSize)))

/-- Takes one unit from the front of a buffer. A frame that is refused is
discarded together with everything up to the next delimiter. -/
def decode (c : Codec) : Bytes → Decoded
  | [] => .needsMore
  | b :: rest =>
    if b ≠ c.delimiter then .item (.stray (c.noise (b :: rest))) (c.resync (b :: rest))
    else
      match c.readFrame rest with
      | .ok none => .needsMore
      | .ok (some (packet, rest)) => .item (.packet packet) rest
      | .error error => .refused error (c.resync rest)

/-- Takes units from the front of a buffer, at most as many as given, until it
holds no whole frame: packets, stray bytes and the errors of refused frames. -/
def decodeUpTo (c : Codec) : Nat → Bytes → List (Except Error Item) × Bytes
  | 0, buffer => ([], buffer)
  | turns + 1, buffer =>
    match c.decode buffer with
    | .needsMore => ([], buffer)
    | .item item rest =>
      let (units, rest) := c.decodeUpTo turns rest
      (.ok item :: units, rest)
    | .refused error rest =>
      let (units, rest) := c.decodeUpTo turns rest
      (.error error :: units, rest)

/-- Takes every unit from the front of a buffer. A unit has at least one byte,
so there are no more units than bytes. -/
def decodeAll (c : Codec) (buffer : Bytes) : List (Except Error Item) × Bytes :=
  c.decodeUpTo buffer.length buffer

/-- Discards the unit at the front of a buffer, and answers how many bytes it
had. -/
def skip (c : Codec) : Bytes → Nat × Bytes
  | [] => (0, [])
  | _ :: rest => ((c.noise rest).length + 1, c.resync rest)

end Codec

end LinkStack.Frame
