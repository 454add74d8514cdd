import LinkStack.Bytes
import LinkStack.Catalog.Error
import LinkStack.Number.Shortest

/-!
Binary fields of a message's arguments: how a format is spelled, and how a
value is packed into bytes and read back.

A format is `%`, then `<` or `>` for the end that comes first (little by
default), then `h`, `l` or `L` for a width of one, four or eight bytes (two by
default), then a conversion. Floating-point numbers have four bytes, or eight
with `L`; there is no `hf`.
-/

namespace LinkStack.Catalog

inductive Endian where
  | little
  | big
  deriving DecidableEq, Repr

inductive Width where
  | one
  | two
  | four
  | eight
  deriving DecidableEq, Repr

def Width.bytes : Width → Nat
  | .one => 1
  | .two => 2
  | .four => 4
  | .eight => 8

inductive Conversion where
  | unsigned
  | signed
  | hex (upper : Bool)
  | float
  deriving DecidableEq, Repr

structure FieldFormat where
  endian : Endian
  width : Width
  conversion : Conversion
  deriving DecidableEq, Repr

/-- The value of a field. A floating-point number is its eight-byte pattern. -/
inductive Value where
  | unsigned (n : Nat)
  | signed (n : Int)
  | float (bits : Nat)
  deriving DecidableEq, Repr

/-- The conversion a letter stands for. -/
def Conversion.ofChar? : Char → Option Conversion
  | 'u' => some .unsigned
  | 'd' => some .signed
  | 'i' => some .signed
  | 'x' => some (.hex false)
  | 'X' => some (.hex true)
  | 'f' => some .float
  | _ => none

/-- The width that a modifier gives to a conversion. -/
def Conversion.width? : Conversion → Option Width → Option Width
  | .float, none => some .four
  | .float, some .four => some .four
  | .float, some .eight => some .eight
  | .float, some _ => none
  | _, modifier => some (modifier.getD .two)

namespace FieldFormat

/-- Takes the byte order off the front of a format. -/
def takeEndian : List Char → Endian × List Char
  | '<' :: rest => (.little, rest)
  | '>' :: rest => (.big, rest)
  | rest => (.little, rest)

/-- Takes the width modifier off the front of a format. -/
def takeModifier : List Char → Option Width × List Char
  | 'h' :: rest => (some .one, rest)
  | 'l' :: rest => (some .four, rest)
  | 'L' :: rest => (some .eight, rest)
  | rest => (none, rest)

/-- Reads a format without its percent sign. -/
def ofChars? (chars : List Char) : Option FieldFormat := do
  let (endian, rest) := takeEndian chars
  let (modifier, rest) := takeModifier rest
  match rest with
  | [letter] =>
    let conversion ← Conversion.ofChar? letter
    let width ← conversion.width? modifier
    return { endian, width, conversion }
  | _ => none

/-- A number as the bytes of a field. -/
def pack (f : FieldFormat) (raw : Nat) : Bytes :=
  match f.endian with
  | .little => Bytes.littleEnd f.width.bytes raw
  | .big => Bytes.bigEnd f.width.bytes raw

/-- The number in the bytes of a field. -/
def unpack (f : FieldFormat) (bytes : Bytes) : Nat :=
  match f.endian with
  | .little => Bytes.ofLittleEnd bytes
  | .big => Bytes.ofBigEnd bytes

/-- The count of numbers that fit. -/
def range (f : FieldFormat) : Nat := Bytes.range f.width.bytes

/-- Reads a value from the bytes of a field. -/
def read (f : FieldFormat) (bytes : Bytes) : Value :=
  let raw := f.unpack bytes
  match f.conversion with
  | .unsigned => .unsigned raw
  | .hex _ => .unsigned raw
  | .signed => .signed (Int.bmod raw f.range)
  | .float => .float (if f.width = .eight then raw else Number.widen raw)

/-- The number that stands for a value in a field of a given name. -/
def raw (f : FieldFormat) (name : String) : Value → Except DescriptorError Nat
  | .unsigned n =>
    match f.conversion with
    | .unsigned => if n < f.range then .ok n else .error (.valueRange name)
    | .hex _ => if n < f.range then .ok n else .error (.valueRange name)
    | _ => .error (.valueType name)
  | .signed n =>
    match f.conversion with
    | .signed =>
      if -(f.range / 2 : Nat) ≤ n ∧ n < (f.range / 2 : Nat) then .ok (n % f.range).toNat
      else .error (.valueRange name)
    | _ => .error (.valueType name)
  | .float bits =>
    match f.conversion with
    | .float => .ok (if f.width = .eight then bits else Number.narrow bits)
    | _ => .error (.valueType name)

/-- A value as text. -/
def render (f : FieldFormat) : Value → String
  | .unsigned n =>
    match f.conversion with
    | .hex false => "0x" ++ Text.Hex.lower n
    | .hex true => "0x" ++ Text.Hex.upper n
    | _ => toString n
  | .signed n => toString n
  | .float bits => (Number.double.decode bits).render

end FieldFormat

end LinkStack.Catalog
