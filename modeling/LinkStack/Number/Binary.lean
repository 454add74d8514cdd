/-!
Binary floating-point numbers in the two interchange formats, as bit patterns.

A pattern is a sign bit, an exponent and a fraction. `Format.decode` takes it
apart into an exact value `± m · 2 ^ e`, an infinity or a NaN; `Format.encode`
is the nearest pattern of an exact value, where a value half way between two
patterns goes to the one with an even fraction and one beyond the largest
becomes infinite. Every narrow number is also a wide one.
-/

namespace LinkStack.Number

/-- A power of a whole number. -/
def power (base exponent : Nat) : Nat := Nat.pow base exponent

/-- A format by the widths of its fraction and of its exponent. -/
structure Format where
  fractionBits : Nat
  exponentBits : Nat
  deriving DecidableEq, Repr

/-- The format of four bytes. -/
def single : Format := ⟨23, 8⟩

/-- The format of eight bytes. -/
def double : Format := ⟨52, 11⟩

/-- What a pattern stands for. The payload of a NaN is kept as the upper bits
of a fraction of 52 bits. -/
inductive Datum where
  | nan (negative : Bool) (payload : Nat)
  | infinite (negative : Bool)
  | finite (negative : Bool) (m : Nat) (e : Int)
  deriving DecidableEq, Repr

namespace Format

/-- The exponent of the last place of the smallest numbers. -/
def minExponent (f : Format) : Int := 2 - (power 2 (f.exponentBits - 1) : Int) - (f.fractionBits : Int)

/-- The pattern of infinity without its sign. -/
def infinity (f : Format) : Nat := (power 2 f.exponentBits - 1) * power 2 f.fractionBits

/-- A pattern with its sign. -/
def signed (f : Format) (negative : Bool) (pattern : Nat) : Nat :=
  if negative then power 2 (f.fractionBits + f.exponentBits) + pattern else pattern

def decode (f : Format) (bits : Nat) : Datum :=
  let unit := power 2 f.fractionBits
  let negative := bits / power 2 (f.fractionBits + f.exponentBits) % 2 = 1
  let exponent := bits / unit % power 2 f.exponentBits
  let fraction := bits % unit
  if exponent = power 2 f.exponentBits - 1 then
    if fraction = 0 then .infinite negative
    else .nan negative (fraction * power 2 (52 - f.fractionBits))
  else if exponent = 0 then .finite negative fraction f.minExponent
  else .finite negative (unit + fraction) (f.minExponent + exponent - 1)

/-- A quotient by a power of two, rounded to the nearest number and to the even
one of two. -/
def roundShift (m shift : Nat) : Nat :=
  let quotient := m / power 2 shift
  let rest := m % power 2 shift
  if 2 * rest < power 2 shift ∨ 2 * rest = power 2 shift ∧ quotient % 2 = 0 then quotient
  else quotient + 1

/-- The nearest pattern of `m · 2 ^ e`, without its sign. A significand that is
rounded up to the next power of two carries into the exponent. -/
def encodeMagnitude (f : Format) (m : Nat) (e : Int) : Nat :=
  if m = 0 then 0
  else
    let place := max f.minExponent (e + (m.log2 : Int) - f.fractionBits)
    let significand :=
      if place ≤ e then m * power 2 (e - place).toNat else roundShift m (place - e).toNat
    min f.infinity ((place - f.minExponent).toNat * power 2 f.fractionBits + significand)

def encode (f : Format) : Datum → Nat
  | .nan negative payload =>
    let quiet := power 2 (f.fractionBits - 1)
    f.signed negative (f.infinity + (payload / power 2 (52 - f.fractionBits) ||| quiet))
  | .infinite negative => f.signed negative f.infinity
  | .finite negative m e => f.signed negative (f.encodeMagnitude m e)

end Format

/-- The wide pattern of a narrow one. -/
def widen (bits : Nat) : Nat := double.encode (single.decode bits)

/-- The narrow pattern nearest to a wide one. -/
def narrow (bits : Nat) : Nat := single.encode (double.decode bits)

end LinkStack.Number
