/-!
Numbers in base sixteen.
-/

namespace LinkStack.Text.Hex

/-- The value of a digit, in either case. -/
def value? (c : Char) : Option Nat :=
  if c.isDigit then some (c.toNat - '0'.toNat)
  else if 'a' ≤ c ∧ c ≤ 'f' then some (c.toNat - 'a'.toNat + 10)
  else if 'A' ≤ c ∧ c ≤ 'F' then some (c.toNat - 'A'.toNat + 10)
  else none

/-- The lower-case digits of a number, without leading zeros; zero is `0`. -/
def digits (n : Nat) : List Char := Nat.toDigits 16 n

/-- A number in lower case, without leading zeros. -/
def lower (n : Nat) : String := String.ofList (digits n)

/-- A number in upper case, without leading zeros. -/
def upper (n : Nat) : String := String.ofList ((digits n).map Char.toUpper)

/-- A number in lower case, filled up with leading zeros to a width. -/
def padded (width n : Nat) : String :=
  String.ofList (List.replicate (width - (digits n).length) '0' ++ digits n)

end LinkStack.Text.Hex
