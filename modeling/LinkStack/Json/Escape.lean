import LinkStack.Text.Hex

/-!
Text inside the quotes of a JSON string.

Between the quotes a text is written with escapes: `\"`, `\\`, `\/`, `\b`,
`\f`, `\n`, `\r`, `\t`, and `\u` with four hexadecimal digits for a UTF-16 unit.
Whether the escapes are well formed is a matter of syntax; whether the units
pair up into characters is asked only of a string that is used.
-/

namespace LinkStack.Json

/-- The unit that four hexadecimal digits spell. -/
def unit? (a b c d : Char) : Option Nat := do
  let a ← Text.Hex.value? a
  let b ← Text.Hex.value? b
  let c ← Text.Hex.value? c
  let d ← Text.Hex.value? d
  return ((a * 16 + b) * 16 + c) * 16 + d

/-- The character of a short escape. -/
def shortEscape? : Char → Option Char
  | '"' => some '"'
  | '\\' => some '\\'
  | '/' => some '/'
  | 'b' => some '\x08'
  | 'f' => some '\x0c'
  | 'n' => some '\n'
  | 'r' => some '\r'
  | 't' => some '\t'
  | _ => none

/-- The first of the units that stand for a character in pairs. -/
def isHighSurrogate (unit : Nat) : Bool := 0xD800 ≤ unit && unit < 0xDC00

/-- The second of a pair. -/
def isLowSurrogate (unit : Nat) : Bool := 0xDC00 ≤ unit && unit < 0xE000

/-- The text that the characters between quotes stand for. A unit of a pair
must not stand alone. -/
def unescape : List Char → Option (List Char)
  | [] => some []
  | '\\' :: 'u' :: a :: b :: c :: d :: '\\' :: 'u' :: e :: f :: g :: h :: rest => do
    let unit ← unit? a b c d
    if isHighSurrogate unit then
      let low ← unit? e f g h
      if isLowSurrogate low then
        return Char.ofNat (0x10000 + (unit - 0xD800) * 0x400 + (low - 0xDC00)) :: (← unescape rest)
      else none
    else if isLowSurrogate unit then none
    else return Char.ofNat unit :: (← unescape ('\\' :: 'u' :: e :: f :: g :: h :: rest))
  | '\\' :: 'u' :: a :: b :: c :: d :: rest => do
    let unit ← unit? a b c d
    if isHighSurrogate unit ∨ isLowSurrogate unit then none
    else return Char.ofNat unit :: (← unescape rest)
  | '\\' :: c :: rest => do return (← shortEscape? c) :: (← unescape rest)
  | c :: rest => do return c :: (← unescape rest)

/-- A character as it is written between quotes. -/
def escapeChar (c : Char) : List Char :=
  if c = '"' ∨ c = '\\' then ['\\', c]
  else if c = '\x08' then ['\\', 'b']
  else if c = '\x0c' then ['\\', 'f']
  else if c = '\n' then ['\\', 'n']
  else if c = '\r' then ['\\', 'r']
  else if c = '\t' then ['\\', 't']
  else if c.toNat < 0x20 then '\\' :: 'u' :: (Text.Hex.padded 4 c.toNat).toList
  else [c]

/-- A text as it is written between quotes. -/
def escape (text : List Char) : List Char := text.flatMap escapeChar

end LinkStack.Json
