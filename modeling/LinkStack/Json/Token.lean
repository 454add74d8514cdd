import LinkStack.Json.Escape

/-!
The tokens of a JSON text. Numbers and strings keep their spelling: most values
of a document are never looked at, and of those it is only asked whether they
are spelled correctly.
-/

namespace LinkStack.Json

inductive Token where
  | leftBrace
  | rightBrace
  | leftBracket
  | rightBracket
  | comma
  | colon
  | null
  | bool (value : Bool)
  | number (digits : List Char)
  | string (raw : List Char)
  deriving DecidableEq, Repr

def isBlank (c : Char) : Bool := c = ' ' || c = '\t' || c = '\n' || c = '\r'

/-- Reads a string whose opening quote has been taken off: its spelling, and
what follows the closing quote. -/
def readString : List Char → Option (List Char × List Char)
  | [] => none
  | '"' :: rest => some ([], rest)
  | '\\' :: 'u' :: a :: b :: c :: d :: rest => do
    let _ ← unit? a b c d
    let (raw, rest) ← readString rest
    return ('\\' :: 'u' :: a :: b :: c :: d :: raw, rest)
  | '\\' :: c :: rest => do
    let _ ← shortEscape? c
    let (raw, rest) ← readString rest
    return ('\\' :: c :: raw, rest)
  | c :: rest =>
    if c.toNat < 0x20 ∨ c = '\\' then none
    else (readString rest).map fun (raw, rest) => (c :: raw, rest)

/-- Takes digits off the front of a text, at least one. -/
def readDigits (chars : List Char) : Option (List Char × List Char) :=
  match chars.takeWhile Char.isDigit with
  | [] => none
  | digits => some (digits, chars.dropWhile Char.isDigit)

/-- The whole part of a number: zero, or digits that do not start with one. -/
def readWhole : List Char → Option (List Char × List Char)
  | '0' :: rest => some (['0'], rest)
  | chars => readDigits chars

/-- The fraction of a number, if it has one. -/
def readFraction : List Char → Option (List Char × List Char)
  | '.' :: rest => (readDigits rest).map fun (digits, rest) => ('.' :: digits, rest)
  | chars => some ([], chars)

/-- The digits of an exponent with their sign. -/
def readSigned : List Char → Option (List Char × List Char)
  | '+' :: rest => (readDigits rest).map fun (digits, rest) => ('+' :: digits, rest)
  | '-' :: rest => (readDigits rest).map fun (digits, rest) => ('-' :: digits, rest)
  | chars => readDigits chars

/-- The exponent of a number, if it has one. -/
def readExponent : List Char → Option (List Char × List Char)
  | 'e' :: rest => (readSigned rest).map fun (digits, rest) => ('e' :: digits, rest)
  | 'E' :: rest => (readSigned rest).map fun (digits, rest) => ('E' :: digits, rest)
  | chars => some ([], chars)

/-- Reads a number without its sign. -/
def readMagnitude (chars : List Char) : Option (List Char × List Char) := do
  let (whole, rest) ← readWhole chars
  let (fraction, rest) ← readFraction rest
  let (exponent, rest) ← readExponent rest
  return (whole ++ fraction ++ exponent, rest)

/-- Reads a number. -/
def readNumber : List Char → Option (List Char × List Char)
  | '-' :: rest => (readMagnitude rest).map fun (digits, rest) => ('-' :: digits, rest)
  | chars => readMagnitude chars

/-- Reads the token at the front of a text that starts with no blank. -/
def readToken : List Char → Option (Token × List Char)
  | '\x7b' :: rest => some (.leftBrace, rest)
  | '\x7d' :: rest => some (.rightBrace, rest)
  | '[' :: rest => some (.leftBracket, rest)
  | ']' :: rest => some (.rightBracket, rest)
  | ',' :: rest => some (.comma, rest)
  | ':' :: rest => some (.colon, rest)
  | 'n' :: 'u' :: 'l' :: 'l' :: rest => some (.null, rest)
  | 't' :: 'r' :: 'u' :: 'e' :: rest => some (.bool true, rest)
  | 'f' :: 'a' :: 'l' :: 's' :: 'e' :: rest => some (.bool false, rest)
  | '"' :: rest => (readString rest).map fun (raw, rest) => (.string raw, rest)
  | chars => (readNumber chars).map fun (digits, rest) => (.number digits, rest)

/-- Cuts a text into tokens. Every token has at least one character, so as many
turns as the text has characters, and one for its end, are enough. -/
def readTokens : Nat → List Char → Option (List Token)
  | 0, _ => none
  | turns + 1, chars =>
    match chars.dropWhile isBlank with
    | [] => some []
    | chars => do
      let (token, rest) ← readToken chars
      return token :: (← readTokens turns rest)

/-- The tokens of a text. -/
def tokens? (text : String) : Option (List Token) :=
  readTokens (text.toList.length + 1) text.toList

end LinkStack.Json
