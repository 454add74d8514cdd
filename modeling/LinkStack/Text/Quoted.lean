import LinkStack.Text.Hex
import LinkStack.Text.Unprintable

/-!
Quoted text, as messages about texts show it: between double quotes, with a
backslash in front of quotes and backslashes, short names for the common
controls, and the code point for every other character that is not shown as it
is.
-/

namespace LinkStack.Text

/-- One character inside quotes. -/
def quoteChar (c : Char) : List Char :=
  if c = '\x00' then ['\\', '0']
  else if c = '\t' then ['\\', 't']
  else if c = '\r' then ['\\', 'r']
  else if c = '\n' then ['\\', 'n']
  else if c = '"' ∨ c = '\\' then ['\\', c]
  else if isUnprintable c then ['\\', 'u', '\x7b'] ++ Hex.digits c.toNat ++ ['\x7d']
  else [c]

/-- A text between quotes. -/
def quote (s : String) : String := String.ofList ('"' :: s.toList.flatMap quoteChar ++ ['"'])

end LinkStack.Text
