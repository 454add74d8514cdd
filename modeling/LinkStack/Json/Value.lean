import LinkStack.Json.Token

/-!
JSON values: reading a document, and writing one on a line or indented.

A value keeps the order and the repetitions of object members, and the spelling
of strings and numbers; the accessors at the end give them a meaning.
-/

namespace LinkStack

inductive Json where
  | null
  | bool (value : Bool)
  | number (digits : List Char)
  | string (raw : List Char)
  | array (items : List Json)
  | object (members : List (List Char × Json))
  deriving Repr

namespace Json

mutual

/-- Reads a value from the front of tokens. -/
def readValue : Nat → List Token → Option (Json × List Token)
  | 0, _ => none
  | depth + 1, tokens =>
    match tokens with
    | .null :: rest => some (.null, rest)
    | .bool value :: rest => some (.bool value, rest)
    | .number digits :: rest => some (.number digits, rest)
    | .string raw :: rest => some (.string raw, rest)
    | .leftBracket :: .rightBracket :: rest => some (.array [], rest)
    | .leftBracket :: rest =>
      (readItems depth rest).map fun (items, rest) => (.array items, rest)
    | .leftBrace :: .rightBrace :: rest => some (.object [], rest)
    | .leftBrace :: rest =>
      (readMembers depth rest).map fun (members, rest) => (.object members, rest)
    | _ => none

/-- Reads the items of an array, at least one, and its closing bracket. -/
def readItems : Nat → List Token → Option (List Json × List Token)
  | 0, _ => none
  | depth + 1, tokens =>
    match readValue depth tokens with
    | some (item, .rightBracket :: rest) => some ([item], rest)
    | some (item, .comma :: rest) =>
      (readItems depth rest).map fun (items, rest) => (item :: items, rest)
    | _ => none

/-- Reads the members of an object, at least one, and its closing brace. -/
def readMembers : Nat → List Token → Option (List (List Char × Json) × List Token)
  | 0, _ => none
  | depth + 1, tokens =>
    match tokens with
    | .string key :: .colon :: rest =>
      match readValue depth rest with
      | some (value, .rightBrace :: rest) => some ([(key, value)], rest)
      | some (value, .comma :: rest) =>
        (readMembers depth rest).map fun (members, rest) => ((key, value) :: members, rest)
      | _ => none
    | _ => none

end

/-- Reads a document. A value has at least one token, so the number of tokens
bounds the depth of the reading. -/
def parse (text : String) : Option Json := do
  let tokens ← tokens? text
  match readValue (2 * tokens.length) tokens with
  | some (value, []) => some value
  | _ => none

/-- A string with its quotes. -/
def quoted (raw : List Char) : List Char := '"' :: raw ++ ['"']

/-- Texts with a separator between them. -/
def separated (separator : List Char) : List (List Char) → List Char
  | [] => []
  | [text] => text
  | text :: rest => text ++ separator ++ separated separator rest

mutual

/-- A value on one line, without blanks. -/
def compact : Json → List Char
  | .null => "null".toList
  | .bool value => (if value then "true" else "false").toList
  | .number digits => digits
  | .string raw => quoted raw
  | .array items => '[' :: separated [','] (compactItems items) ++ [']']
  | .object members => '\x7b' :: separated [','] (compactMembers members) ++ ['\x7d']

def compactItems : List Json → List (List Char)
  | [] => []
  | item :: rest => compact item :: compactItems rest

def compactMembers : List (List Char × Json) → List (List Char)
  | [] => []
  | (key, value) :: rest => (quoted key ++ ':' :: compact value) :: compactMembers rest

end

/-- The start of a line at a depth: two blanks a level. -/
def newline (depth : Nat) : List Char := '\n' :: List.replicate (2 * depth) ' '

/-- Brackets around texts, each on a line of its own one level deeper. -/
def indented (opening closing : Char) (depth : Nat) (texts : List (List Char)) : List Char :=
  match texts with
  | [] => [opening, closing]
  | texts =>
    opening :: newline (depth + 1) ++ separated (',' :: newline (depth + 1)) texts ++
      newline depth ++ [closing]

mutual

/-- A value over several lines, its own lines at a depth. -/
def pretty (depth : Nat) : Json → List Char
  | .null => "null".toList
  | .bool value => (if value then "true" else "false").toList
  | .number digits => digits
  | .string raw => quoted raw
  | .array items => indented '[' ']' depth (prettyItems (depth + 1) items)
  | .object members => indented '\x7b' '\x7d' depth (prettyMembers (depth + 1) members)

def prettyItems (depth : Nat) : List Json → List (List Char)
  | [] => []
  | item :: rest => pretty depth item :: prettyItems depth rest

def prettyMembers (depth : Nat) : List (List Char × Json) → List (List Char)
  | [] => []
  | (key, value) :: rest =>
    (quoted key ++ ':' :: ' ' :: pretty depth value) :: prettyMembers depth rest

end

/-- A whole number. -/
def ofNat (n : Nat) : Json := .number (Nat.toDigits 10 n)

/-- A text. -/
def ofString (text : String) : Json := .string (escape text.toList)

/-- An object with members under given names. -/
def ofMembers (members : List (String × Json)) : Json :=
  .object (members.map fun (name, value) => (escape name.toList, value))

/-- An object with the given values under their names. -/
def ofRecord (names : List String) (values : List Json) : Json := ofMembers (names.zip values)

/-- The text of a string. -/
def toText? : Json → Option String
  | .string raw => (unescape raw).map String.ofList
  | _ => none

def toBool? : Json → Option Bool
  | .bool value => some value
  | _ => none

/-- The value of a whole number that is spelled with digits alone and is at
most the given one. -/
def toNat? (max : Nat) : Json → Option Nat
  | .number digits =>
    if digits.all Char.isDigit then
      let n := digits.foldl (fun n d => 10 * n + (d.toNat - '0'.toNat)) 0
      if n ≤ max then some n else none
    else none
  | _ => none

def toUInt8? (value : Json) : Option UInt8 := (value.toNat? 255).map UInt8.ofNat

def toUInt32? (value : Json) : Option UInt32 := (value.toNat? (UInt32.size - 1)).map UInt32.ofNat

/-- The value of a number of up to 64 bits. -/
def toSize? (value : Json) : Option Nat := value.toNat? (UInt64.size - 1)

/-- The name in a string, or in an object whose only member has that name and
holds nothing: the two spellings of a choice between names. -/
def toName? : Json → Option String
  | .object [(name, .null)] => (unescape name).map String.ofList
  | value => value.toText?

/-- The member of a given name. Two members of that name are refused. -/
def member? (name : String) : List (String × Json) → Option (Option Json)
  | [] => some none
  | (key, value) :: rest =>
    if key = name then
      if rest.any (·.1 = name) then none else some (some value)
    else member? name rest

/-- The fields of a record, in the order of their names, from an object or from
an array that gives them in that order. Members of other names are ignored;
fields that are not given are left out. -/
def fields? (names : List String) : Json → Option (List (Option Json))
  | .object members => do
    let members ← members.mapM fun (key, value) =>
      (unescape key).map fun key => (String.ofList key, value)
    names.mapM fun name => member? name members
  | .array items =>
    if items.length ≤ names.length then
      some (items.map some ++ List.replicate (names.length - items.length) none)
    else none
  | _ => none

/-- A field that is read if it is given and has a default otherwise. -/
def field? {α : Type} (read : Json → Option α) (default : α) : Option Json → Option α
  | none => some default
  | some value => read value

end Json

end LinkStack
