import LinkStack.Catalog.Field

/-!
Message descriptors: a text that tells what a message is about and how its
arguments are laid out.

Outside of directives and braces a descriptor is plain text. `%%` is a percent
sign, `%!` marks the last message of a catalog, and `%T`, a number and a group
in braces is the title of the catalog with its version. A group in braces is
plain text too, unless `=` and a second group follow: then the first group is a
name, and the second one the format of a binary field if it starts with a
percent sign, and otherwise a constant. A name may carry a marker in front.

The text is cut into pieces, each a stretch of plain text or one token, and
neighbouring stretches are joined. The text itself is what goes over the wire.
-/

namespace LinkStack.Catalog

/-- The marker in front of a name: a colon or a number sign. -/
inductive Marker where
  | parameter
  | constant
  deriving DecidableEq, Repr

inductive Token where
  | literal (text : String)
  | title (version : Nat) (text : String)
  | terminator
  | field (name : String) (marker : Option Marker) (format : FieldFormat)
  | constant (name : String) (marker : Option Marker) (value : String)
  deriving DecidableEq, Repr

/-- A stretch of plain text, or a token of another kind. -/
inductive Piece where
  | text (chars : List Char)
  | token (token : Token)
  deriving DecidableEq, Repr

/-- What is wrong with a descriptor. -/
inductive Fault where
  | unterminated
  | directive
  | format (spelling : String)
  deriving DecidableEq, Repr

/-- A fault, and the text from there on. -/
structure FaultAt where
  rest : List Char
  fault : Fault
  deriving DecidableEq, Repr

/-- Reads a group whose opening brace has been taken off: its text, and what
follows the closing brace. -/
def readGroup (chars : List Char) : Except FaultAt (List Char × List Char) :=
  match chars.dropWhile (· ≠ '\x7d') with
  | [] => .error ⟨'\x7b' :: chars, .unterminated⟩
  | _ :: rest => .ok (chars.takeWhile (· ≠ '\x7d'), rest)

/-- The largest version of a title. -/
def maxVersion : Nat := UInt32.size - 1

/-- The number that decimal digits spell, if there are any and it is not too
large for a version. -/
def readVersion (digits : List Char) : Option Nat :=
  let n := digits.foldl (fun n d => 10 * n + (d.toNat - '0'.toNat)) 0
  if digits ≠ [] ∧ n ≤ maxVersion then some n else none

/-- Reads a directive whose percent sign has been taken off. -/
def readDirective : List Char → Except FaultAt (Piece × List Char)
  | '%' :: rest => .ok (.text ['%'], rest)
  | '!' :: rest => .ok (.token .terminator, rest)
  | 'T' :: rest =>
    match readVersion (rest.takeWhile Char.isDigit), rest.dropWhile Char.isDigit with
    | some version, '\x7b' :: group =>
      (readGroup group).map fun (text, rest) =>
        (.token (.title version (String.ofList text)), rest)
    | _, _ => .error ⟨'%' :: 'T' :: rest, .directive⟩
  | rest => .error ⟨'%' :: rest, .directive⟩

/-- Takes the marker off a name. -/
def splitMarker : List Char → Option Marker × List Char
  | ':' :: name => (some .parameter, name)
  | '#' :: name => (some .constant, name)
  | name => (none, name)

/-- The token of a name and a value, if the value is not a malformed format. -/
def assignment? (name value : List Char) : Option Token :=
  let (marker, name) := splitMarker name
  let name := String.ofList name
  match value with
  | '%' :: format => (FieldFormat.ofChars? format).map (.field name marker)
  | _ => some (.constant name marker (String.ofList value))

/-- Reads what starts with an opening brace that has been taken off. -/
def readBraces (chars : List Char) : Except FaultAt (Piece × List Char) := do
  let (name, rest) ← readGroup chars
  match rest with
  | '=' :: '\x7b' :: group =>
    let (value, rest) ← readGroup group
    match assignment? name value with
    | some token => return (.token token, rest)
    | none => throw ⟨group, .format (String.ofList value)⟩
  | _ => return (.text ('\x7b' :: name ++ ['\x7d']), rest)

/-- Reads one piece from the front of a text that starts with the given
character. -/
def readPiece (c : Char) (rest : List Char) : Except FaultAt (Piece × List Char) :=
  if c = '%' then readDirective rest
  else if c = '\x7b' then readBraces rest
  else .ok (.text [c], rest)

theorem length_readGroup {chars text rest : List Char}
    (h : readGroup chars = .ok (text, rest)) : rest.length < chars.length := by
  unfold readGroup at h
  have hle := (List.dropWhile_suffix (fun c => decide (c ≠ '\x7d')) (l := chars)).length_le
  split at h
  · simp at h
  · rename_i heq
    simp only [Except.ok.injEq, Prod.mk.injEq] at h
    rw [heq, List.length_cons, h.2] at hle
    omega

theorem length_readDirective {chars rest : List Char} {piece : Piece}
    (h : readDirective chars = .ok (piece, rest)) : rest.length ≤ chars.length := by
  unfold readDirective at h
  split at h
  · grind
  · grind
  · rename_i tail
    split at h
    · rename_i group hversion heq
      have hle := (List.dropWhile_suffix Char.isDigit (l := tail)).length_le
      rw [heq, List.length_cons] at hle
      cases hg : readGroup group with
      | error e => simp [hg, Except.map] at h
      | ok pair =>
        have hlt := length_readGroup hg
        simp only [hg, Except.map, Except.ok.injEq, Prod.mk.injEq] at h
        simp only [List.length_cons]
        rw [← h.2]
        omega
    · simp at h
  · simp at h

theorem length_readBraces {chars rest : List Char} {piece : Piece}
    (h : readBraces chars = .ok (piece, rest)) : rest.length ≤ chars.length := by
  unfold readBraces at h
  cases hn : readGroup chars with
  | error e => simp [hn, bind, Except.bind] at h
  | ok pair =>
    obtain ⟨name, tail⟩ := pair
    have hlt := length_readGroup hn
    simp only [hn, bind, Except.bind] at h
    split at h
    · rename_i group
      cases hv : readGroup group with
      | error e => simp [hv] at h
      | ok pair =>
        have hlt' := length_readGroup hv
        simp only [hv] at h
        simp only [List.length_cons] at hlt
        split at h
        · simp only [pure, Except.pure, Except.ok.injEq, Prod.mk.injEq] at h
          rw [← h.2]
          omega
        · simp [throw, throwThe, MonadExceptOf.throw] at h
    · simp only [pure, Except.pure, Except.ok.injEq, Prod.mk.injEq] at h
      rw [← h.2]
      omega

theorem length_readPiece {c : Char} {chars rest : List Char} {piece : Piece}
    (h : readPiece c chars = .ok (piece, rest)) : rest.length < (c :: chars).length := by
  unfold readPiece at h
  rw [List.length_cons]
  split at h
  · have := length_readDirective h
    omega
  · split at h
    · have := length_readBraces h
      omega
    · simp only [Except.ok.injEq, Prod.mk.injEq] at h
      rw [← h.2]
      omega

/-- Cuts a text into pieces. -/
def readPieces : List Char → Except FaultAt (List Piece)
  | [] => .ok []
  | c :: chars =>
    match _h : readPiece c chars with
    | .error fault => .error fault
    | .ok (piece, rest) => (readPieces rest).map (piece :: ·)
termination_by chars => chars.length
decreasing_by exact length_readPiece _h

/-- The number of bytes of a text. -/
def byteCount (chars : List Char) : Nat := chars.foldr (fun c count => c.utf8Size + count) 0

/-- The error of a fault in a text. -/
def FaultAt.error (chars : List Char) (f : FaultAt) : DescriptorError :=
  let position := byteCount chars - byteCount f.rest
  match f.fault with
  | .unterminated => .unterminated position
  | .directive => .invalidDirective position
  | .format spelling => .invalidFormat position spelling

/-- Puts a piece in front of joined ones, and joins plain text with plain
text. -/
def Piece.join : Piece → List Piece → List Piece
  | .text first, .text second :: rest => .text (first ++ second) :: rest
  | piece, rest => piece :: rest

def Piece.toToken : Piece → Token
  | .text chars => .literal (String.ofList chars)
  | .token t => t

/-- A descriptor that has been read. -/
structure Descriptor where
  source : String
  tokens : List Token
  deriving DecidableEq, Repr

namespace Descriptor

def parse (source : String) : Except DescriptorError Descriptor :=
  match readPieces source.toList with
  | .error fault => .error (fault.error source.toList)
  | .ok pieces => .ok { source, tokens := (pieces.foldr Piece.join []).map Piece.toToken }

/-- The binary fields with their names, in order. -/
def fields (d : Descriptor) : List (String × FieldFormat) :=
  d.tokens.filterMap fun
    | .field name _ format => some (name, format)
    | _ => none

/-- The number of bytes of the binary fields. -/
def argsSize (d : Descriptor) : Nat :=
  d.fields.foldr (fun (_, format) size => format.width.bytes + size) 0

def hasFields (d : Descriptor) : Bool := !d.fields.isEmpty

/-- The first title with its version. -/
def title (d : Descriptor) : Option (Nat × String) :=
  d.tokens.findSome? fun
    | .title version text => some (version, text)
    | _ => none

def isTerminator (d : Descriptor) : Bool := d.tokens.contains .terminator

def toUTF8 (d : Descriptor) : Bytes := d.source.toUTF8.toList

/-- Refuses arguments of the wrong size. -/
def checkSize (d : Descriptor) (args : Bytes) : Except DescriptorError Unit :=
  if args.length = d.argsSize then .ok () else .error (.sizeMismatch d.argsSize args.length)

/-- Reads the values of fields from the front of a byte string. -/
def readFields : List (String × FieldFormat) → Bytes → List Value
  | [], _ => []
  | (_, format) :: rest, args =>
    format.read (args.take format.width.bytes) :: readFields rest (args.drop format.width.bytes)

/-- The values of the fields in argument bytes. -/
def decode (d : Descriptor) (args : Bytes) : Except DescriptorError (List Value) :=
  (d.checkSize args).map fun _ => readFields d.fields args

/-- Packs values into the bytes of fields. -/
def packFields : List (String × FieldFormat) → List Value → Except DescriptorError Bytes
  | (name, format) :: fields, value :: values => do
    let raw ← format.raw name value
    return format.pack raw ++ (← packFields fields values)
  | _, _ => .ok []

/-- The argument bytes that hold values, of which there must be one a field. -/
def encode (d : Descriptor) (values : List Value) : Except DescriptorError Bytes :=
  if d.fields.length = values.length then packFields d.fields values
  else .error (.valueCount d.fields.length values.length)

/-- The text of tokens, with the fields filled in from a byte string. -/
def renderTokens : List Token → Bytes → List String
  | [], _ => []
  | .literal text :: rest, args => text :: renderTokens rest args
  | .title _ text :: rest, args => text :: renderTokens rest args
  | .terminator :: rest, args => renderTokens rest args
  | .constant name _ value :: rest, args => (name ++ "=" ++ value) :: renderTokens rest args
  | .field name _ format :: rest, args =>
    (name ++ "=" ++ format.render (format.read (args.take format.width.bytes))) ::
      renderTokens rest (args.drop format.width.bytes)

/-- The descriptor as text, with the fields filled in from argument bytes. -/
def render (d : Descriptor) (args : Bytes) : Except DescriptorError String :=
  (d.checkSize args).map fun _ => String.join (renderTokens d.tokens args)

end Descriptor

end LinkStack.Catalog
