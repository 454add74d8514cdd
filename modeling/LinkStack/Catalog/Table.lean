import LinkStack.Catalog.Descriptor

/-!
The catalog of a message layer: the messages by number, each with its
descriptor, the size of its arguments, what supplies and takes them, and the
priority at which it is first queued.

A catalog is declared slot by slot and finished once every slot is filled. It
is well formed if every descriptor can be read and fits the declared size, only
message 0 has a title, and the last message, and no other, is the terminator.
Handlers are references of any type; nothing here calls them.
-/

namespace LinkStack.Catalog

/-- The most messages of a catalog. -/
def maxMessages : Nat := 127

/-- The largest arguments of a message. -/
def maxArgsSize : Nat := 64

/-- The largest priority. -/
def maxPriority : Nat := 31

/-- A message as it is declared. -/
structure Declaration (η : Type) where
  descriptor : String
  size : Nat
  handler : Option η
  priority : Nat
  deriving DecidableEq, Repr

/-- A message of a finished catalog. -/
structure Message (η : Type) where
  descriptor : Descriptor
  size : Nat
  handler : Option η
  priority : Nat
  deriving DecidableEq, Repr

/-- A message as it is written out. -/
def Message.describe {η : Type} (m : Message η) : String :=
  "MessageEntry \x7b descriptor: " ++ Text.quote m.descriptor.source ++
    ", size: " ++ toString m.size ++ ", handler: " ++ toString m.handler.isSome ++
    ", priority: " ++ toString m.priority ++ " \x7d"

/-- A catalog under construction. -/
abbrev Draft (η : Type) := Slots (Declaration η)

/-- A finished catalog. -/
structure Table (η : Type) where
  messages : List (Message η)
  deriving DecidableEq, Repr

variable {η : Type}

/-- Reads the descriptor of a declared message and checks the message. -/
def Declaration.check (d : Declaration η) (index : Nat) : Except Error (Message η) := do
  let descriptor ← (Descriptor.parse d.descriptor).mapError (.descriptor index)
  if maxPriority < d.priority then .error (.invalidPriority d.priority)
  else if maxArgsSize < d.size then .error (.argsTooLarge index d.size maxArgsSize)
  else if descriptor.hasFields ∧ descriptor.argsSize ≠ d.size then
    .error (.sizeMismatch index d.size descriptor.argsSize)
  else if index ≠ 0 ∧ descriptor.title.isSome then .error (.misplacedTitle index)
  else .ok { descriptor, size := d.size, handler := d.handler, priority := d.priority }

/-- Checks messages from a number on, and stops at the first that fails. -/
def checkAll : Nat → List (Declaration η) → Except Error (List (Message η))
  | _, [] => .ok []
  | index, d :: rest => do
    let message ← d.check index
    return message :: (← checkAll (index + 1) rest)

/-- Refuses messages of which the last one, and no other, is not the
terminator. -/
def checkTerminator (messages : List (Message η)) : Except Error Unit :=
  match messages.findIdx? (·.descriptor.isTerminator) with
  | none => .error .missingTerminator
  | some index =>
    if index + 1 = messages.length then .ok () else .error (.misplacedTerminator index)

/-- The finished catalog. -/
def Draft.finish (d : Draft η) : Except Error (Table η) := do
  let declared ← (Slots.finish d).mapError .table
  if maxMessages < declared.length then .error (.tooManyMessages declared.length maxMessages)
  let messages ← checkAll 0 declared
  checkTerminator messages
  return { messages }

namespace Table

def size (t : Table η) : Nat := t.messages.length

def get? (t : Table η) (number : Nat) : Option (Message η) := t.messages[number]?

/-- The number of the last message. -/
def terminator (t : Table η) : Nat := t.size - 1

/-- The first message with a given handler. -/
def findHandler [DecidableEq η] (t : Table η) (handler : η) : Option Nat :=
  t.messages.findIdx? (·.handler = some handler)

end Table

end LinkStack.Catalog
