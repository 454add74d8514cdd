import LinkStack.Layer.Error
import LinkStack.Slots
import LinkStack.Text.Quoted

/-!
Why a descriptor, the values of a message or a catalog are refused. Positions
are counted in bytes of the descriptor's text.
-/

namespace LinkStack.Catalog

inductive DescriptorError where
  | unterminated (position : Nat)
  | invalidDirective (position : Nat)
  | invalidFormat (position : Nat) (format : String)
  | sizeMismatch (expected found : Nat)
  | valueCount (expected found : Nat)
  | valueType (field : String)
  | valueRange (field : String)
  deriving DecidableEq, Repr

def DescriptorError.message : DescriptorError → String
  | .unterminated position => s!"unterminated brace at offset {position}"
  | .invalidDirective position => s!"unknown directive at offset {position}"
  | .invalidFormat position format =>
    s!"invalid field format {Text.quote format} at offset {position}"
  | .sizeMismatch expected found =>
    s!"arguments are {found} bytes, descriptor needs {expected}"
  | .valueCount expected found => s!"{found} values given for {expected} fields"
  | .valueType field => s!"value for field {Text.quote field} has the wrong type"
  | .valueRange field => s!"value for field {Text.quote field} does not fit its width"

inductive Error where
  | table (error : SlotsError)
  | descriptor (index : Nat) (error : DescriptorError)
  | tooManyMessages (count max : Nat)
  | missingTerminator
  | misplacedTerminator (index : Nat)
  | misplacedTitle (index : Nat)
  | invalidPriority (priority : Nat)
  | argsTooLarge (index size max : Nat)
  | sizeMismatch (index declared fields : Nat)
  | unknownMessage (number : Nat)
  | layer (error : LayerError)
  deriving DecidableEq, Repr

def Error.message : Error → String
  | .table error => s!"message table: {error.message}"
  | .descriptor index error => s!"message {index}: {error.message}"
  | .tooManyMessages count max => s!"{count} messages exceed the limit of {max}"
  | .missingTerminator => "the last message must be the terminator"
  | .misplacedTerminator index => s!"terminator at message {index} is not last"
  | .misplacedTitle index => s!"title at message {index}; only message 0 may carry one"
  | .invalidPriority priority => s!"priority {priority} out of range"
  | .argsTooLarge index size max => s!"message {index} arguments are {size} bytes, limit is {max}"
  | .sizeMismatch index declared fields =>
    s!"message {index} declares {declared} bytes but its fields take {fields}"
  | .unknownMessage number => s!"no message number {number}"
  | .layer error => error.message

end LinkStack.Catalog
