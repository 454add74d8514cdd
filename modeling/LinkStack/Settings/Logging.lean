import LinkStack.Json.Value

/-!
The names of log formats and log levels. A name on a command line may be in any
case, and `warning` stands for `warn`; in a document a name is in lower case.
-/

namespace LinkStack

/-- A text with its ASCII letters in lower case. -/
def asciiLower (text : String) : String := String.ofList (text.toList.map Char.toLower)

inductive LogFormat where
  | text
  | json
  deriving DecidableEq, Repr

namespace LogFormat

/-- The format used unless another one is chosen. -/
def standard : LogFormat := .text

def name : LogFormat → String
  | .text => "text"
  | .json => "json"

def ofName? : String → Option LogFormat
  | "text" => some .text
  | "json" => some .json
  | _ => none

/-- Reads a format, or tells why it cannot. -/
def parse (text : String) : Except String LogFormat :=
  let lower := asciiLower text
  match ofName? lower with
  | some format => .ok format
  | none => .error s!"unknown log format '{lower}' (expected text or json)"

def ofJson? (value : Json) : Option LogFormat := do ofName? (← value.toName?)

end LogFormat

inductive LogLevel where
  | error
  | warn
  | info
  | debug
  | trace
  deriving DecidableEq, Repr

namespace LogLevel

/-- The level used unless another one is chosen. -/
def standard : LogLevel := .warn

def name : LogLevel → String
  | .error => "error"
  | .warn => "warn"
  | .info => "info"
  | .debug => "debug"
  | .trace => "trace"

def ofName? : String → Option LogLevel
  | "error" => some .error
  | "warn" => some .warn
  | "info" => some .info
  | "debug" => some .debug
  | "trace" => some .trace
  | _ => none

/-- Reads a level, or tells why it cannot. -/
def parse (text : String) : Except String LogLevel :=
  let lower := asciiLower text
  match if lower = "warning" then some .warn else ofName? lower with
  | some level => .ok level
  | none => .error s!"unknown log level '{lower}'"

def ofJson? (value : Json) : Option LogLevel := do ofName? (← value.toName?)

end LogLevel

end LinkStack
