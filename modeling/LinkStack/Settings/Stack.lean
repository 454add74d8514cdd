import LinkStack.Settings.Document

/-!
The settings of a whole stack, read from a JSON document and written back. What
is read is also checked: the settings of the framing layer first, then those of
the serial line.
-/

namespace LinkStack

structure Settings where
  frame : Frame.Config := {}
  message : Exchange.Config := {}
  udp : Channel.UdpConfig := {}
  serial : Channel.SerialConfig := {}
  deriving DecidableEq, Repr

namespace Settings

inductive Error where
  /-- The file cannot be read as text. -/
  | unreadable
  /-- The text is no document of settings. -/
  | malformed
  | frame (error : Frame.Error)
  | channel (error : Channel.Error)
  deriving DecidableEq, Repr

def fieldNames : List String := ["frame", "message", "udp", "serial"]

def ofJson? (value : Json) : Option Settings := do
  let base : Settings := {}
  match ← value.fields? fieldNames with
  | [frame, message, udp, serial] =>
    return {
      frame := ← Json.field? Frame.Config.ofJson? base.frame frame
      message := ← Json.field? Exchange.Config.ofJson? base.message message
      udp := ← Json.field? Channel.UdpConfig.ofJson? base.udp udp
      serial := ← Json.field? Channel.SerialConfig.ofJson? base.serial serial }
  | _ => none

def toJson (s : Settings) : Json :=
  .ofRecord fieldNames [s.frame.toJson, s.message.toJson, s.udp.toJson, s.serial.toJson]

def validate (s : Settings) : Except Error Unit := do
  s.frame.validate.mapError .frame
  s.serial.validate.mapError .channel

/-- Reads and checks a document. -/
def parse (text : String) : Except Error Settings :=
  match (Json.parse text).bind ofJson? with
  | none => .error .malformed
  | some s => s.validate.map fun _ => s

/-- Reads and checks the contents of a file. -/
def parseFile (contents : Bytes) : Except Error Settings :=
  match String.fromUTF8? (ByteArray.mk contents.toArray) with
  | none => .error .unreadable
  | some text => parse text

/-- The document that holds the settings, indented. -/
def render (s : Settings) : String := String.ofList (s.toJson.pretty 0)

end Settings

end LinkStack
