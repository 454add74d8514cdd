import LinkStack.Channel.Serial
import LinkStack.Channel.Udp
import LinkStack.Exchange.Messenger
import LinkStack.Frame.Framer
import LinkStack.Json.Value

/-!
How settings and counters are written as JSON.

A record is an object whose members may come in any order and may be left out,
in which case they have their defaults; members of other names are ignored. It
may also be an array of its values in order, from which values at the end may
be left out. Numbers are whole and within their range, and choices are names in
lower case.
-/

namespace LinkStack

namespace Frame

def Mode.ofJson? (value : Json) : Option Mode :=
  match value.toName? with
  | some "short" => some .short
  | some "compact" => some .compact
  | _ => none

def Mode.toJson : Mode → Json
  | .short => .ofString "short"
  | .compact => .ofString "compact"

namespace Config

def fieldNames : List String :=
  ["mode", "delimiter", "max_size", "rx_timeout", "ack_timeout", "max_retries"]

def ofJson? (value : Json) : Option Config := do
  let base : Config := {}
  match ← value.fields? fieldNames with
  | [mode, delimiter, maxSize, rxTimeout, ackTimeout, maxRetries] =>
    return {
      mode := ← Json.field? Mode.ofJson? base.mode mode
      delimiter := ← Json.field? Json.toUInt8? base.delimiter delimiter
      maxSize := ← Json.field? Json.toSize? base.maxSize maxSize
      rxTimeout := ← Json.field? Json.toUInt32? base.rxTimeout rxTimeout
      ackTimeout := ← Json.field? Json.toUInt32? base.ackTimeout ackTimeout
      maxRetries := ← Json.field? Json.toUInt8? base.maxRetries maxRetries }
  | _ => none

def toJson (c : Config) : Json :=
  .ofRecord fieldNames [c.mode.toJson, .ofNat c.delimiter.toNat, .ofNat c.maxSize,
    .ofNat c.rxTimeout.toNat, .ofNat c.ackTimeout.toNat, .ofNat c.maxRetries.toNat]

end Config

end Frame

namespace Exchange.Config

def fieldNames : List String := ["verbose", "query_timeout", "query_retries", "confirm_queries"]

def ofJson? (value : Json) : Option Config := do
  let base : Config := {}
  match ← value.fields? fieldNames with
  | [verbose, queryTimeout, queryRetries, confirmQueries] =>
    return {
      verbose := ← Json.field? Json.toBool? base.verbose verbose
      queryTimeout := ← Json.field? Json.toUInt32? base.queryTimeout queryTimeout
      queryRetries := ← Json.field? Json.toUInt8? base.queryRetries queryRetries
      confirmQueries := ← Json.field? Json.toBool? base.confirmQueries confirmQueries }
  | _ => none

def toJson (c : Config) : Json :=
  .ofRecord fieldNames [.bool c.verbose, .ofNat c.queryTimeout.toNat,
    .ofNat c.queryRetries.toNat, .bool c.confirmQueries]

end Exchange.Config

namespace Channel

def SocketAddress.ofJson? (value : Json) : Option SocketAddress := do parse (← value.toText?)

namespace UdpConfig

def fieldNames : List String :=
  ["bind", "max_clients", "client_timeout_ms", "max_packet", "broadcast"]

def ofJson? (value : Json) : Option UdpConfig := do
  let base : UdpConfig := {}
  match ← value.fields? fieldNames with
  | [bind, maxClients, clientTimeout, maxPacket, broadcast] =>
    return {
      bind := ← Json.field? SocketAddress.ofJson? base.bind bind
      maxClients := ← Json.field? Json.toSize? base.maxClients maxClients
      clientTimeout := ← Json.field? Json.toSize? base.clientTimeout clientTimeout
      maxPacket := ← Json.field? Json.toSize? base.maxPacket maxPacket
      broadcast := ← Json.field? Json.toBool? base.broadcast broadcast }
  | _ => none

def toJson (c : UdpConfig) : Json :=
  .ofRecord fieldNames [.ofString c.bind.render, .ofNat c.maxClients, .ofNat c.clientTimeout,
    .ofNat c.maxPacket, .bool c.broadcast]

end UdpConfig

def Parity.ofJson? (value : Json) : Option Parity :=
  match value.toName? with
  | some "none" => some .none
  | some "odd" => some .odd
  | some "even" => some .even
  | _ => Option.none

def Parity.toJson : Parity → Json
  | .none => .ofString "none"
  | .odd => .ofString "odd"
  | .even => .ofString "even"

def FlowControl.ofJson? (value : Json) : Option FlowControl :=
  match value.toName? with
  | some "none" => some .none
  | some "software" => some .software
  | some "hardware" => some .hardware
  | _ => Option.none

def FlowControl.toJson : FlowControl → Json
  | .none => .ofString "none"
  | .software => .ofString "software"
  | .hardware => .ofString "hardware"

namespace SerialConfig

def fieldNames : List String :=
  ["baud_rate", "data_bits", "stop_bits", "parity", "flow_control", "write_timeout_ms"]

def ofJson? (value : Json) : Option SerialConfig := do
  let base : SerialConfig := {}
  match ← value.fields? fieldNames with
  | [baudRate, dataBits, stopBits, parity, flowControl, writeTimeout] =>
    return {
      baudRate := ← Json.field? (Json.toNat? (UInt32.size - 1)) base.baudRate baudRate
      dataBits := ← Json.field? (Json.toNat? 255) base.dataBits dataBits
      stopBits := ← Json.field? (Json.toNat? 255) base.stopBits stopBits
      parity := ← Json.field? Parity.ofJson? base.parity parity
      flowControl := ← Json.field? FlowControl.ofJson? base.flowControl flowControl
      writeTimeout := ← Json.field? Json.toSize? base.writeTimeout writeTimeout }
  | _ => none

def toJson (c : SerialConfig) : Json :=
  .ofRecord fieldNames [.ofNat c.baudRate, .ofNat c.dataBits, .ofNat c.stopBits,
    c.parity.toJson, c.flowControl.toJson, .ofNat c.writeTimeout]

end SerialConfig

end Channel

namespace Stats

def fieldNames : List String :=
  ["rx_packets", "rx_counter", "rx_errors", "rx_retries", "rx_dropped", "tx_packets",
    "tx_counter", "tx_dropped", "tx_retries"]

/-- Reads counters, all of which have to be given. -/
def ofJson? (value : Json) : Option Stats := do
  let fields ← (← value.fields? fieldNames).mapM id
  ofList? (← fields.mapM Json.toUInt32?)

def toJson (s : Stats) : Json := .ofRecord fieldNames (s.toList.map fun n => .ofNat n.toNat)

end Stats

end LinkStack
