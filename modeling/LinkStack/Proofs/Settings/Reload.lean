import LinkStack.Settings.Stack
import LinkStack.Proofs.Channel.Address
import LinkStack.Proofs.Json.Record

/-!
Settings that were read are written as a document that reads as the same
settings.

Every record is written with all its fields, and each reads back on its own. A
number does so if it is within the range of its field (`Fits`), which settings
that were read themselves always are.
-/

namespace LinkStack

open Json (fields?_ofRecord field?_induction field?_toSize?_lt field?_toNat?_le toSize?_ofNat
  toNat?_ofNat plain_ofNat plain_ofString plain_ofRecord)

/-! ### The framing layer -/

namespace Frame

@[simp] theorem Mode.ofJson?_toJson (mode : Mode) : Mode.ofJson? mode.toJson = some mode := by
  cases mode <;> simp [Mode.ofJson?, Mode.toJson]

namespace Config

/-- The numbers of the settings are within the ranges of their fields. -/
structure Fits (c : Config) : Prop where
  maxSize : c.maxSize < UInt64.size

theorem plain_toJson (c : Config) : c.toJson.Plain := by
  refine plain_ofRecord ?_
  cases c.mode <;> simp [Mode.toJson, plain_ofNat, plain_ofString]

theorem ofJson?_toJson {c : Config} (h : c.Fits) : ofJson? c.toJson = some c := by
  rw [ofJson?, toJson, fields?_ofRecord]
  · simp [Json.field?, toSize?_ofNat h.maxSize]
  · decide
  · rfl

theorem fits_of_ofJson? {value : Json} {c : Config} (h : ofJson? value = some c) : c.Fits := by
  obtain ⟨fields, -, h⟩ := Option.bind_eq_some_iff.mp h
  split at h
  · simp only [Option.bind_eq_bind, Option.bind_eq_some_iff, pure, Option.some.injEq] at h
    obtain ⟨_, -, _, -, maxSize, hmaxSize, _, -, _, -, _, -, rfl⟩ := h
    exact ⟨field?_toSize?_lt hmaxSize (by decide)⟩
  · cases h

end Config

end Frame

/-! ### The message layer -/

namespace Exchange.Config

theorem plain_toJson (c : Config) : c.toJson.Plain := by
  refine plain_ofRecord ?_
  simp [plain_ofNat, Json.Plain.bool]

theorem ofJson?_toJson (c : Config) : ofJson? c.toJson = some c := by
  rw [ofJson?, toJson, fields?_ofRecord]
  · simp [Json.field?]
  · decide
  · rfl

end Exchange.Config

namespace Channel

/-! ### The datagram channel -/

@[simp] theorem SocketAddress.ofJson?_render (address : SocketAddress) :
    SocketAddress.ofJson? (.ofString address.render) = some address := by
  simp [SocketAddress.ofJson?, SocketAddress.parse_render]

namespace UdpConfig

/-- The numbers of the settings are within the ranges of their fields. -/
structure Fits (c : UdpConfig) : Prop where
  maxClients : c.maxClients < UInt64.size
  clientTimeout : c.clientTimeout < UInt64.size
  maxPacket : c.maxPacket < UInt64.size

theorem plain_toJson (c : UdpConfig) : c.toJson.Plain := by
  refine plain_ofRecord ?_
  simp [plain_ofNat, plain_ofString, Json.Plain.bool]

theorem ofJson?_toJson {c : UdpConfig} (h : c.Fits) : ofJson? c.toJson = some c := by
  rw [ofJson?, toJson, fields?_ofRecord]
  · simp [Json.field?, toSize?_ofNat h.maxClients, toSize?_ofNat h.clientTimeout,
      toSize?_ofNat h.maxPacket]
  · decide
  · rfl

theorem fits_of_ofJson? {value : Json} {c : UdpConfig} (h : ofJson? value = some c) : c.Fits := by
  obtain ⟨fields, -, h⟩ := Option.bind_eq_some_iff.mp h
  split at h
  · simp only [Option.bind_eq_bind, Option.bind_eq_some_iff, pure, Option.some.injEq] at h
    obtain ⟨_, -, maxClients, hmaxClients, clientTimeout, hclientTimeout, maxPacket, hmaxPacket,
      _, -, rfl⟩ := h
    exact ⟨field?_toSize?_lt hmaxClients (by decide), field?_toSize?_lt hclientTimeout (by decide),
      field?_toSize?_lt hmaxPacket (by decide)⟩
  · cases h

end UdpConfig

/-! ### The serial line -/

@[simp] theorem Parity.ofJson?_toJson (parity : Parity) :
    Parity.ofJson? parity.toJson = some parity := by
  cases parity <;> simp [Parity.ofJson?, Parity.toJson]

@[simp] theorem FlowControl.ofJson?_toJson (flow : FlowControl) :
    FlowControl.ofJson? flow.toJson = some flow := by
  cases flow <;> simp [FlowControl.ofJson?, FlowControl.toJson]

namespace SerialConfig

/-- The numbers of the settings are within the ranges of their fields. -/
structure Fits (c : SerialConfig) : Prop where
  baudRate : c.baudRate ≤ UInt32.size - 1
  dataBits : c.dataBits ≤ 255
  stopBits : c.stopBits ≤ 255
  writeTimeout : c.writeTimeout < UInt64.size

theorem plain_toJson (c : SerialConfig) : c.toJson.Plain := by
  refine plain_ofRecord ?_
  cases c.parity <;> cases c.flowControl <;>
    simp [Parity.toJson, FlowControl.toJson, plain_ofNat, plain_ofString]

theorem ofJson?_toJson {c : SerialConfig} (h : c.Fits) : ofJson? c.toJson = some c := by
  have hbaudRate : (Json.ofNat c.baudRate).toNat? 4294967295 = some c.baudRate :=
    toNat?_ofNat h.baudRate
  rw [ofJson?, toJson, fields?_ofRecord]
  · simp [Json.field?, hbaudRate, toNat?_ofNat h.dataBits, toNat?_ofNat h.stopBits,
      toSize?_ofNat h.writeTimeout]
  · decide
  · rfl

theorem fits_of_ofJson? {value : Json} {c : SerialConfig} (h : ofJson? value = some c) :
    c.Fits := by
  obtain ⟨fields, -, h⟩ := Option.bind_eq_some_iff.mp h
  split at h
  · simp only [Option.bind_eq_bind, Option.bind_eq_some_iff, pure, Option.some.injEq] at h
    obtain ⟨baudRate, hbaudRate, dataBits, hdataBits, stopBits, hstopBits, _, -, _, -,
      writeTimeout, hwriteTimeout, rfl⟩ := h
    exact ⟨field?_toNat?_le hbaudRate (by decide), field?_toNat?_le hdataBits (by decide),
      field?_toNat?_le hstopBits (by decide), field?_toSize?_lt hwriteTimeout (by decide)⟩
  · cases h

end SerialConfig

end Channel

/-! ### The whole stack -/

namespace Settings

/-- The numbers of the settings are within the ranges of their fields. -/
structure Fits (s : Settings) : Prop where
  frame : s.frame.Fits
  udp : s.udp.Fits
  serial : s.serial.Fits

theorem plain_toJson (s : Settings) : s.toJson.Plain := by
  refine plain_ofRecord ?_
  simp [Frame.Config.plain_toJson, Exchange.Config.plain_toJson, Channel.UdpConfig.plain_toJson,
    Channel.SerialConfig.plain_toJson]

theorem ofJson?_toJson {s : Settings} (h : s.Fits) : ofJson? s.toJson = some s := by
  rw [ofJson?, toJson, fields?_ofRecord]
  · simp [Json.field?, Frame.Config.ofJson?_toJson h.frame, Exchange.Config.ofJson?_toJson,
      Channel.UdpConfig.ofJson?_toJson h.udp, Channel.SerialConfig.ofJson?_toJson h.serial]
  · decide
  · rfl

theorem fits_of_ofJson? {value : Json} {s : Settings} (h : ofJson? value = some s) : s.Fits := by
  obtain ⟨fields, -, h⟩ := Option.bind_eq_some_iff.mp h
  split at h
  · simp only [Option.bind_eq_bind, Option.bind_eq_some_iff, pure, Option.some.injEq] at h
    obtain ⟨frame, hframe, _, -, udp, hudp, serial, hserial, rfl⟩ := h
    -- a part that is missing has its default
    have hdefault : Fits {} :=
      ⟨⟨by decide⟩, ⟨by decide, by decide, by decide⟩,
        ⟨by decide, by decide, by decide, by decide⟩⟩
    exact ⟨field?_induction hframe hdefault.frame fun _ _ => Frame.Config.fits_of_ofJson?,
      field?_induction hudp hdefault.udp fun _ _ => Channel.UdpConfig.fits_of_ofJson?,
      field?_induction hserial hdefault.serial fun _ _ => Channel.SerialConfig.fits_of_ofJson?⟩
  · cases h

/-- What is read fits and is valid. -/
theorem parse_eq_ok {text : String} {s : Settings} (h : parse text = .ok s) :
    s.Fits ∧ s.validate = .ok () := by
  unfold parse at h
  split at h
  · cases h
  · rename_i read hread
    obtain ⟨value, -, hvalue⟩ := Option.bind_eq_some_iff.mp hread
    cases hvalid : read.validate with
    | error e => simp [hvalid, Except.map] at h
    | ok u =>
      rw [hvalid] at h
      cases h
      exact ⟨fits_of_ofJson? hvalue, hvalid⟩

/-- Settings that fit and are valid are read from the document that holds
them. -/
theorem parse_render {s : Settings} (hfits : s.Fits) (hvalid : s.validate = .ok ()) :
    parse s.render = .ok s := by
  have hread : (Json.parse s.render).bind ofJson? = some s := by
    rw [render, Json.parse_pretty s.plain_toJson, Option.bind_some, ofJson?_toJson hfits]
  simp only [parse, hread, hvalid]
  rfl

/-- The document that is written for settings that were read reads as the same
settings, so such documents tell settings apart. -/
theorem parse_render_of_parse {text : String} {s : Settings} (h : parse text = .ok s) :
    parse s.render = .ok s ∧
      ∀ (text' : String) (s' : Settings), parse text' = .ok s' →
        (s = s' ↔ s.render = s'.render) := by
  obtain ⟨hfits, hvalid⟩ := parse_eq_ok h
  have hreload := parse_render hfits hvalid
  refine ⟨hreload, fun text' s' h' => ⟨fun heq => by rw [heq], fun heq => ?_⟩⟩
  obtain ⟨hfits', hvalid'⟩ := parse_eq_ok h'
  have hreload' := parse_render hfits' hvalid'
  rw [← heq, hreload] at hreload'
  exact Except.ok.inj hreload'

/-! ### A document that is not in the written form -/

/-- Settings in an order of their own, one record as an array, an address with
a scope and groups that are not shortened, and the largest number of its
range. -/
def linkLocalText : String :=
  "\x7b\"udp\": \x7b\"bind\": \"[fe80:0:0::01%007]:80\", \"max_packet\": 18446744073709551615\x7d,
    \"frame\": [\"short\", 170, 64]\x7d"

def linkLocal : Settings where
  frame := { mode := .short, delimiter := 0xAA, maxSize := 64 }
  udp := {
    bind := .v6 ⟨[0xFE80, 0, 0, 0, 0, 0, 0, 1], rfl⟩ 7 80
    maxPacket := 18446744073709551615 }

theorem linkLocal_reloads :
    parse linkLocalText = .ok linkLocal ∧ parse linkLocal.render = .ok linkLocal ∧
      (linkLocal = {} ↔ linkLocal.render = render {}) := by
  have hlinkLocal : parse linkLocalText = .ok linkLocal := by decide +kernel
  have hempty : parse "\x7b\x7d" = .ok {} := by decide +kernel
  obtain ⟨hreload, hrender⟩ := parse_render_of_parse hlinkLocal
  exact ⟨hlinkLocal, hreload, hrender _ _ hempty⟩

end Settings

end LinkStack
