import LinkStack.Network.Assembly
import LinkStack.Proofs.Frame.Limits
import LinkStack.Proofs.Settings.Reload

/-!
Settings that were read, and the layers that are built from them.

Reading checks the settings of the framing layer and of the serial line, so these can always be
used. It does not look at the numbers of the datagram channel, which are checked when the channel is
made; what is read can be built exactly if they are right (`buildable_iff_of_parse`).
-/

namespace LinkStack

namespace Channel.UdpConfig

/-- The size of the buffer for a datagram, with one byte more than the longest packet to notice
a datagram that is longer. -/
def bufferSize (c : UdpConfig) : Nat := c.maxPacket + 1

theorem validate_of_pos {c : UdpConfig} (hpacket : 0 < c.maxPacket) (hclients : 0 < c.maxClients) :
    c.validate = .ok () :=
  if_neg (by omega)

theorem validate_of_not_pos {c : UdpConfig} (h : ¬ (0 < c.maxPacket ∧ 0 < c.maxClients)) :
    c.validate = .error (.invalidConfig .emptyLimits) :=
  if_pos (by omega)

end Channel.UdpConfig

open Channel (UdpConfig ConfigFault)

/-- A channel is refused for its settings exactly if they leave no room for a packet or for
a client. -/
theorem Network.addUdp_ne_invalid_iff {σ : Type} (n : Network σ) (c : UdpConfig) :
    (∀ fault, n.addUdp c ≠ .error (.invalidConfig fault)) ↔ 0 < c.maxPacket ∧ 0 < c.maxClients := by
  constructor
  · intro h
    by_contra hnone
    apply h .emptyLimits
    rw [addUdp, Channel.Udp.new, UdpConfig.validate_of_not_pos hnone]
    rfl
  · rintro ⟨hpacket, hclients⟩ fault hrefused
    rw [addUdp, Channel.Udp.new, UdpConfig.validate_of_pos hpacket hclients] at hrefused
    cases haddress : n.bindAddress c.bind with
    | none => simp [haddress, Except.map, bind, Except.bind, throw, throwThe,
        MonadExceptOf.throw] at hrefused
    | some address => simp [haddress, Except.map, bind, Except.bind, pure, Except.pure] at hrefused

namespace Settings

open LinkStack.Frame (Framer)

/-- A framing layer with the settings can be made at any time, and never computes a size below
zero. -/
def FramerBuildable (s : Settings) : Prop :=
  ∀ now, ∃ f : Framer Neighbour, Framer.new s.frame now = .ok f ∧ f.StaysExact

/-- No layer is refused for its settings, and none computes a size that is no number of the
machine. -/
structure Buildable (s : Settings) : Prop where
  framer : s.FramerBuildable
  serial : s.serial.validate = .ok ()
  udp : ∀ {σ : Type} (n : Network σ) (fault : ConfigFault),
    n.addUdp s.udp ≠ .error (.invalidConfig fault)
  buffer : s.udp.bufferSize < UInt64.size

theorem framerBuildable_of_validate {s : Settings} (h : s.frame.validate = .ok ()) :
    s.FramerBuildable := by
  intro now
  refine ⟨{ config := s.frame, lastRx := now }, ?_, Framer.stays_exact h⟩
  rw [Framer.new, h]
  rfl

/-- Settings are valid if their checked parts are. -/
theorem parts_of_validate {s : Settings} (h : s.validate = .ok ()) :
    s.frame.validate = .ok () ∧ s.serial.validate = .ok () := by
  rw [validate] at h
  cases hframe : s.frame.validate with
  | error error =>
      rw [hframe] at h
      cases h
  | ok u =>
      cases hserial : s.serial.validate with
      | error error =>
          rw [hframe, hserial] at h
          cases h
      | ok u' => exact ⟨rfl, rfl⟩

/-- The framing layer and the serial line of settings that were read are in order. All layers
are exactly if the datagram channel has room for a packet and for a client, and a number is left
for the size of its buffer. -/
theorem buildable_iff_of_parse {text : String} {s : Settings} (h : parse text = .ok s) :
    s.FramerBuildable ∧ s.serial.validate = .ok () ∧
      (s.Buildable ↔ 0 < s.udp.maxPacket ∧ 0 < s.udp.maxClients ∧
        s.udp.maxPacket < UInt64.size - 1) := by
  obtain ⟨hframe, hserial⟩ := parts_of_validate (parse_eq_ok h).2
  have hframer := framerBuildable_of_validate hframe
  refine ⟨hframer, hserial, ?_, ?_⟩
  · intro hbuild
    have hlimits := (Network.addUdp_ne_invalid_iff ({ app := () } : Network Unit) s.udp).mp
      (hbuild.udp _)
    have hbuffer : s.udp.maxPacket + 1 < UInt64.size := hbuild.buffer
    omega
  · rintro ⟨hpacket, hclients, hmost⟩
    have hbuffer : s.udp.maxPacket + 1 < UInt64.size := by omega
    exact ⟨hframer, hserial,
      fun n => (Network.addUdp_ne_invalid_iff n s.udp).mpr ⟨hpacket, hclients⟩, hbuffer⟩

/-- The defaults can be built. The longest packet that can be written down cannot, although the
channel is made. -/
theorem buildable_defaults :
    parse "\x7b\x7d" = .ok {} ∧ Buildable {} ∧
      parse linkLocalText = .ok linkLocal ∧ ¬ linkLocal.Buildable := by
  have hempty : parse "\x7b\x7d" = .ok {} := by decide +kernel
  have hlinkLocal : parse linkLocalText = .ok linkLocal := by decide +kernel
  refine ⟨hempty, ?_, hlinkLocal, ?_⟩
  · exact (buildable_iff_of_parse hempty).2.2.mpr (by decide)
  · intro hbuild
    exact absurd ((buildable_iff_of_parse hlinkLocal).2.2.mp hbuild).2.2 (by decide)

/-- A document without room for a client is read, but no channel can be made. -/
theorem not_forall_buildable :
    ¬ ∀ (text : String) (s : Settings), parse text = .ok s → s.Buildable := by
  intro h
  have hread : parse "\x7b\"udp\":\x7b\"max_clients\":0\x7d\x7d" =
      .ok { udp := { maxClients := 0 } } := by decide +kernel
  have hrefused : ({ app := () } : Network Unit).addUdp { maxClients := 0 } =
      .error (.invalidConfig .emptyLimits) := rfl
  exact (h _ _ hread).udp _ _ hrefused

end Settings

end LinkStack
