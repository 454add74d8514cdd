import Mathlib.Data.List.Nodup
import LinkStack.Channel.Clients

/-!
The table of clients, change by change.

A table grows by one address at a time, and only if there is room for it (`Grows`); it shrinks when
the silent clients are forgotten. Either way it stays within its limit, holds no address twice, and
keeps what is registered.
-/

namespace LinkStack.Channel.Clients

variable {α : Type} {t t' : Clients α} {now : Nat} {a b : α} {c : Client α}

/-- An address is registered, and its client in the table. -/
def Pins (t : Clients α) (a : α) : Prop := ∃ c ∈ t.list, c.address = a ∧ c.pinned = true

/-- The table is within its limit, and no address is in it twice. -/
structure Sound (t : Clients α) : Prop where
  bounded : t.size ≤ t.maxClients
  distinct : t.addresses.Nodup

def add (t : Clients α) (c : Client α) : Clients α := { t with list := t.list ++ [c] }

theorem mem_addresses : a ∈ t.addresses ↔ ∃ c ∈ t.list, c.address = a := List.mem_map

theorem length_addresses (t : Clients α) : t.addresses.length = t.size := List.length_map _

/-! ### Forgetting the silent clients -/

theorem mem_expire : c ∈ (t.expire now).list ↔ c ∈ t.list ∧ t.keeps now c = true :=
  List.mem_filter

theorem Sound.expire (h : t.Sound) (now : Nat) : (t.expire now).Sound where
  bounded := Nat.le_trans (List.length_filter_le _ _) h.bounded
  distinct := h.distinct.sublist (List.filter_sublist.map _)

theorem pins_expire (h : t.Pins a) : (t.expire now).Pins a := by
  obtain ⟨c, hc, ha, hpin⟩ := h
  exact ⟨c, mem_expire.mpr ⟨hc, by rw [keeps, hpin, Bool.true_or]⟩, ha, hpin⟩

/-- A table is full, and only because it holds clients that have been silent for too long. -/
def Clogged (t : Clients α) (now : Nat) : Prop :=
  t.maxClients ≤ t.size ∧ ∃ c ∈ t.list, t.keeps now c = false

/-- Fewer clients than the limit are to be kept: then there is room, unless the table is clogged. -/
theorem room_iff_not_clogged (h : t.list.countP (t.keeps now) < t.maxClients) :
    t.size < t.maxClients ↔ ¬ t.Clogged now := by
  constructor
  · exact fun hroom hclogged => absurd hclogged.1 (Nat.not_le.mpr hroom)
  · intro hclogged
    by_contra hfull
    apply hclogged
    refine ⟨Nat.not_lt.mp hfull, ?_⟩
    by_contra hnone
    have hall : t.list.countP (t.keeps now) = t.size :=
      List.countP_eq_length.mpr fun c hc => by
        by_contra hsilent
        exact hnone ⟨c, hc, Bool.eq_false_iff.mpr hsilent⟩
    omega

/-! ### Growing -/

/-- At most one address is added, if there is room for it, and nothing registered is lost. -/
structure Grows (t t' : Clients α) : Prop where
  maxClients : t'.maxClients = t.maxClients
  timeout : t'.timeout = t.timeout
  addresses : t'.addresses = t.addresses ∨
    ∃ a, a ∉ t.addresses ∧ t.size < t.maxClients ∧ t'.addresses = t.addresses ++ [a]
  pins : ∀ a, t.Pins a → t'.Pins a

theorem Grows.refl (t : Clients α) : t.Grows t := ⟨rfl, rfl, .inl rfl, fun _ => id⟩

theorem Grows.sound (h : t.Grows t') (ht : t.Sound) : t'.Sound := by
  constructor
  · rw [h.maxClients, ← length_addresses]
    have hbounded := ht.bounded
    rcases h.addresses with hsame | ⟨a, -, hroom, hadded⟩
    · rw [hsame, length_addresses]
      exact hbounded
    · rw [hadded, List.length_append, length_addresses, List.length_singleton]
      omega
  · rcases h.addresses with hsame | ⟨a, hnew, -, hadded⟩
    · rw [hsame]
      exact ht.distinct
    · rw [hadded]
      exact List.nodup_append.mpr ⟨ht.distinct, List.nodup_singleton a,
        fun b hb b' hb' heq => hnew (by rwa [← List.mem_singleton.mp hb', ← heq])⟩

theorem grows_add (hnew : c.address ∉ t.addresses) (hroom : t.size < t.maxClients) :
    t.Grows (t.add c) where
  maxClients := rfl
  timeout := rfl
  addresses := .inr ⟨c.address, hnew, hroom, List.map_append⟩
  pins _ := by
    rintro ⟨old, hold, hpin⟩
    exact ⟨old, List.mem_append_left _ hold, hpin⟩

variable [DecidableEq α]

section Update

variable {change : Client α → Client α}

theorem mem_update (h : c ∈ (t.update a change).list) :
    (c ∈ t.list ∧ c.address ≠ a) ∨ ∃ old ∈ t.list, old.address = a ∧ c = change old := by
  obtain ⟨old, hold, hc⟩ := List.mem_map.mp h
  by_cases haddress : old.address = a
  · rw [if_pos haddress] at hc
    exact .inr ⟨old, hold, haddress, hc.symm⟩
  · rw [if_neg haddress] at hc
    exact .inl ⟨hc ▸ hold, hc ▸ haddress⟩

theorem mem_update_of_mem (h : c ∈ t.list) :
    (if c.address = a then change c else c) ∈ (t.update a change).list :=
  List.mem_map_of_mem h

theorem grows_update (haddress : ∀ c, (change c).address = c.address)
    (hpinned : ∀ c, c.pinned = true → (change c).pinned = true) : t.Grows (t.update a change) where
  maxClients := rfl
  timeout := rfl
  addresses := by
    left
    rw [addresses, update, List.map_map]
    refine List.map_congr_left fun c _ => ?_
    by_cases hc : c.address = a <;> simp [hc, haddress]
  pins b := by
    rintro ⟨c, hc, hb, hpin⟩
    refine ⟨_, mem_update_of_mem hc, ?_⟩
    by_cases h : c.address = a
    · rw [if_pos h, haddress]
      exact ⟨hb, hpinned c hpin⟩
    · rw [if_neg h]
      exact ⟨hb, hpin⟩

end Update

/-! ### Hearing from an address -/

theorem touch_cases (t : Clients α) (now : Nat) (a : α) :
    (a ∈ t.addresses ∧ t.touch now a = t.update a fun c => { c with lastSeen := now }) ∨
    (a ∉ t.addresses ∧ t.size < t.maxClients ∧
      t.touch now a = t.add { address := a, lastSeen := now, pinned := false }) ∨
    (a ∉ t.addresses ∧ t.maxClients ≤ t.size ∧ t.touch now a = t) := by
  by_cases hknown : a ∈ t.addresses
  · exact .inl ⟨hknown, if_pos hknown⟩
  · by_cases hroom : t.size < t.maxClients
    · exact .inr (.inl ⟨hknown, hroom, by rw [touch, if_neg hknown, if_pos hroom]; rfl⟩)
    · exact .inr (.inr ⟨hknown, Nat.not_lt.mp hroom, by rw [touch, if_neg hknown, if_neg hroom]⟩)

theorem grows_touch (t : Clients α) (now : Nat) (a : α) : t.Grows (t.touch now a) := by
  rcases touch_cases t now a with ⟨-, h⟩ | ⟨hnew, hroom, h⟩ | ⟨-, -, h⟩ <;> rw [h]
  · exact grows_update (fun _ => rfl) fun _ => id
  · exact grows_add hnew hroom
  · exact .refl t

/-- Clients of other addresses are not touched. -/
theorem mem_touch (h : c ∈ (t.touch now a).list) :
    (c ∈ t.list ∧ c.address ≠ a) ∨ (c.address = a ∧ c.lastSeen = now) := by
  rcases touch_cases t now a with ⟨-, htouch⟩ | ⟨hnew, -, htouch⟩ | ⟨hnew, -, htouch⟩ <;>
    rw [htouch] at h
  · rcases mem_update h with hother | ⟨old, -, haddress, rfl⟩
    · exact .inl hother
    · exact .inr ⟨haddress, rfl⟩
  · rcases List.mem_append.mp h with hold | hadded
    · exact .inl ⟨hold, fun heq => hnew (mem_addresses.mpr ⟨c, hold, heq⟩)⟩
    · rw [List.mem_singleton.mp hadded]
      exact .inr ⟨rfl, rfl⟩
  · exact .inl ⟨h, fun heq => hnew (mem_addresses.mpr ⟨c, h, heq⟩)⟩

/-- No client is lost when an address is heard from: if the table is the one without the silent
clients, there was none. -/
theorem keeps_of_touch_eq_expire (h : t.touch now a = t.expire now) (hc : c ∈ t.list) :
    t.keeps now c = true := by
  have hlength : t.size ≤ (t.expire now).size := by
    rw [← h, ← length_addresses, ← length_addresses]
    rcases (grows_touch t now a).addresses with hsame | ⟨a', -, -, hadded⟩
    · exact Nat.le_of_eq (congrArg List.length hsame).symm
    · rw [hadded, List.length_append]
      exact Nat.le_add_right _ _
  exact List.length_filter_eq_length_iff.mp
    (Nat.le_antisymm (List.length_filter_le _ _) hlength) c hc

theorem mem_addresses_touch (hnew : a ∉ t.addresses) :
    a ∈ (t.touch now a).addresses ↔ t.size < t.maxClients := by
  rcases touch_cases t now a with ⟨hknown, -⟩ | ⟨-, hroom, h⟩ | ⟨-, hfull, h⟩
  · exact absurd hknown hnew
  · rw [h]
    exact iff_of_true (mem_addresses.mpr ⟨_, List.mem_append_right _ (.head _), rfl⟩) hroom
  · rw [h]
    exact iff_of_false hnew (Nat.not_lt.mpr hfull)

/-! ### Registering an address -/

theorem register_cases (t : Clients α) (now : Nat) (a : α) :
    (a ∈ t.addresses ∧
      t.register now a = .ok (t.update a fun c => { c with pinned := true })) ∨
    (a ∉ t.addresses ∧ t.size < t.maxClients ∧
      t.register now a = .ok (t.add { address := a, lastSeen := now, pinned := true })) ∨
    (a ∉ t.addresses ∧ t.maxClients ≤ t.size ∧
      t.register now a = .error (.tooManyClients t.maxClients)) := by
  by_cases hknown : a ∈ t.addresses
  · exact .inl ⟨hknown, if_pos hknown⟩
  · by_cases hfull : t.maxClients ≤ t.size
    · exact .inr (.inr ⟨hknown, hfull, by rw [register, if_neg hknown, if_pos hfull]⟩)
    · refine .inr (.inl ⟨hknown, Nat.not_le.mp hfull, ?_⟩)
      rw [register, if_neg hknown, if_neg hfull]
      rfl

theorem grows_register (h : t.register now a = .ok t') : t.Grows t' := by
  rcases register_cases t now a with ⟨-, hr⟩ | ⟨hnew, hroom, hr⟩ | ⟨-, -, hr⟩ <;> rw [hr] at h
  · rw [← Except.ok.inj h]
    exact grows_update (fun _ => rfl) fun _ _ => rfl
  · rw [← Except.ok.inj h]
    exact grows_add hnew hroom
  · cases h

theorem pins_register (h : t.register now a = .ok t') : t'.Pins a := by
  rcases register_cases t now a with ⟨hknown, hr⟩ | ⟨-, -, hr⟩ | ⟨-, -, hr⟩ <;> rw [hr] at h
  · obtain ⟨c, hc, rfl⟩ := mem_addresses.mp hknown
    rw [← Except.ok.inj h]
    refine ⟨_, mem_update_of_mem hc, ?_⟩
    rw [if_pos rfl]
    exact ⟨rfl, rfl⟩
  · rw [← Except.ok.inj h]
    exact ⟨_, List.mem_append_right _ (.head _), rfl, rfl⟩
  · cases h

/-- Only the client that is registered is another one than before. -/
theorem mem_register (h : t.register now a = .ok t') (hc : c ∈ t'.list) :
    c ∈ t.list ∨ c.pinned = true := by
  rcases register_cases t now a with ⟨-, hr⟩ | ⟨-, -, hr⟩ | ⟨-, -, hr⟩ <;> rw [hr] at h
  · rw [← Except.ok.inj h] at hc
    rcases mem_update hc with hother | ⟨old, -, -, rfl⟩
    · exact .inl hother.1
    · exact .inr rfl
  · rw [← Except.ok.inj h] at hc
    rcases List.mem_append.mp hc with hold | hadded
    · exact .inl hold
    · rw [List.mem_singleton.mp hadded]
      exact .inr rfl
  · cases h

/-- Only a full table refuses, and only a new address. -/
theorem register_error {e : Error} (h : t.register now a = .error e) :
    e = .tooManyClients t.maxClients ∧ a ∉ t.addresses ∧ t.maxClients ≤ t.size := by
  rcases register_cases t now a with ⟨-, hr⟩ | ⟨-, -, hr⟩ | ⟨hnew, hfull, hr⟩ <;> rw [hr] at h
  · cases h
  · cases h
  · exact ⟨(Except.error.inj h).symm, hnew, hfull⟩

theorem register_isOk (hnew : a ∉ t.addresses) :
    (∃ t', t.register now a = .ok t') ↔ t.size < t.maxClients := by
  rcases register_cases t now a with ⟨hknown, -⟩ | ⟨-, hroom, h⟩ | ⟨-, hfull, h⟩
  · exact absurd hknown hnew
  · exact iff_of_true ⟨_, h⟩ hroom
  · rw [h]
    exact iff_of_false (by rintro ⟨t', h⟩; cases h) (Nat.not_lt.mpr hfull)

end LinkStack.Channel.Clients
