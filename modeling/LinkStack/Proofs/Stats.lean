import Mathlib.Algebra.GroupWithZero.Nat
import Mathlib.Algebra.BigOperators.Group.List.Basic
import LinkStack.Stats

/-!
What a snapshot says of the traffic, and what its bytes say of it.

An event adds its share to some of the nine counters (`Traffic.share`). Each step stops at
the ceiling, and so does a whole run: a counter is the sum of the shares, cut off once
(`tally_saturates`). A sum has no order, hence neither has a tally.

A snapshot is written field by field behind what a buffer holds, and read field by field
from the front of a string. Writer and reader are inverse to each other on strings that
are long enough (`snapshot_bijective`).
-/

namespace LinkStack

/-- The counters of a snapshot. -/
inductive Stats.Counter where
  | rxPackets
  | rxCounter
  | rxErrors
  | rxRetries
  | rxDropped
  | txPackets
  | txCounter
  | txDropped
  | txRetries
  deriving DecidableEq, Repr

/-- What an event adds to a counter. -/
def Traffic.share : Traffic → Stats.Counter → Nat
  | .rxPacket _, .rxPackets => 1
  | .rxPacket length, .rxCounter => length
  | .rxError, .rxErrors => 1
  | .rxRetry, .rxRetries => 1
  | .rxDropped, .rxDropped => 1
  | .txPacket _, .txPackets => 1
  | .txPacket length, .txCounter => length
  | .txDropped, .txDropped => 1
  | .txRetry, .txRetries => 1
  | _, _ => 0

namespace Stats

/-! ### Tallies -/

def read (s : Stats) : Counter → UInt32
  | .rxPackets => s.rxPackets
  | .rxCounter => s.rxCounter
  | .rxErrors => s.rxErrors
  | .rxRetries => s.rxRetries
  | .rxDropped => s.rxDropped
  | .txPackets => s.txPackets
  | .txCounter => s.txCounter
  | .txDropped => s.txDropped
  | .txRetries => s.txRetries

/-- The snapshot after events. -/
def tally (events : List Traffic) : Stats := events.foldl count {}

theorem eq_of_read_eq {s s' : Stats} (h : ∀ c, s.read c = s'.read c) : s = s' := by
  obtain ⟨_, _, _, _, _, _, _, _, _⟩ := s
  obtain ⟨_, _, _, _, _, _, _, _, _⟩ := s'
  rw [mk.injEq]
  exact ⟨h .rxPackets, h .rxCounter, h .rxErrors, h .rxRetries, h .rxDropped, h .txPackets,
    h .txCounter, h .txDropped, h .txRetries⟩

theorem toNat_le_ceiling (counter : UInt32) : counter.toNat ≤ ceiling :=
  Nat.le_sub_one_of_lt counter.toNat_lt

@[simp] theorem bump_zero (counter : UInt32) : bump counter 0 = counter := by
  rw [← UInt32.toNat_inj, toNat_bump]
  exact Nat.min_eq_right (toNat_le_ceiling counter)

/-- An event bumps every counter by its share. -/
theorem read_count (s : Stats) (event : Traffic) (c : Counter) :
    (s.count event).read c = bump (s.read c) (event.share c) := by
  cases event <;> cases c <;> simp [count, read, Traffic.share]

/-- To stop at each step and to stop once is the same. -/
theorem toNat_read_foldl (events : List Traffic) (s : Stats) (c : Counter) :
    ((events.foldl count s).read c).toNat =
      min ceiling ((s.read c).toNat + (events.map (·.share c)).sum) := by
  induction events generalizing s with
  | nil => exact (Nat.min_eq_right (toNat_le_ceiling (s.read c))).symm
  | cons event events ih =>
      rw [List.foldl_cons, ih, read_count, toNat_bump, List.map_cons, List.sum_cons]
      omega

theorem toNat_read_tally (events : List Traffic) (c : Counter) :
    ((tally events).read c).toNat = min ceiling (events.map (·.share c)).sum := by
  have hzero : (read {} c).toNat = 0 := by cases c <;> rfl
  rw [tally, toNat_read_foldl, hzero, Nat.zero_add]

/-- Every counter is the exact sum of what the events add to it, cut off once at the largest
number of 32 bits. It never decreases, and the order of the events makes no difference. -/
theorem tally_saturates (events : List Traffic) :
    (∀ c, ((tally events).read c).toNat = min (2 ^ 32 - 1) (events.map (·.share c)).sum) ∧
    (∀ later c, (tally events).read c ≤ (tally (events ++ later)).read c) ∧
    ∀ events', events.Perm events' → tally events' = tally events := by
  refine ⟨toNat_read_tally events, fun later c => ?_, fun events' hperm => ?_⟩
  · rw [UInt32.le_iff_toNat_le, toNat_read_tally, toNat_read_tally, List.map_append,
      List.sum_append]
    omega
  · refine eq_of_read_eq fun c => ?_
    rw [← UInt32.toNat_inj, toNat_read_tally, toNat_read_tally, (hperm.map _).sum_eq]

/-- A packet too long for the counter fills it, before or after the others. -/
theorem tally_overlong :
    List.Perm [Traffic.rxPacket (2 ^ 64 - 1), .rxPacket 3, .txRetry]
      [.txRetry, .rxPacket 3, .rxPacket (2 ^ 64 - 1)] ∧
    tally [.txRetry, .rxPacket 3, .rxPacket (2 ^ 64 - 1)] =
      tally [.rxPacket (2 ^ 64 - 1), .rxPacket 3, .txRetry] := by
  have hperm : List.Perm [Traffic.rxPacket (2 ^ 64 - 1), .rxPacket 3, .txRetry]
      [.txRetry, .rxPacket 3, .rxPacket (2 ^ 64 - 1)] := by decide
  exact ⟨hperm, (tally_saturates _).2.2 _ hperm⟩

/-! ### Snapshots as bytes -/

@[simp] theorem length_word (field : UInt32) : (word field).length = 4 :=
  Bytes.length_littleEnd 4 field.toNat

theorem ofLittleEnd_word (field : UInt32) :
    UInt32.ofNat (Bytes.ofLittleEnd (word field)) = field := by
  have hlt : field.toNat < Bytes.range 4 := field.toNat_lt
  rw [word, Bytes.ofLittleEnd_littleEnd hlt, UInt32.ofNat_toNat]

theorem word_ofLittleEnd {bytes : Bytes} (h : bytes.length = 4) :
    word (UInt32.ofNat (Bytes.ofLittleEnd bytes)) = bytes := by
  have hlt : Bytes.ofLittleEnd bytes < UInt32.size := by
    have := Bytes.ofLittleEnd_lt bytes
    rwa [h] at this
  have hback := Bytes.littleEnd_ofLittleEnd bytes
  rwa [word, UInt32.toNat_ofNat_of_lt' hlt, ← h]

theorem encode_eq_flatMap (s : Stats) : s.encode = s.toList.flatMap word :=
  List.flatMap_eq_foldl.symm

example :
    encode { rxPackets := 1, rxCounter := 2, rxErrors := 3, rxRetries := 4, rxDropped := 5,
             txPackets := 6, txCounter := 7, txDropped := 8, txRetries := 0x01020304 } =
      [1, 0, 0, 0, 2, 0, 0, 0, 3, 0, 0, 0, 4, 0, 0, 0, 5, 0, 0, 0,
        6, 0, 0, 0, 7, 0, 0, 0, 8, 0, 0, 0, 4, 3, 2, 1] := by decide

theorem appendTo_eq (s : Stats) (buffer : Bytes) : s.appendTo buffer = buffer ++ s.encode := by
  rw [appendTo, List.foldl_append_eq_append, encode_eq_flatMap, List.flatMap_def]

theorem length_encode (s : Stats) : s.encode.length = wireSize := by
  simp [encode_eq_flatMap, toList, wireSize]

/-! ### Reading -/

theorem fieldAt_succ {front bytes : Bytes} (h : front.length = 4) (index : Nat) :
    fieldAt (front ++ bytes) (index + 1) = fieldAt bytes index := by
  have hskip : 4 * (index + 1) = front.length + 4 * index := by omega
  rw [fieldAt, fieldAt, hskip, List.drop_length_add_append]

/-- What was written is read, whatever follows it. -/
theorem map_fieldAt (fields : List UInt32) (rest : Bytes) :
    (List.range fields.length).map (fieldAt (fields.flatMap word ++ rest)) = fields := by
  induction fields with
  | nil => rfl
  | cons field fields ih =>
      have hfirst : fieldAt (word field ++ (fields.flatMap word ++ rest)) 0 = field := by
        rw [fieldAt, Nat.mul_zero, List.drop_zero, List.take_left' (length_word field),
          ofLittleEnd_word]
      rw [List.flatMap_cons, List.append_assoc, List.length_cons, List.range_succ_eq_map,
        List.map_cons, hfirst, List.map_map]
      simp only [Function.comp_def, fieldAt_succ (length_word field)]
      rw [ih]

/-- What was read is written back. -/
theorem flatMap_fieldAt {bytes : Bytes} {count : Nat} (h : 4 * count ≤ bytes.length) :
    ((List.range count).map (fieldAt bytes)).flatMap word = bytes.take (4 * count) := by
  induction count with
  | zero => simp
  | succ count ih =>
      have hfour : ((bytes.drop (4 * count)).take 4).length = 4 := by
        rw [List.length_take, List.length_drop]
        omega
      rw [List.range_succ, List.map_append, List.flatMap_append, ih (by omega), List.map_singleton,
        List.flatMap_singleton, fieldAt, word_ofLittleEnd hfour, Nat.mul_succ, List.take_add]

theorem ofList?_eq_some_iff {fields : List UInt32} {s : Stats} :
    ofList? fields = some s ↔ fields = s.toList := by
  constructor
  · intro h
    unfold ofList? at h
    split at h
    · cases h
      rfl
    · cases h
  · rintro rfl
    exact ofList?_toList s

theorem decode_append (s : Stats) (rest : Bytes) : decode (s.encode ++ rest) = some s := by
  have hlong : ¬ (s.encode ++ rest).length < wireSize := by
    rw [List.length_append, length_encode]
    omega
  have hfields := map_fieldAt s.toList rest
  rw [← encode_eq_flatMap] at hfields
  rw [decode, if_neg hlong, ofList?_eq_some_iff]
  exact hfields

theorem decode_eq_some_iff {bytes : Bytes} {s : Stats} :
    decode bytes = some s ↔ s.encode = bytes.take wireSize := by
  constructor
  · intro h
    rw [decode] at h
    split at h
    · cases h
    · rename_i hlong
      rw [ofList?_eq_some_iff] at h
      rw [encode_eq_flatMap, ← h]
      have hnine : 4 * 9 ≤ bytes.length := Nat.not_lt.mp hlong
      exact flatMap_fieldAt hnine
  · intro h
    rw [← List.take_append_drop wireSize bytes, ← h]
    exact decode_append s _

theorem decode_eq_none_iff {bytes : Bytes} : decode bytes = none ↔ bytes.length < wireSize := by
  rw [decode]
  split
  · rename_i hshort
    exact iff_of_true rfl hshort
  · rename_i hlong
    -- nine fields have been read, so there is a snapshot of them
    exact iff_of_false (Option.some_ne_none _) hlong

/-- A snapshot goes behind what a buffer holds as 36 bytes, from which it is read whatever
follows them; and a string from which one is read begins with the bytes of that snapshot. -/
theorem snapshot_bijective :
    (∀ (s : Stats) (buffer : Bytes), s.appendTo buffer = buffer ++ s.encode ∧
      s.encode.length = 36) ∧
    (∀ (s : Stats) (rest : Bytes), decode (s.encode ++ rest) = some s) ∧
    ∀ bytes : Bytes, (decode bytes = none ↔ bytes.length < 36) ∧
      ∀ s, decode bytes = some s ↔ s.encode = bytes.take 36 :=
  ⟨fun s buffer => ⟨appendTo_eq s buffer, length_encode s⟩, decode_append,
    fun _ => ⟨decode_eq_none_iff, fun _ => decode_eq_some_iff⟩⟩

end Stats

end LinkStack
