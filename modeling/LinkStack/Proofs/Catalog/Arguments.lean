import Mathlib.Algebra.Group.Nat.Defs
import Mathlib.Algebra.Ring.Int.Defs
import Mathlib.Data.List.Forall2
import LinkStack.Catalog.Descriptor

/-!
The arguments of a message, packed from values and read back.

What a field takes is said by `FieldFormat.Admits` in terms of its width alone:
an unsigned number below `2 ^ bits`, or a signed one in the two's complement
range of as many bits. The laws of one field come first: the number that stands
for an admitted value fits the width, and its bytes read as the value
(`read_pack`); every byte string of the width is the packing of the value that
it reads as (`raw_read`, `pack_unpack`). The laws of all fields of a descriptor
follow by induction on the fields. Floating-point fields are left out, as a
number of eight bytes may not survive a field of four.
-/

namespace LinkStack.Catalog

namespace FieldFormat

variable {f : FieldFormat}

/-- The number of bits of a field. -/
def bits (f : FieldFormat) : Nat := 8 * f.width.bytes

/-- The values that a field takes: of its type, and in the range of its
width. -/
def Admits (f : FieldFormat) : Value → Prop
  | .unsigned n => f.conversion ∈ [.unsigned, .hex false, .hex true] ∧ n < 2 ^ f.bits
  | .signed n => f.conversion = .signed ∧ -2 ^ (f.bits - 1) ≤ n ∧ n < 2 ^ (f.bits - 1)
  | .float _ => f.conversion = .float

instance (f : FieldFormat) : DecidablePred f.Admits
  | .unsigned n =>
    inferInstanceAs
      (Decidable (f.conversion ∈ [.unsigned, .hex false, .hex true] ∧ n < 2 ^ f.bits))
  | .signed n =>
    inferInstanceAs
      (Decidable (f.conversion = .signed ∧ -2 ^ (f.bits - 1) ≤ n ∧ n < 2 ^ (f.bits - 1)))
  | .float _ => inferInstanceAs (Decidable (f.conversion = .float))

theorem range_eq (f : FieldFormat) : f.range = 2 ^ f.bits := by
  have hrange (width : Nat) : Bytes.range width = 2 ^ (8 * width) := by
    induction width with
    | zero => rfl
    | succ width ih => rw [Bytes.range, ih, Nat.mul_succ, Nat.pow_add, Nat.mul_comm]
  exact hrange f.width.bytes

theorem half_range (f : FieldFormat) : f.range = 2 * 2 ^ (f.bits - 1) := by
  have hpos : f.bits = f.bits - 1 + 1 := by
    rcases f with ⟨_, width, _⟩
    cases width <;> rfl
  rw [range_eq, ← Nat.pow_succ', Nat.succ_eq_add_one, ← hpos]

theorem raw_signed (name : String) (n : Int) (h : f.conversion = .signed) :
    f.raw name (.signed n) =
      if -2 ^ (f.bits - 1) ≤ n ∧ n < 2 ^ (f.bits - 1) then .ok (n % f.range).toNat
      else .error (.valueRange name) := by
  have hhalf : f.range / 2 = 2 ^ (f.bits - 1) := by
    rw [half_range, Nat.mul_div_cancel_left _ Nat.two_pos]
  have hcast : ((2 ^ (f.bits - 1) : Nat) : Int) = 2 ^ (f.bits - 1) := by push_cast; rfl
  simp only [raw, h, hhalf, hcast]

@[simp] theorem length_pack (f : FieldFormat) (n : Nat) : (f.pack n).length = f.width.bytes := by
  unfold pack
  split
  · exact Bytes.length_littleEnd ..
  · exact Bytes.length_bigEnd ..

theorem unpack_pack {n : Nat} (h : n < f.range) : f.unpack (f.pack n) = n := by
  unfold pack unpack
  split
  · exact Bytes.ofLittleEnd_littleEnd h
  · exact Bytes.ofBigEnd_bigEnd h

theorem pack_unpack {bytes : Bytes} (h : bytes.length = f.width.bytes) :
    f.pack (f.unpack bytes) = bytes := by
  unfold pack unpack
  rw [← h]
  split
  · exact Bytes.littleEnd_ofLittleEnd bytes
  · exact Bytes.bigEnd_ofBigEnd bytes

theorem unpack_lt {bytes : Bytes} (h : bytes.length = f.width.bytes) :
    f.unpack bytes < f.range := by
  unfold unpack range
  rw [← h]
  split
  · exact Bytes.ofLittleEnd_lt bytes
  · rw [← List.length_reverse]
    exact Bytes.ofLittleEnd_lt bytes.reverse

/-- Exactly the values that a field takes have a number that stands for
them. -/
theorem exists_raw_iff (f : FieldFormat) (name : String) (v : Value) :
    (∃ n, f.raw name v = .ok n) ↔ f.Admits v := by
  cases v with
  | unsigned n =>
    cases hc : f.conversion with
    | hex upper => cases upper <;> simp [raw, Admits, hc, range_eq, ite_eq_iff]
    | _ => simp [raw, Admits, hc, range_eq, ite_eq_iff]
  | signed n =>
    cases hc : f.conversion with
    | signed =>
      rw [raw_signed name n hc]
      simp [Admits, hc, ite_eq_iff]
    | _ => simp [raw, Admits, hc]
  | float pattern => cases hc : f.conversion <;> simp [raw, Admits, hc]

/-- The number that stands for a value fits a field that is not floating-point,
and its bytes read as the value. -/
theorem read_pack {name : String} {v : Value} {n : Nat} (hf : f.conversion ≠ .float)
    (h : f.raw name v = .ok n) : n < f.range ∧ f.read (f.pack n) = v := by
  have hadmits : f.Admits v := (exists_raw_iff f name v).mp ⟨n, h⟩
  have hpos : 0 < f.range := by
    rw [range_eq]
    exact Nat.two_pow_pos _
  cases v with
  | float pattern => exact absurd hadmits hf
  | unsigned m =>
    obtain ⟨hc, hm⟩ := hadmits
    rw [← range_eq] at hm
    have hn : m = n := by
      simp only [List.mem_cons, List.not_mem_nil, or_false] at hc
      rcases hc with hc | hc | hc <;> simpa [raw, hc, hm] using h
    subst hn
    refine ⟨hm, ?_⟩
    simp only [List.mem_cons, List.not_mem_nil, or_false] at hc
    rcases hc with hc | hc | hc <;> simp only [read, unpack_pack hm, hc]
  | signed m =>
    obtain ⟨hc, hm⟩ := hadmits
    have hn : (m % f.range).toNat = n := by
      rw [raw_signed name m hc, if_pos hm] at h
      exact Except.ok.inj h
    -- the remainder is the number itself or the number with the range added
    have hnonneg : 0 ≤ m % f.range := Int.emod_nonneg m (by omega)
    have hcast : (n : Int) = m % f.range := by rw [← hn, Int.toNat_of_nonneg hnonneg]
    have hlt : n < f.range := by
      have := Int.emod_lt_of_pos m (by omega : (0 : Int) < f.range)
      omega
    have hmod : Int.bmod n f.range = m := by
      rw [hcast, Int.emod_bmod]
      apply Int.bmod_eq_of_le_mul_two
      · rw [half_range]
        push_cast
        omega
      · rw [half_range]
        push_cast
        omega
    refine ⟨hlt, ?_⟩
    simp only [read, unpack_pack hlt, hc, hmod]

/-- What a field that is not floating-point reads has the number in its bytes
to stand for it. -/
theorem raw_read {bytes : Bytes} (name : String) (hf : f.conversion ≠ .float)
    (h : bytes.length = f.width.bytes) : f.raw name (f.read bytes) = .ok (f.unpack bytes) := by
  have hlt := unpack_lt h
  cases hc : f.conversion with
  | float => exact absurd hc hf
  | unsigned => simp [read, raw, hc, hlt]
  | hex upper => simp [read, raw, hc, hlt]
  | signed =>
    have hpos : 0 < f.range := by omega
    have hrange := f.half_range
    have hlow := Int.le_bmod (x := (f.unpack bytes : Int)) hpos
    have hhigh := Int.bmod_lt (x := (f.unpack bytes : Int)) hpos
    have hmod : (Int.bmod (f.unpack bytes) f.range % f.range).toNat = f.unpack bytes := by
      rw [Int.bmod_emod, ← Int.natCast_emod, Int.toNat_natCast, Nat.mod_eq_of_lt hlt]
    have hbounds : -(f.range / 2 : Nat) ≤ Int.bmod (f.unpack bytes) f.range ∧
        Int.bmod (f.unpack bytes) f.range < (f.range / 2 : Nat) := by omega
    simp only [read, raw, hc, if_pos hbounds, hmod]

end FieldFormat

namespace Descriptor

variable {fields : List (String × FieldFormat)}

/-- One value a field, each of which the field takes. -/
def Admits (fields : List (String × FieldFormat)) : List Value → Prop :=
  List.Forall₂ (fun field value => field.2.Admits value) fields

/-- None of the fields is floating-point. -/
def Integral (fields : List (String × FieldFormat)) : Prop :=
  ∀ field ∈ fields, field.2.conversion ≠ .float

instance (fields : List (String × FieldFormat)) : Decidable (Integral fields) :=
  inferInstanceAs (Decidable (∀ field ∈ fields, field.2.conversion ≠ .float))

/-- The number of bytes of fields. -/
def size (fields : List (String × FieldFormat)) : Nat :=
  fields.foldr (fun (_, format) size => format.width.bytes + size) 0

theorem packFields_cons_eq_ok_iff {name : String} {format : FieldFormat} {v : Value}
    {values : List Value} {args : Bytes} :
    packFields ((name, format) :: fields) (v :: values) = .ok args ↔
      ∃ n rest, format.raw name v = .ok n ∧ packFields fields values = .ok rest ∧
        args = format.pack n ++ rest := by
  rw [packFields]
  cases format.raw name v with
  | error e => simp [bind, Except.bind]
  | ok n =>
    cases packFields fields values with
    | error e => simp [bind, Except.bind]
    | ok rest => simp [bind, Except.bind, pure, Except.pure, eq_comm]

/-- Fields are packed exactly if each of them takes its value. -/
theorem exists_packFields_iff {values : List Value} (h : fields.length = values.length) :
    (∃ args, packFields fields values = .ok args) ↔ Admits fields values := by
  induction fields generalizing values with
  | nil =>
    rw [List.length_nil, eq_comm, List.length_eq_zero_iff] at h
    subst h
    exact ⟨fun _ => .nil, fun _ => ⟨[], rfl⟩⟩
  | cons field fields ih =>
    obtain ⟨name, format⟩ := field
    cases values with
    | nil => exact absurd h (by simp)
    | cons v values =>
      have hrest := ih (Nat.succ.inj h)
      simp only [packFields_cons_eq_ok_iff, Admits, List.forall₂_cons]
      constructor
      · rintro ⟨-, n, rest, hn, hargs, -⟩
        exact ⟨(format.exists_raw_iff name v).mp ⟨n, hn⟩, hrest.mp ⟨rest, hargs⟩⟩
      · rintro ⟨hv, hvalues⟩
        obtain ⟨n, hn⟩ := (format.exists_raw_iff name v).mpr hv
        obtain ⟨rest, hargs⟩ := hrest.mpr hvalues
        exact ⟨_, n, rest, hn, hargs, rfl⟩

/-- What has been packed has the size of the fields, and is read back. -/
theorem readFields_packFields {values : List Value} {args : Bytes} (hf : Integral fields)
    (hlength : fields.length = values.length) (h : packFields fields values = .ok args) :
    args.length = size fields ∧ readFields fields args = values := by
  induction fields generalizing values args with
  | nil =>
    rw [List.length_nil, eq_comm, List.length_eq_zero_iff] at hlength
    subst hlength
    obtain rfl : [] = args := Except.ok.inj h
    exact ⟨rfl, rfl⟩
  | cons field fields ih =>
    obtain ⟨name, format⟩ := field
    cases values with
    | nil => exact absurd hlength (by simp)
    | cons v values =>
      obtain ⟨n, rest, hn, hrest, rfl⟩ := packFields_cons_eq_ok_iff.mp h
      obtain ⟨hsize, hvalues⟩ :=
        ih (fun field hmem => hf field (.tail _ hmem)) (Nat.succ.inj hlength) hrest
      obtain ⟨-, hread⟩ := FieldFormat.read_pack (hf _ (.head _)) hn
      have hwidth := format.length_pack n
      constructor
      · rw [List.length_append, hwidth, hsize, size, size, List.foldr_cons]
      · rw [readFields, List.take_left' hwidth, List.drop_left' hwidth, hread, hvalues]

/-- Bytes of the size of the fields are packed from what they read as. -/
theorem packFields_readFields {args : Bytes} (hf : Integral fields)
    (h : args.length = size fields) :
    (readFields fields args).length = fields.length ∧
      packFields fields (readFields fields args) = .ok args := by
  induction fields generalizing args with
  | nil =>
    rw [size, List.foldr_nil, List.length_eq_zero_iff] at h
    subst h
    exact ⟨rfl, rfl⟩
  | cons field fields ih =>
    obtain ⟨name, format⟩ := field
    have hsize : args.length = format.width.bytes + size fields := h
    have htake : (args.take format.width.bytes).length = format.width.bytes := by
      rw [List.length_take]
      omega
    have hdrop : (args.drop format.width.bytes).length = size fields := by
      rw [List.length_drop]
      omega
    obtain ⟨hlength, hrest⟩ := ih (fun field hmem => hf field (.tail _ hmem)) hdrop
    constructor
    · rw [readFields, List.length_cons, hlength, List.length_cons]
    · rw [readFields, packFields_cons_eq_ok_iff]
      refine ⟨_, _, FieldFormat.raw_read name (hf _ (.head _)) htake, hrest, ?_⟩
      rw [FieldFormat.pack_unpack htake, List.take_append_drop]

theorem encode_eq_ok_iff {d : Descriptor} {values : List Value} {args : Bytes} :
    d.encode values = .ok args ↔
      d.fields.length = values.length ∧ packFields d.fields values = .ok args := by
  unfold encode
  split <;> simp [*]

theorem decode_eq (d : Descriptor) (args : Bytes) :
    d.decode args =
      if args.length = d.argsSize then .ok (readFields d.fields args)
      else .error (.sizeMismatch d.argsSize args.length) := by
  unfold decode checkSize
  split <;> rfl

/-- The values that a descriptor without floating-point fields can encode are
those with one value a field, each of the type of the field and in the range of
its width. Between them and the byte strings of the size of the arguments,
`encode` and `decode` are inverse to each other; other byte strings are
refused. -/
theorem encode_decode (d : Descriptor) (hf : Integral d.fields) :
    (∀ values, (∃ args, d.encode values = .ok args) ↔ Admits d.fields values) ∧
    (∀ values args, d.encode values = .ok args →
      args.length = d.argsSize ∧ d.decode args = .ok values) ∧
    (∀ args, args.length = d.argsSize →
      ∃ values, d.decode args = .ok values ∧ d.encode values = .ok args) ∧
    (∀ args, args.length ≠ d.argsSize →
      d.decode args = .error (.sizeMismatch d.argsSize args.length)) := by
  refine ⟨fun values => ?_, fun values args h => ?_, fun args h => ?_, fun args h => ?_⟩
  · simp only [encode_eq_ok_iff, exists_and_left]
    constructor
    · rintro ⟨hlength, hargs⟩
      exact (exists_packFields_iff hlength).mp hargs
    · intro hadmits
      have hlength := List.Forall₂.length_eq hadmits
      exact ⟨hlength, (exists_packFields_iff hlength).mpr hadmits⟩
  · obtain ⟨hlength, hpack⟩ := encode_eq_ok_iff.mp h
    obtain ⟨hsize, hread⟩ := readFields_packFields hf hlength hpack
    have hargs : args.length = d.argsSize := hsize
    rw [decode_eq, if_pos hargs, hread]
    exact ⟨hargs, rfl⟩
  · obtain ⟨hlength, hpack⟩ := packFields_readFields hf h
    refine ⟨readFields d.fields args, ?_, encode_eq_ok_iff.mpr ⟨hlength.symm, hpack⟩⟩
    rw [decode_eq, if_pos h]
  · rw [decode_eq, if_neg h]

/-- A descriptor with a field for each of the conversions and widths. -/
def mixed : Descriptor where
  source := "\x7ba\x7d=\x7b%u\x7d\x7bb\x7d=\x7b%>hd\x7d\x7bc\x7d=\x7b%>lX\x7d\x7bd\x7d=\x7b%Li\x7d"
  tokens := [
    .field "a" none ⟨.little, .two, .unsigned⟩, .field "b" none ⟨.big, .one, .signed⟩,
    .field "c" none ⟨.big, .four, .hex true⟩, .field "d" none ⟨.little, .eight, .signed⟩]

theorem decode_mixed :
    parse mixed.source = .ok mixed ∧ Integral mixed.fields ∧
    mixed.decode ([0x34, 0x12, 0x80, 0x00, 0x00, 0xBE, 0xEF] ++ List.replicate 8 0xFF) =
      .ok [.unsigned 0x1234, .signed (-128), .unsigned 0xBEEF, .signed (-1)] :=
  have hf : Integral mixed.fields := by decide
  ⟨by with_unfolding_all rfl, hf, ((encode_decode mixed hf).2.1 _ _ (by decide +kernel)).2⟩

end Descriptor

end LinkStack.Catalog
