import LinkStack.Proofs.Json.Pretty

/-!
The accessors of values, on the values that are written for numbers, texts and
records.
-/

namespace LinkStack.Json

theorem plain_ofNat (n : Nat) : Plain (ofNat n) := .number n

theorem plain_ofString (text : String) : Plain (ofString text) := .string text.toList

/-- A record is plain if its values are. -/
theorem plain_ofRecord {names : List String} {values : List Json} (h : ∀ v ∈ values, Plain v) :
    Plain (ofRecord names values) := by
  refine .object (fun m hm => ?_) (fun m hm => ?_)
  all_goals obtain ⟨⟨name, value⟩, hmem, rfl⟩ := List.mem_map.mp hm
  · exact ⟨name.toList, rfl⟩
  · exact h value (List.of_mem_zip hmem).2

/-! ### Texts and numbers -/

@[simp] theorem toText?_ofString (text : String) : (ofString text).toText? = some text := by
  simp [toText?, ofString, unescape_escape]

@[simp] theorem toName?_ofString (text : String) : (ofString text).toName? = some text :=
  toText?_ofString text

@[simp] theorem toBool?_bool (value : Bool) : (Json.bool value).toBool? = some value := rfl

theorem toNat?_ofNat {max n : Nat} (h : n ≤ max) : (ofNat n).toNat? max = some n := by
  have hdigits : (Nat.toDigits 10 n).all Char.isDigit = true :=
    List.all_eq_true.mpr Text.isDigit_decimal
  simp only [toNat?, ofNat, hdigits, if_true, Text.foldl_decimal, if_pos h]

theorem toNat?_le {max n : Nat} {value : Json} (h : value.toNat? max = some n) : n ≤ max := by
  unfold toNat? at h
  split at h <;> grind

@[simp] theorem toUInt8?_ofNat (n : UInt8) : (ofNat n.toNat).toUInt8? = some n := by
  rw [toUInt8?, toNat?_ofNat (Nat.le_of_lt_succ n.toNat_lt), Option.map_some, UInt8.ofNat_toNat]

@[simp] theorem toUInt32?_ofNat (n : UInt32) : (ofNat n.toNat).toUInt32? = some n := by
  rw [toUInt32?, toNat?_ofNat (Nat.le_sub_one_of_lt n.toNat_lt), Option.map_some,
    UInt32.ofNat_toNat]

theorem toSize?_ofNat {n : Nat} (h : n < UInt64.size) : (ofNat n).toSize? = some n :=
  toNat?_ofNat (Nat.le_sub_one_of_lt h)

theorem toSize?_lt {n : Nat} {value : Json} (h : value.toSize? = some n) : n < UInt64.size :=
  Nat.lt_of_le_sub_one (by decide) (toNat?_le h)

/-! ### Records -/

theorem mapM_eq_some {α β : Type} {f : α → Option β} {l : List α} {l' : List β}
    (h : List.Forall₂ (fun a b => f a = some b) l l') : l.mapM f = some l' := by
  induction h with
  | nil => rfl
  | cons hab _ ih => simp [hab, ih]

/-- The member of a name among names that differ. -/
theorem member?_zip {names : List String} {values : List Json} (hnodup : names.Nodup)
    {name : String} {value : Json} (h : (name, value) ∈ names.zip values) :
    member? name (names.zip values) = some (some value) := by
  induction names generalizing values with
  | nil => simp at h
  | cons first names ih =>
    obtain ⟨hfirst, hnodup⟩ := List.nodup_cons.mp hnodup
    cases values with
    | nil => simp at h
    | cons v values =>
      rw [List.zip_cons_cons, member?]
      rcases List.mem_cons.mp h with heq | htail
      · obtain ⟨rfl, rfl⟩ := Prod.mk.inj heq
        have hrest : ((names.zip values).any fun m => m.1 = name) = false := by
          refine List.any_eq_false.mpr fun m hm => ?_
          rintro hname
          rw [← of_decide_eq_true hname] at hfirst
          exact hfirst (List.of_mem_zip hm).1
        simp [hrest]
      · have hne : first ≠ name := by
          rintro rfl
          exact hfirst (List.of_mem_zip htail).1
        rw [if_neg hne, ih hnodup htail]

/-- The fields of a record are the values it was made of. -/
theorem fields?_ofRecord {names : List String} {values : List Json} (hnodup : names.Nodup)
    (hlength : names.length = values.length) :
    (ofRecord names values).fields? names = some (values.map some) := by
  have hmembers : ((names.zip values).map fun m => (escape m.1.toList, m.2)).mapM
      (fun m => (unescape m.1).map fun key => (String.ofList key, m.2)) =
        some (names.zip values) := by
    refine mapM_eq_some ?_
    rw [List.forall₂_map_left_iff, List.forall₂_same]
    intro m _
    simp [unescape_escape]
  have hvalues : names.mapM (fun name => member? name (names.zip values)) =
      some (values.map some) := by
    refine mapM_eq_some ?_
    rw [List.forall₂_map_right_iff, List.forall₂_iff_zip]
    exact ⟨hlength, fun hmem => member?_zip hnodup hmem⟩
  simp [fields?, ofRecord, ofMembers, hmembers, hvalues]

/-- A field is read or has its default, and what holds of both holds of it. -/
theorem field?_induction {α : Type} {read : Json → Option α} {default result : α}
    {field : Option Json} {P : α → Prop} (h : field? read default field = some result)
    (hdefault : P default) (hread : ∀ v r, read v = some r → P r) : P result := by
  cases field with
  | none => exact Option.some.inj h ▸ hdefault
  | some value => exact hread value result h

theorem field?_toSize?_lt {default n : Nat} {field : Option Json}
    (h : field? toSize? default field = some n) (hdefault : default < UInt64.size) :
    n < UInt64.size :=
  field?_induction (P := (· < UInt64.size)) h hdefault fun _ _ => toSize?_lt

theorem field?_toNat?_le {max default n : Nat} {field : Option Json}
    (h : field? (toNat? max) default field = some n) (hdefault : default ≤ max) : n ≤ max :=
  field?_induction (P := (· ≤ max)) h hdefault fun _ _ => toNat?_le

end LinkStack.Json
