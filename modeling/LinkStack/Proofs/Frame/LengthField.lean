import Mathlib.Algebra.Group.Nat.Defs
import LinkStack.Frame.Mode

/-!
The grammar of length fields, apart from their reader and their writer.

`LengthField mode field n` says that the bytes `field` are a length field of
the mode and hold `n`. The reader finds a field exactly when one stands at the
front of its input (`readLength_eq_some_iff`), and it asks for more exactly
when the input is the proper beginning of one (`readLength_of_beginning`,
`exists_completion`). What the writer writes is a field with its number
(`lengthField_lengthField`); in a compact frame it is not the only one.
-/

namespace LinkStack.Frame

/-- Groups of seven bits, low groups first, at most as many as given. Every
group but the last has its top bit set. -/
inductive Groups : Nat → Bytes → Nat → Prop
  | last {more : Nat} {b : UInt8} (h : b < 0x80) : Groups (more + 1) [b] b.toNat
  | cons {more : Nat} {b : UInt8} {rest : Bytes} {n : Nat} (h : 0x80 ≤ b)
      (tail : Groups more rest n) : Groups (more + 1) (b :: rest) (b.toNat % 128 + 128 * n)

/-- The length fields of a mode and the numbers they hold. -/
inductive LengthField : Mode → Bytes → Nat → Prop
  | short {b : UInt8} (h : b < 0x40) : LengthField .short [b] b.toNat
  | compact {b : UInt8} (h : 0x80 ≤ b) (single : b < 0xC0) :
      LengthField .compact [b] (b.toNat % 64)
  | compactMore {b : UInt8} {groups : Bytes} {n : Nat} (h : 0xC0 ≤ b)
      (tail : Groups maxGroups groups n) :
      LengthField .compact (b :: groups) (b.toNat % 64 + 64 * n)

/-! ### The reader -/

section Mapped

variable {ε α β : Type} {r : Except ε (Option α)} {f : α → β}

theorem map_map_eq_some_iff {y : β} :
    r.map (Option.map f) = .ok (some y) ↔ ∃ x, r = .ok (some x) ∧ f x = y := by
  cases r with
  | error e => simp [Except.map]
  | ok found => cases found <;> simp [Except.map]

theorem map_map_eq_none_iff : r.map (Option.map f) = .ok none ↔ r = .ok none := by
  cases r with
  | error e => simp [Except.map]
  | ok found => cases found <;> simp [Except.map]

end Mapped

/-- The flag that says whether groups follow, as a comparison. -/
theorem and_more_eq_zero_iff {b : UInt8} (h : 0x80 ≤ b) : b &&& 0x40 = 0 ↔ b < 0xC0 := by
  have small : ∀ i : Fin 256, 128 ≤ i.val → (i.val &&& 64 = 0 ↔ i.val < 192) := by
    decide +kernel
  have hb := small ⟨b.toNat, b.toNat_lt⟩ (UInt8.le_iff_toNat_le.mp h)
  rw [← UInt8.toNat_inj, UInt8.toNat_and, UInt8.lt_iff_toNat_lt]
  exact hb

theorem readGroups_append {more : Nat} {groups : Bytes} {n : Nat} (h : Groups more groups n)
    (previous : UInt8) (rest : Bytes) :
    readGroups more previous (groups ++ rest) = .ok (some (n, groups.length)) := by
  induction h generalizing previous with
  | last h => simp [readGroups, h]
  | cons h tail ih =>
      rename_i b _ _
      rw [List.cons_append, readGroups, if_neg (UInt8.not_lt.mpr h), ih b]
      rfl

theorem exists_groups_of_readGroups {more : Nat} {previous : UInt8} {src : Bytes} {n count : Nat}
    (h : readGroups more previous src = .ok (some (n, count))) :
    ∃ groups rest, src = groups ++ rest ∧ groups.length = count ∧ Groups more groups n := by
  induction more generalizing previous src n count with
  | zero => simp [readGroups] at h
  | succ more ih =>
      cases src with
      | nil => simp [readGroups] at h
      | cons b src =>
          rw [readGroups] at h
          split at h
          · rename_i hb
            simp only [Except.ok.injEq, Option.some.injEq, Prod.mk.injEq] at h
            obtain ⟨rfl, rfl⟩ := h
            exact ⟨[b], src, rfl, rfl, .last hb⟩
          · rename_i hb
            obtain ⟨⟨m, k⟩, hread, hfound⟩ := map_map_eq_some_iff.mp h
            simp only [Prod.mk.injEq] at hfound
            obtain ⟨rfl, rfl⟩ := hfound
            obtain ⟨groups, rest, rfl, rfl, hgroups⟩ := ih hread
            exact ⟨b :: groups, rest, rfl, rfl, .cons (UInt8.not_lt.mp hb) hgroups⟩

/-- A field at the front of a string is what the reader finds. -/
theorem readLength_append {mode : Mode} {field : Bytes} {n : Nat} (h : LengthField mode field n)
    (rest : Bytes) : mode.readLength (field ++ rest) = .ok (some (n, field.length)) := by
  cases h with
  | short h => simp [Mode.readLength, h]
  | compact h single =>
      simp [Mode.readLength, UInt8.not_lt.mpr h, (and_more_eq_zero_iff h).mpr single]
  | compactMore h tail =>
      have hb : (0x80 : UInt8) ≤ _ := UInt8.le_trans (by decide) h
      have hmore := mt (and_more_eq_zero_iff hb).mp (UInt8.not_lt.mpr h)
      rw [List.cons_append, Mode.readLength, if_neg (UInt8.not_lt.mpr hb), if_neg hmore,
        readGroups_append tail]
      rfl

/-- The reader finds a length field exactly when one stands at the front. -/
theorem readLength_eq_some_iff {mode : Mode} {src : Bytes} {n size : Nat} :
    mode.readLength src = .ok (some (n, size)) ↔
      ∃ field rest, src = field ++ rest ∧ field.length = size ∧ LengthField mode field n := by
  constructor
  · intro h
    cases src with
    | nil => cases mode <;> simp [Mode.readLength] at h
    | cons b src =>
        cases mode with
        | short =>
            rw [Mode.readLength] at h
            split at h
            · rename_i hb
              simp only [Except.ok.injEq, Option.some.injEq, Prod.mk.injEq] at h
              obtain ⟨rfl, rfl⟩ := h
              exact ⟨[b], src, rfl, rfl, .short hb⟩
            · simp at h
        | compact =>
            rw [Mode.readLength] at h
            split at h
            · simp at h
            · rename_i hb
              replace hb := UInt8.not_lt.mp hb
              split at h
              · rename_i hmore
                simp only [Except.ok.injEq, Option.some.injEq, Prod.mk.injEq] at h
                obtain ⟨rfl, rfl⟩ := h
                exact ⟨[b], src, rfl, rfl, .compact hb ((and_more_eq_zero_iff hb).mp hmore)⟩
              · rename_i hmore
                replace hmore := UInt8.not_lt.mp (mt (and_more_eq_zero_iff hb).mpr hmore)
                obtain ⟨⟨m, k⟩, hread, hfound⟩ := map_map_eq_some_iff.mp h
                simp only [Prod.mk.injEq] at hfound
                obtain ⟨rfl, rfl⟩ := hfound
                obtain ⟨groups, rest, rfl, rfl, hgroups⟩ := exists_groups_of_readGroups hread
                exact ⟨b :: groups, rest, rfl, rfl, .compactMore hmore hgroups⟩
  · rintro ⟨field, rest, rfl, rfl, h⟩
    exact readLength_append h rest

/-! ### Fields that end too early -/

theorem readGroups_of_beginning {more : Nat} {part ext : Bytes} {n : Nat}
    (h : Groups more (part ++ ext) n) (hext : ext ≠ []) (previous : UInt8) :
    readGroups more previous part = .ok none := by
  induction more generalizing part n previous with
  | zero => cases h
  | succ more ih =>
      cases part with
      | nil => rfl
      | cons b part =>
          cases hwhole : part ++ ext with
          | nil => exact absurd (List.append_eq_nil_iff.mp hwhole).2 hext
          | cons b' rest =>
              rw [List.cons_append, hwhole] at h
              cases h with
              | cons hb tail =>
                  rw [← hwhole] at tail
                  rw [readGroups, if_neg (UInt8.not_lt.mpr hb), ih tail b]
                  rfl

/-- In front of the proper beginning of a field the reader asks for more. -/
theorem readLength_of_beginning {mode : Mode} {part ext : Bytes} {n : Nat}
    (h : LengthField mode (part ++ ext) n) (hext : ext ≠ []) :
    mode.readLength part = .ok none := by
  cases part with
  | nil => rfl
  | cons b part =>
      cases hwhole : part ++ ext with
      | nil => exact absurd (List.append_eq_nil_iff.mp hwhole).2 hext
      | cons b' rest =>
          rw [List.cons_append, hwhole] at h
          cases h with
          | compactMore hb tail =>
              rw [← hwhole] at tail
              have hflag : (0x80 : UInt8) ≤ b := UInt8.le_trans (by decide) hb
              have hmore := mt (and_more_eq_zero_iff hflag).mp (UInt8.not_lt.mpr hb)
              rw [Mode.readLength, if_neg (UInt8.not_lt.mpr hflag), if_neg hmore,
                readGroups_of_beginning tail hext]
              rfl

theorem exists_groups_completion {more : Nat} {previous : UInt8} {src : Bytes}
    (h : readGroups more previous src = .ok none) :
    ∃ n, Groups more (src ++ [0]) n ∧ n < 128 ^ src.length ∧ src.length < more := by
  induction more generalizing previous src with
  | zero => simp [readGroups] at h
  | succ more ih =>
      cases src with
      | nil => exact ⟨0, .last (by decide), by simp, by simp⟩
      | cons b src =>
          rw [readGroups] at h
          split at h
          · simp at h
          · rename_i hb
            obtain ⟨n, hgroups, hn, hlen⟩ := ih (map_map_eq_none_iff.mp h)
            refine ⟨_, .cons (UInt8.not_lt.mp hb) hgroups, ?_, by simpa using hlen⟩
            rw [List.length_cons, Nat.pow_succ]
            omega

/-- Where the reader asks for more, a field can be completed, and with a number
that the mode carries. -/
theorem exists_completion {mode : Mode} {src : Bytes} (h : mode.readLength src = .ok none) :
    ∃ ext n, ext ≠ [] ∧ LengthField mode (src ++ ext) n ∧ n < mode.ceiling := by
  cases src with
  | nil =>
      cases mode with
      | short => exact ⟨[0], 0, by simp, .short (by decide), by decide⟩
      | compact => exact ⟨[0x80], 0, by simp, .compact (by decide) (by decide), by decide⟩
  | cons b src =>
      cases mode with
      | short =>
          rw [Mode.readLength] at h
          split at h <;> simp at h
      | compact =>
          rw [Mode.readLength] at h
          split at h
          · simp at h
          · rename_i hb
            replace hb := UInt8.not_lt.mp hb
            split at h
            · simp at h
            · rename_i hmore
              replace hmore := UInt8.not_lt.mp (mt (and_more_eq_zero_iff hb).mpr hmore)
              obtain ⟨n, hgroups, hn, hlen⟩ :=
                exists_groups_completion (map_map_eq_none_iff.mp h)
              refine ⟨[0], _, by simp, .compactMore hmore hgroups, ?_⟩
              have hpow : 128 ^ src.length ≤ 128 ^ 1 :=
                Nat.pow_le_pow_right (by decide) (Nat.le_of_lt_succ hlen)
              have hmod := Nat.mod_lt b.toNat (show 0 < 64 by decide)
              simp only [Mode.ceiling]
              omega

/-! ### The writer -/

theorem toNat_byte {n : Nat} (h : n < 256) : (UInt8.ofNat n).toNat = n :=
  UInt8.toNat_ofNat_of_lt' h

theorem byte_lt {m n : Nat} (h : m < n) (hn : n < 256) : UInt8.ofNat m < UInt8.ofNat n := by
  rwa [UInt8.lt_iff_toNat_lt, toNat_byte (by omega), toNat_byte hn]

theorem byte_le {m n : Nat} (h : m ≤ n) (hn : n < 256) : UInt8.ofNat m ≤ UInt8.ofNat n := by
  rwa [UInt8.le_iff_toNat_le, toNat_byte (by omega), toNat_byte hn]

theorem groups_groups {more n : Nat} (h : n < 128 ^ (more + 1)) :
    Groups (more + 1) (groups n) n := by
  induction more generalizing n with
  | zero =>
      have hn : n < 128 := h
      rw [groups, if_pos hn]
      have hlast := @Groups.last 0 _ (byte_lt hn (by decide))
      rwa [toNat_byte (by omega)] at hlast
  | succ more ih =>
      rw [groups]
      split
      · rename_i hn
        have hlast := @Groups.last (more + 1) _ (byte_lt hn (by decide))
        rwa [toNat_byte (by omega)] at hlast
      · have hrest : n / 128 < 128 ^ (more + 1) :=
          Nat.div_lt_of_lt_mul (by rwa [Nat.pow_succ, Nat.mul_comm] at h)
        have hflag : UInt8.ofNat 128 ≤ UInt8.ofNat (128 + n % 128) :=
          byte_le (by omega) (by omega)
        have hcons := Groups.cons hflag (ih hrest)
        have hsum : (128 + n % 128) % 128 + 128 * (n / 128) = n := by omega
        rwa [toNat_byte (by omega), hsum] at hcons

/-- What the writer writes is a field with its number. -/
theorem lengthField_lengthField {mode : Mode} {n : Nat} (h : n < mode.ceiling) :
    LengthField mode (mode.lengthField n) n := by
  cases mode with
  | short =>
      have hn : n < 64 := h
      have hfield := LengthField.short (byte_lt hn (by decide))
      rwa [toNat_byte (by omega)] at hfield
  | compact =>
      have hn : n < 65536 := h
      rw [Mode.lengthField]
      split
      · rename_i hsmall
        have hflag : UInt8.ofNat 0x80 ≤ UInt8.ofNat (0x80 + n) :=
          byte_le (by omega) (by omega)
        have hsingle : UInt8.ofNat (0x80 + n) < UInt8.ofNat 0xC0 :=
          byte_lt (by omega) (by decide)
        have hfield := LengthField.compact hflag hsingle
        have hnum : (0x80 + n) % 64 = n := by omega
        rwa [toNat_byte (by omega), hnum] at hfield
      · have hflag : UInt8.ofNat 0xC0 ≤ UInt8.ofNat (0xC0 + n % 64) :=
          byte_le (by omega) (by omega)
        have hrest : n / 64 < 128 ^ (1 + 1) := by omega
        have hfield := LengthField.compactMore hflag (groups_groups hrest)
        have hnum : (0xC0 + n % 64) % 64 + 64 * (n / 64) = n := by omega
        rwa [toNat_byte (by omega), hnum] at hfield

theorem length_groups {n : Nat} (h : n ≠ 0) : (groups n).length = groupCount n := by
  induction n using groups.induct with
  | case1 n hn =>
      have hdiv : n / 128 = 0 := Nat.div_eq_of_lt hn
      rw [groups, if_pos hn, groupCount, if_neg h, hdiv, groupCount, if_pos rfl]
      rfl
  | case2 n hn ih =>
      have hdiv : n / 128 ≠ 0 := by omega
      rw [groups, if_neg hn, groupCount, if_neg h, List.length_cons, ih hdiv, Nat.add_comm]

/-- The sizes that a writer reserves are the sizes it writes. -/
theorem length_lengthField (mode : Mode) (n : Nat) :
    (mode.lengthField n).length = mode.lengthSize (n + 1) := by
  cases mode with
  | short => rfl
  | compact =>
      rw [Mode.lengthField, Mode.lengthSize, Nat.add_sub_cancel]
      split
      · rename_i hn
        rw [Nat.div_eq_of_lt hn, groupCount]
        rfl
      · have hdiv : n / 64 ≠ 0 := by omega
        rw [List.length_cons, length_groups hdiv, Nat.add_comm]

theorem groupCount_le {m n : Nat} (h : m ≤ n) : groupCount m ≤ groupCount n := by
  induction n using groupCount.induct generalizing m with
  | case1 =>
      obtain rfl : m = 0 := Nat.le_zero.mp h
      exact Nat.le_refl _
  | case2 n hn ih =>
      rw [groupCount]
      split
      · exact Nat.zero_le _
      · rw [groupCount.eq_def n, if_neg hn]
        have := ih (Nat.div_le_div_right h)
        omega

/-- A frame adds no less to a longer body. -/
theorem Mode.overhead_le (mode : Mode) {size size' : Nat} (h : size ≤ size') :
    mode.overhead size ≤ mode.overhead size' := by
  have hlength : mode.lengthSize size ≤ mode.lengthSize size' := by
    cases mode with
    | short => exact Nat.le_refl _
    | compact =>
        have := groupCount_le (Nat.div_le_div_right (c := 64) (Nat.sub_le_sub_right h 1))
        simp only [Mode.lengthSize]
        omega
  simp only [Mode.overhead]
  omega

/-- A short frame has one length field for each number. -/
theorem LengthField.eq_lengthField {field : Bytes} {n : Nat} (h : LengthField .short field n) :
    field = Mode.short.lengthField n := by
  cases h with
  | short h => simp [Mode.lengthField]

end LinkStack.Frame
