import LinkStack.Json.Token
import LinkStack.Proofs.Text.Digits

/-!
What the writer puts between quotes, the reader takes off again: as a spelling
when it cuts a text into tokens, and as a text when the string is used.
-/

namespace LinkStack.Json

/-- Control characters have four digits, which spell them. -/
theorem unit?_padded : ∀ n < 0x20, ∃ a b c d,
    (Text.Hex.padded 4 n).toList = [a, b, c, d] ∧ unit? a b c d = some n := by
  intro n hn
  have hdigits := Text.Hex.digits_eq n
  have hzero := Text.Hex.value?_digitChar 0 (by decide)
  split at hdigits
  · rename_i hsmall
    refine ⟨'0', '0', '0', Nat.digitChar n, by simp [Text.Hex.padded, hdigits, List.replicate], ?_⟩
    simp [unit?, Text.Hex.value?_digitChar n hsmall, show Text.Hex.value? '0' = some 0 from hzero]
  · rename_i hbig
    have hone : n / 16 = 1 := by omega
    have hlast := Text.Hex.value?_digitChar (n % 16) (Nat.mod_lt _ (by decide))
    have hfirst : Text.Hex.digits 1 = ['1'] := rfl
    rw [hone, hfirst] at hdigits
    refine ⟨'0', '0', '1', Nat.digitChar (n % 16),
      by simp [Text.Hex.padded, hdigits, List.replicate], ?_⟩
    simp only [unit?, show Text.Hex.value? '0' = some 0 from hzero,
      show Text.Hex.value? '1' = some 1 from Text.Hex.value?_digitChar 1 (by decide), hlast]
    simp
    omega

/-- A character between quotes is a short escape, a unit, or itself. -/
theorem escapeChar_cases (c : Char) :
    (∃ e, escapeChar c = ['\\', e] ∧ shortEscape? e = some c) ∨
      (∃ x y z w, escapeChar c = ['\\', 'u', x, y, z, w] ∧ unit? x y z w = some c.toNat ∧
        c.toNat < 0x20) ∨
      (escapeChar c = [c] ∧ 0x20 ≤ c.toNat ∧ c ≠ '"' ∧ c ≠ '\\') := by
  unfold escapeChar
  split
  · rename_i h
    exact .inl ⟨c, rfl, by rcases h with rfl | rfl <;> rfl⟩
  rename_i hquote
  split
  · exact .inl ⟨'b', rfl, by simp_all [shortEscape?]⟩
  split
  · exact .inl ⟨'f', rfl, by simp_all [shortEscape?]⟩
  split
  · exact .inl ⟨'n', rfl, by simp_all [shortEscape?]⟩
  split
  · exact .inl ⟨'r', rfl, by simp_all [shortEscape?]⟩
  split
  · exact .inl ⟨'t', rfl, by simp_all [shortEscape?]⟩
  split
  · rename_i hcontrol
    obtain ⟨x, y, z, w, hdigits, hunit⟩ := unit?_padded c.toNat hcontrol
    exact .inr (.inl ⟨x, y, z, w, by rw [hdigits], hunit, hcontrol⟩)
  · rename_i hprintable
    push Not at hquote
    exact .inr (.inr ⟨rfl, by omega, hquote⟩)

/-- A character is read off the front of the rest of a string. -/
theorem readString_escapeChar (c : Char) (rest : List Char) :
    readString (escapeChar c ++ rest) =
      (readString rest).map fun (raw, rest) => (escapeChar c ++ raw, rest) := by
  rcases escapeChar_cases c with ⟨e, he, hshort⟩ | ⟨x, y, z, w, he, hunit, -⟩ |
    ⟨he, hprintable, hquote, hslash⟩
  · have hu : e ≠ 'u' := by rintro rfl; cases hshort
    rw [he]
    simp only [List.cons_append, List.nil_append]
    rw [readString, hshort]
    · cases readString rest <;> rfl
    · exact fun _ _ _ _ _ h => absurd h hu
  · rw [he]
    simp only [List.cons_append, List.nil_append, readString, hunit]
    cases readString rest <;> rfl
  · rw [he]
    simp only [List.cons_append, List.nil_append]
    rw [readString, if_neg (by grind)]
    · exact hquote
    · exact fun _ _ _ _ _ h => absurd h hslash
    · exact fun _ _ h => absurd h hslash

/-- The closing quote ends the spelling of a text. -/
theorem readString_escape (text rest : List Char) :
    readString (escape text ++ '"' :: rest) = some (escape text, rest) := by
  induction text with
  | nil => rfl
  | cons c text ih =>
    rw [escape, List.flatMap_cons, List.append_assoc, readString_escapeChar, ← escape, ih]
    rfl

/-- A unit that stands for a character stands alone, whatever follows it. -/
theorem unescape_unit {x y z w : Char} {n : Nat} (hunit : unit? x y z w = some n)
    (hn : n < 0xD800) (rest : List Char) :
    unescape ('\\' :: 'u' :: x :: y :: z :: w :: rest) =
      (unescape rest).map (Char.ofNat n :: ·) := by
  have hhigh : isHighSurrogate n = false := by simp [isHighSurrogate]; omega
  have hlow : isLowSurrogate n = false := by simp [isLowSurrogate]; omega
  rw [unescape.eq_def]
  split <;> rename_i heq <;> simp only [List.cons.injEq, reduceCtorEq] at heq
  · obtain ⟨-, -, rfl, rfl, rfl, rfl, rfl⟩ := heq
    simp [hunit, hhigh, hlow, Option.map_eq_bind]
  · obtain ⟨-, -, rfl, rfl, rfl, rfl, rfl⟩ := heq
    simp [hunit, hhigh, hlow, Option.map_eq_bind]
  · rename_i hpair hsingle
    exact absurd heq.2.2 (by grind)
  · grind

theorem unescape_escapeChar (c : Char) (rest : List Char) :
    unescape (escapeChar c ++ rest) = (unescape rest).map (c :: ·) := by
  rcases escapeChar_cases c with ⟨e, he, hshort⟩ | ⟨x, y, z, w, he, hunit, hcontrol⟩ |
    ⟨he, hprintable, hquote, hslash⟩
  · have hu : e ≠ 'u' := by rintro rfl; cases hshort
    rw [he]
    simp only [List.cons_append, List.nil_append]
    rw [unescape, hshort]
    · cases unescape rest <;> rfl
    · exact fun _ _ _ _ _ _ _ _ _ h => absurd h hu
    · exact fun _ _ _ _ _ h => absurd h hu
  · rw [he]
    simp only [List.cons_append, List.nil_append]
    rw [unescape_unit hunit (by omega), Char.ofNat_toNat]
  · rw [he]
    simp only [List.cons_append, List.nil_append]
    rw [unescape]
    · cases unescape rest <;> rfl
    · exact fun _ _ _ _ _ _ _ _ _ h => absurd h hslash
    · exact fun _ _ _ _ _ h => absurd h hslash
    · exact fun _ _ h => absurd h hslash

/-- The text of a spelling is the text that was spelled. -/
theorem unescape_escape (text : List Char) : unescape (escape text) = some text := by
  induction text with
  | nil => simp [escape, unescape]
  | cons c text ih =>
    rw [escape, List.flatMap_cons, unescape_escapeChar, ← escape, ih]
    rfl

end LinkStack.Json
