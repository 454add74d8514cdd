import Mathlib.Data.Nat.Digits.Defs
import Mathlib.Data.List.Basic
import Mathlib.Data.List.TakeWhile
import LinkStack.Text.Hex

/-!
The digits of a number, in base ten and in base sixteen: what reads them back,
how many there are, and that a number is written in one way (`Numeral.unique`).
-/

namespace LinkStack.Text

/-- A stretch of characters of one kind ends where another kind begins. -/
theorem span_append {p : Char → Bool} {chars rest : List Char} (h : ∀ c ∈ chars, p c)
    (hrest : ∀ c ∈ rest.head?, p c = false) :
    (chars ++ rest).takeWhile p = chars ∧ (chars ++ rest).dropWhile p = rest := by
  rw [List.takeWhile_append_of_pos h, List.dropWhile_append_of_pos h]
  cases rest with
  | nil => simp
  | cons c rest => simp [hrest c rfl]

/-- Only zero itself is written with a zero in front. -/
theorem head?_toDigits {b n : Nat} (hb : 1 < b) (hn : n ≠ 0) :
    (Nat.toDigits b n).head? ≠ some '0' := by
  induction n using Nat.strong_induction_on with
  | _ n ih =>
    rw [Nat.toDigits_eq_if hb]
    split
    · simpa [Nat.digitChar_eq_zero] using hn
    · rename_i hbig
      have hquotient : n / b ≠ 0 := by
        rw [Nat.div_ne_zero_iff]
        omega
      rw [List.head?_append_of_ne_nil _ Nat.toDigits_ne_nil]
      exact ih (n / b) (Nat.div_lt_self (by omega) hb) hquotient

theorem toDigits_zero {b : Nat} (hb : 1 < b) : Nat.toDigits b 0 = ['0'] := by
  rw [Nat.toDigits_of_lt_base (by omega)]
  rfl

/-! ### Base ten -/

theorem isDigit_decimal {n : Nat} : ∀ c ∈ Nat.toDigits 10 n, c.isDigit :=
  fun _ hc => Nat.isDigit_of_mem_toDigits (by decide) (by decide) hc

theorem foldl_decimal (n : Nat) :
    (Nat.toDigits 10 n).foldl (fun n d => 10 * n + (d.toNat - '0'.toNat)) 0 = n := by
  rw [← Nat.ofDigitChars_eq_foldl, Nat.ofDigitChars_ten_toDigits]

/-! ### Base sixteen -/

namespace Hex

theorem value?_digitChar : ∀ d < 16, value? (Nat.digitChar d) = some d := by decide

theorem digits_eq (n : Nat) :
    digits n = if n < 16 then [Nat.digitChar n]
      else digits (n / 16) ++ [Nat.digitChar (n % 16)] :=
  Nat.toDigits_eq_if (by decide)

/-- The digits stand for values, and these add up to the number. -/
theorem values_digits (n : Nat) :
    (∀ c ∈ digits n, (value? c).isSome) ∧
      ((digits n).filterMap value?).foldl (fun n d => 16 * n + d) 0 = n := by
  induction n using Nat.strong_induction_on with
  | _ n ih =>
    rw [digits_eq]
    split
    · rename_i hsmall
      simp [value?_digitChar n hsmall]
    · rename_i hbig
      have hlast := value?_digitChar (n % 16) (Nat.mod_lt _ (by decide))
      obtain ⟨hvalues, hfold⟩ := ih (n / 16) (by omega)
      refine ⟨fun c hc => ?_, ?_⟩
      · rcases List.mem_append.mp hc with hc | hc
        · exact hvalues c hc
        · rw [List.mem_singleton.mp hc, hlast]
          rfl
      · simp only [List.filterMap_append, List.filterMap_cons, hlast, List.filterMap_nil,
          List.foldl_append, hfold, List.foldl_cons, List.foldl_nil]
        omega

theorem digits_ne_nil (n : Nat) : digits n ≠ [] := Nat.toDigits_ne_nil

theorem length_digits_le {n : Nat} (h : n < 2 ^ 16) : (digits n).length ≤ 4 :=
  (Nat.length_toDigits_le_iff (by decide) (by decide)).mpr h

end Hex

/-! ### Numerals -/

/-- The digits of base ten. -/
def decimalDigits : List Char := "0123456789".toList

/-- The digits of base sixteen, in one of the two cases. -/
def Hex.alphabet (upper : Bool) : List Char :=
  if upper then "0123456789ABCDEF".toList else "0123456789abcdef".toList

/-- A number is written in the digits of an alphabet, the most significant one first and without
zeros in front of others. -/
inductive Numeral (alphabet : List Char) : Nat → List Char → Prop
  | single {d : Nat} {c : Char} : alphabet[d]? = some c → Numeral alphabet d [c]
  | concat {n d : Nat} {c : Char} {chars : List Char} : 0 < n → Numeral alphabet n chars →
      alphabet[d]? = some c → Numeral alphabet (alphabet.length * n + d) (chars ++ [c])

namespace Numeral

variable {alphabet : List Char} {n : Nat}

/-- A number is written in one way. -/
theorem unique {chars chars' : List Char} (h : Numeral alphabet n chars)
    (h' : Numeral alphabet n chars') : chars = chars' := by
  induction h generalizing chars' with
  | single hc =>
      have hlt := (List.getElem?_eq_some_iff.mp hc).1
      cases h' with
      | single hc' =>
          rw [hc] at hc'
          rw [Option.some.inj hc']
      | @concat n' d' _ _ hn' _ _ =>
          -- two digits stand for no less than the base
          have := Nat.le_mul_of_pos_right alphabet.length hn'
          omega
  | @concat n d c chars hn _ hc ih =>
      have hlt := (List.getElem?_eq_some_iff.mp hc).1
      generalize hm : alphabet.length * n + d = m at h'
      cases h' with
      | single hc' =>
          have hlt' := (List.getElem?_eq_some_iff.mp hc').1
          have := Nat.le_mul_of_pos_right alphabet.length hn
          omega
      | @concat n' d' c' chars' hn' h' hc' =>
          have hlt' := (List.getElem?_eq_some_iff.mp hc').1
          have hpos : 0 < alphabet.length := by omega
          have hquotient : n = n' := by
            have := congrArg (· / alphabet.length) hm
            simpa [Nat.mul_add_div hpos, Nat.div_eq_of_lt hlt, Nat.div_eq_of_lt hlt'] using this
          subst hquotient
          have hdigit : d = d' := by omega
          subst hdigit
          rw [hc] at hc'
          rw [ih h', Option.some.inj hc']

theorem toDigits {spell : Char → Char} (hbase : 1 < alphabet.length)
    (hspell : ∀ d < alphabet.length, alphabet[d]? = some (spell (Nat.digitChar d))) (n : Nat) :
    Numeral alphabet n ((Nat.toDigits alphabet.length n).map spell) := by
  induction n using Nat.strong_induction_on with
  | _ n ih =>
      rw [Nat.toDigits_eq_if hbase]
      split
      · rename_i hsmall
        exact .single (hspell n hsmall)
      · rename_i hbig
        have hquotient : 0 < n / alphabet.length := Nat.div_pos (by omega) (by omega)
        have hlast := hspell (n % alphabet.length) (Nat.mod_lt _ (by omega))
        have hrest := ih (n / alphabet.length) (Nat.div_lt_self (by omega) hbase)
        rw [List.map_append, List.map_cons, List.map_nil]
        have h := concat hquotient hrest hlast
        rwa [Nat.div_add_mod] at h

theorem toString (n : Nat) : Numeral decimalDigits n (ToString.toString n).toList := by
  have h : Numeral decimalDigits n ((Nat.toDigits 10 n).map id) :=
    toDigits (by decide) (by decide) n
  rw [List.map_id] at h
  rwa [Nat.toString_eq_ofList_toDigits, String.toList_ofList]

theorem hex_lower (n : Nat) : Numeral (Hex.alphabet false) n (Hex.lower n).toList := by
  have h : Numeral (Hex.alphabet false) n ((Nat.toDigits 16 n).map id) :=
    toDigits (by decide) (by decide) n
  rw [List.map_id] at h
  rwa [Hex.lower, String.toList_ofList]

theorem hex_upper (n : Nat) : Numeral (Hex.alphabet true) n (Hex.upper n).toList := by
  have h : Numeral (Hex.alphabet true) n ((Nat.toDigits 16 n).map Char.toUpper) :=
    toDigits (by decide) (by decide) n
  rwa [Hex.upper, String.toList_ofList]

end Numeral

end LinkStack.Text
