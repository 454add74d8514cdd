import Mathlib.Data.List.Forall2
import LinkStack.Json.Value
import LinkStack.Proofs.Json.Escape

/-!
A document that is written over several lines reads as the value it was
written from.

The reading is followed in its two stages. A text is laid out (`Laid`) as the
spellings of tokens with blanks between them, and cutting it finds these
tokens; a value has its tokens (`tokens`), and putting them together finds the
value. A number ends only where a character follows that cannot continue it,
so what follows a token is part of the layout.
-/

namespace LinkStack.Json

/-! ### Tokens -/

/-- How a token is spelled. -/
def Token.text : Token → List Char
  | .leftBrace => ['\x7b']
  | .rightBrace => ['\x7d']
  | .leftBracket => ['[']
  | .rightBracket => [']']
  | .comma => [',']
  | .colon => [':']
  | .null => "null".toList
  | .bool value => (if value then "true" else "false").toList
  | .number digits => digits
  | .string raw => quoted raw

/-- Numbers are whole, and strings have their characters escaped. -/
def Token.Plain : Token → Prop
  | .number digits => ∃ n, digits = Nat.toDigits 10 n
  | .string raw => ∃ text, raw = escape text
  | _ => True

/-- What follows does not continue a number. -/
def Closing (rest : List Char) : Prop :=
  ∀ c ∈ rest.head?, c.isDigit = false ∧ c ≠ '.' ∧ c ≠ 'e' ∧ c ≠ 'E'

theorem Closing.isDigit {rest : List Char} (h : Closing rest) :
    ∀ c ∈ rest.head?, c.isDigit = false := fun c hc => (h c hc).1

theorem readWhole_decimal (n : Nat) {rest : List Char} (h : Closing rest) :
    readWhole (Nat.toDigits 10 n ++ rest) = some (Nat.toDigits 10 n, rest) := by
  rcases Nat.eq_zero_or_pos n with rfl | hn
  · rw [Text.toDigits_zero (by decide)]
    rfl
  · have hhead := Text.head?_toDigits (b := 10) (by decide) (Nat.ne_of_gt hn)
    obtain ⟨htake, hdrop⟩ := Text.span_append (Text.isDigit_decimal (n := n)) h.isDigit
    have hne : Nat.toDigits 10 n ≠ [] := Nat.toDigits_ne_nil
    have hzero (tail : List Char) : Nat.toDigits 10 n ++ rest ≠ '0' :: tail := fun htail =>
      hhead (by rw [← List.head?_append_of_ne_nil _ hne, htail, List.head?_cons])
    rw [readWhole, readDigits, htake, hdrop]
    · split
      · contradiction
      · rfl
    · exact hzero

theorem readFraction_closing {rest : List Char} (h : Closing rest) :
    readFraction rest = some ([], rest) := by
  unfold readFraction
  split
  · exact absurd rfl (h _ rfl).2.1
  · rfl

theorem readExponent_closing {rest : List Char} (h : Closing rest) :
    readExponent rest = some ([], rest) := by
  unfold readExponent
  split
  · exact absurd rfl (h _ rfl).2.2.1
  · exact absurd rfl (h _ rfl).2.2.2
  · rfl

/-- A whole number has a digit in front, which no other token has. -/
theorem readToken_number (n : Nat) {rest : List Char} (h : Closing rest) :
    readToken (Nat.toDigits 10 n ++ rest) = some (.number (Nat.toDigits 10 n), rest) := by
  obtain ⟨c, digits, hdigits⟩ := List.exists_cons_of_ne_nil (Nat.toDigits_ne_nil (n := n) (b := 10))
  have hc : c.isDigit := Text.isDigit_decimal c (by rw [hdigits]; exact List.mem_cons_self)
  have hmagnitude : readMagnitude (Nat.toDigits 10 n ++ rest) =
      some (Nat.toDigits 10 n, rest) := by
    simp [readMagnitude, readWhole_decimal n h, readFraction_closing h, readExponent_closing h]
  have hnumber : readNumber (Nat.toDigits 10 n ++ rest) = some (Nat.toDigits 10 n, rest) := by
    rw [← hmagnitude]
    unfold readNumber
    split
    · rename_i heq
      rw [hdigits] at heq
      cases heq
      cases hc
    · rfl
  have hfirst (other : Char) (hother : other.isDigit = false) (tail : List Char) :
      Nat.toDigits 10 n ++ rest ≠ other :: tail := by
    rw [hdigits]
    rintro heq
    cases heq
    rw [hc] at hother
    cases hother
  unfold readToken
  split <;> first
    | exact absurd ‹_› (hfirst _ rfl _)
    | rw [hnumber]; rfl

/-- The token in front of a text is read off it. -/
theorem readToken_text {t : Token} (ht : t.Plain) {rest : List Char} (h : Closing rest) :
    readToken (t.text ++ rest) = some (t, rest) := by
  cases t with
  | number digits =>
    obtain ⟨n, rfl⟩ := ht
    exact readToken_number n h
  | string raw =>
    obtain ⟨text, rfl⟩ := ht
    simp [Token.text, quoted, readToken, readString_escape]
  | bool value => cases value <;> rfl
  | _ => rfl

/-- The spelling of a token does not start with a blank. -/
theorem text_cons {t : Token} (ht : t.Plain) : ∃ c rest, t.text = c :: rest ∧ isBlank c = false := by
  cases t with
  | number digits =>
    obtain ⟨n, rfl⟩ := ht
    obtain ⟨c, digits, hdigits⟩ :=
      List.exists_cons_of_ne_nil (Nat.toDigits_ne_nil (n := n) (b := 10))
    have hc : c.isDigit := Text.isDigit_decimal c (by rw [hdigits]; exact List.mem_cons_self)
    refine ⟨c, digits, hdigits, ?_⟩
    by_contra hblank
    simp only [isBlank, Bool.not_eq_false, Bool.or_eq_true, decide_eq_true_eq] at hblank
    rcases hblank with ((rfl | rfl) | rfl) | rfl <;> cases hc
  | string raw => exact ⟨'"', raw ++ ['"'], rfl, rfl⟩
  | bool value => cases value <;> exact ⟨_, _, rfl, rfl⟩
  | _ => exact ⟨_, _, rfl, rfl⟩

/-! ### Layouts -/

/-- A text is laid out as tokens with blanks between them. -/
inductive Laid : List Char → List Token → Prop
  | nil : Laid [] []
  | blank {text : List Char} {ts : List Token} {c : Char} (hc : isBlank c) (h : Laid text ts) :
      Laid (c :: text) ts
  | token {text : List Char} {ts : List Token} {t : Token} (ht : t.Plain) (hclosing : Closing text)
      (h : Laid text ts) : Laid (t.text ++ text) (t :: ts)

namespace Laid

variable {text : List Char} {ts : List Token}

theorem blanks (blanks : List Char) (hblanks : ∀ c ∈ blanks, isBlank c) (h : Laid text ts) :
    Laid (blanks ++ text) ts := by
  induction blanks with
  | nil => exact h
  | cons c blanks ih =>
    exact .blank (hblanks c List.mem_cons_self) (ih fun c hc => hblanks c (List.mem_cons_of_mem _ hc))

theorem length_le (h : Laid text ts) : ts.length ≤ text.length := by
  induction h with
  | nil => exact le_rfl
  | blank _ _ ih => exact Nat.le_succ_of_le ih
  | token ht _ _ ih =>
    obtain ⟨c, rest, htext, -⟩ := text_cons ht
    simp only [htext, List.length_cons, List.length_append]
    omega

/-- Cutting a text finds the tokens it is laid out of, in as many turns as
there are tokens and one for the end. -/
theorem readTokens (h : Laid text ts) {turns : Nat} (hturns : ts.length < turns) :
    readTokens turns text = some ts := by
  induction h generalizing turns with
  | nil =>
    obtain ⟨turns, rfl⟩ := Nat.exists_eq_succ_of_ne_zero (Nat.ne_zero_of_lt hturns)
    rfl
  | blank hc _ ih =>
    obtain ⟨turns, rfl⟩ := Nat.exists_eq_succ_of_ne_zero (Nat.ne_zero_of_lt hturns)
    rw [← ih hturns]
    simp only [Json.readTokens, List.dropWhile_cons, hc, if_true]
  | @token text ts t ht hclosing _ ih =>
    obtain ⟨turns, rfl⟩ := Nat.exists_eq_succ_of_ne_zero (Nat.ne_zero_of_lt hturns)
    obtain ⟨c, rest, htext, hc⟩ := text_cons ht
    have hdrop : (t.text ++ text).dropWhile isBlank = t.text ++ text := by
      rw [htext, List.cons_append, List.dropWhile_cons, hc]
      rfl
    have hrest := ih (Nat.lt_of_succ_lt_succ hturns)
    rw [Json.readTokens, hdrop]
    split
    · rename_i hnil
      rw [htext] at hnil
      cases hnil
    · simp [readToken_text ht hclosing, hrest]

end Laid

theorem tokens?_of_laid {text : List Char} {ts : List Token} (h : Laid text ts) :
    tokens? (String.ofList text) = some ts := by
  rw [tokens?, String.toList_ofList]
  exact h.readTokens (Nat.lt_succ_of_le h.length_le)

/-! ### Values -/

/-- Tokens with commas between them. -/
def joined : List (List Token) → List Token
  | [] => []
  | [ts] => ts
  | ts :: rest => ts ++ .comma :: joined rest

mutual

/-- The tokens of a value. -/
def tokens : Json → List Token
  | .null => [.null]
  | .bool value => [.bool value]
  | .number digits => [.number digits]
  | .string raw => [.string raw]
  | .array items => .leftBracket :: joined (itemTokens items) ++ [.rightBracket]
  | .object members => .leftBrace :: joined (memberTokens members) ++ [.rightBrace]

def itemTokens : List Json → List (List Token)
  | [] => []
  | item :: rest => tokens item :: itemTokens rest

def memberTokens : List (List Char × Json) → List (List Token)
  | [] => []
  | (key, value) :: rest => (.string key :: .colon :: tokens value) :: memberTokens rest

end

theorem itemTokens_eq_map (items : List Json) : itemTokens items = items.map tokens := by
  induction items with
  | nil => rfl
  | cons item rest ih => rw [itemTokens, ih, List.map_cons]

theorem memberTokens_eq_map (members : List (List Char × Json)) :
    memberTokens members = members.map fun m => .string m.1 :: .colon :: tokens m.2 := by
  induction members with
  | nil => rfl
  | cons member rest ih => rw [memberTokens, ih, List.map_cons]

theorem prettyItems_eq_map (depth : Nat) (items : List Json) :
    prettyItems depth items = items.map (pretty depth) := by
  induction items with
  | nil => rfl
  | cons item rest ih => rw [prettyItems, ih, List.map_cons]

theorem prettyMembers_eq_map (depth : Nat) (members : List (List Char × Json)) :
    prettyMembers depth members =
      members.map fun m => quoted m.1 ++ ':' :: ' ' :: pretty depth m.2 := by
  induction members with
  | nil => rfl
  | cons member rest ih => rw [prettyMembers, ih, List.map_cons]

/-- A value in which numbers are whole and strings have their characters
escaped. -/
inductive Plain : Json → Prop
  | null : Plain .null
  | bool (value : Bool) : Plain (.bool value)
  | number (n : Nat) : Plain (ofNat n)
  | string (text : List Char) : Plain (.string (escape text))
  | array {items : List Json} (hitems : ∀ item ∈ items, Plain item) : Plain (.array items)
  | object {members : List (List Char × Json)} (hkeys : ∀ m ∈ members, ∃ text, m.1 = escape text)
      (hvalues : ∀ m ∈ members, Plain m.2) : Plain (.object members)

/-! ### Writing lays out the tokens of a value -/

/-- A text lays out tokens in front of whatever may follow them. -/
def Lays (text : List Char) (ts : List Token) : Prop :=
  ∀ {rest : List Char} {ts' : List Token}, Closing rest → Laid rest ts' →
    Laid (text ++ rest) (ts ++ ts')

/-- Blanks and punctuation do not continue a number. -/
theorem closing_cons {c : Char} (hc : c ∈ [' ', '\n', ',', ':', ']', '\x7d'])
    (rest : List Char) : Closing (c :: rest) := by
  intro d hd
  cases hd
  simp only [List.mem_cons, List.not_mem_nil, or_false] at hc
  rcases hc with rfl | rfl | rfl | rfl | rfl | rfl <;> decide

theorem Lays.single {t : Token} (ht : t.Plain) : Lays t.text [t] :=
  fun hclosing h => .token ht hclosing h

theorem laid_newline (depth : Nat) {text : List Char} {ts : List Token} (h : Laid text ts) :
    Laid (newline depth ++ text) ts := by
  refine Laid.blanks _ (fun c hc => ?_) h
  rcases List.mem_cons.mp hc with rfl | hc
  · rfl
  · rw [List.eq_of_mem_replicate hc]
    rfl

theorem closing_newline (depth : Nat) (rest : List Char) : Closing (newline depth ++ rest) :=
  closing_cons (by decide) _

theorem lays_separated (depth : Nat) {texts : List (List Char)} {tss : List (List Token)}
    (h : List.Forall₂ Lays texts tss) :
    Lays (separated (',' :: newline depth) texts) (joined tss) := by
  intro rest ts' hclosing hrest
  induction h with
  | nil => exact hrest
  | @cons text ts texts tss hfirst hothers ih =>
    cases hothers with
    | nil => exact hfirst hclosing hrest
    | cons hsecond hothers =>
      have hcomma := Laid.token (t := .comma) trivial (closing_newline depth _) (laid_newline depth ih)
      simpa [separated, joined, Token.text] using hfirst (closing_cons (by decide) _) hcomma

/-- Brackets around texts lay out brackets around their tokens. -/
theorem lays_indented (opening closing : Token) {o c : Char} (ho : opening.text = [o])
    (hc : closing.text = [c]) (hopening : opening.Plain) (hclosing : closing.Plain)
    (hend : c ∈ [' ', '\n', ',', ':', ']', '\x7d']) {depth : Nat} {texts : List (List Char)}
    {tss : List (List Token)} (h : List.Forall₂ Lays texts tss) :
    Lays (indented o c depth texts) (opening :: joined tss ++ [closing]) := by
  intro rest ts' hrest hlaid
  have hlast : Laid (c :: rest) (closing :: ts') := by
    simpa [hc] using Laid.token hclosing hrest hlaid
  cases h with
  | nil => simpa [indented, joined, ho] using Laid.token hopening (closing_cons hend _) hlast
  | cons hfirst hothers =>
    have hinside := lays_separated (depth + 1) (.cons hfirst hothers)
      (closing_newline depth _) (laid_newline depth hlast)
    have hwhole := Laid.token hopening (closing_newline (depth + 1) _)
      (laid_newline (depth + 1) hinside)
    simpa [indented, ho] using hwhole

/-- A member is its key, a colon and its value. -/
theorem Lays.member {key : List Char} {text : List Char} {ts : List Token}
    (hkey : ∃ text, key = escape text) (h : Lays text ts) :
    Lays (quoted key ++ ':' :: ' ' :: text) (.string key :: .colon :: ts) := by
  intro rest ts' hclosing hrest
  have hvalue := Laid.blank (c := ' ') rfl (h hclosing hrest)
  have hcolon := Laid.token (t := .colon) trivial (closing_cons (by decide) _) hvalue
  simpa [Token.text] using
    Laid.token (t := .string key) hkey (closing_cons (c := ':') (by decide) _) hcolon

theorem lays_pretty {value : Json} (h : Plain value) (depth : Nat) :
    Lays (pretty depth value) (tokens value) := by
  induction h generalizing depth with
  | null => exact Lays.single (t := .null) trivial
  | bool value => exact Lays.single (t := .bool value) trivial
  | number n => exact Lays.single (t := .number _) ⟨n, rfl⟩
  | string text => exact Lays.single (t := .string _) ⟨text, rfl⟩
  | array hitems ih =>
    rw [pretty, tokens, prettyItems_eq_map, itemTokens_eq_map]
    refine lays_indented .leftBracket .rightBracket rfl rfl trivial trivial (by decide) ?_
    rw [List.forall₂_map_left_iff, List.forall₂_map_right_iff, List.forall₂_same]
    exact fun item hitem => ih item hitem (depth + 1)
  | object hkeys hvalues ih =>
    rw [pretty, tokens, prettyMembers_eq_map, memberTokens_eq_map]
    refine lays_indented .leftBrace .rightBrace rfl rfl trivial trivial (by decide) ?_
    rw [List.forall₂_map_left_iff, List.forall₂_map_right_iff, List.forall₂_same]
    exact fun member hmember => Lays.member (hkeys member hmember) (ih member hmember (depth + 1))

/-! ### Reading puts the tokens together -/

/-- What is read back from tokens, with depth to spare for all of them. -/
def Returns (value : Json) : Prop :=
  ∀ (depth : Nat) (rest : List Token), 2 * (tokens value).length ≤ depth + 1 →
    readValue depth (tokens value ++ rest) = some (value, rest)

theorem length_tokens_pos (value : Json) : 0 < (tokens value).length := by
  cases value <;> simp [tokens]

/-- The items of an array do not start with its closing bracket. -/
theorem joined_tokens_ne (item : Json) (items : List Json) (rest rest' : List Token) :
    joined ((item :: items).map tokens) ++ rest ≠ .rightBracket :: rest' := by
  have hfirst (more : List Token) : tokens item ++ more ≠ .rightBracket :: rest' := by
    cases item <;> simp [tokens]
  cases items with
  | nil => exact hfirst rest
  | cons next items => simpa [joined] using hfirst (.comma :: joined (_ :: _) ++ rest)

theorem readItems_joined {items : List Json} (hne : items ≠ [])
    (h : ∀ item ∈ items, Returns item) (depth : Nat) (rest : List Token)
    (hdepth : 2 * (joined (items.map tokens)).length ≤ depth) :
    readItems depth (joined (items.map tokens) ++ .rightBracket :: rest) = some (items, rest) := by
  -- an item takes one turn of the list and then as many as its value, and it has a token
  induction items generalizing depth with
  | nil => contradiction
  | cons item items ih =>
    have hitem := h item List.mem_cons_self
    cases items with
    | nil =>
      simp only [List.map_cons, List.map_nil, joined] at hdepth ⊢
      have hpos := length_tokens_pos item
      obtain ⟨depth, rfl⟩ := Nat.exists_eq_succ_of_ne_zero (n := depth) (by omega)
      rw [readItems, hitem _ _ (by omega)]
    | cons next items =>
      have hrest := ih (by simp) fun i hi => h i (List.mem_cons_of_mem _ hi)
      simp only [List.map_cons, joined, List.length_append, List.length_cons] at hdepth hrest ⊢
      obtain ⟨depth, rfl⟩ := Nat.exists_eq_succ_of_ne_zero (n := depth) (by omega)
      rw [List.append_assoc, readItems, hitem _ _ (by omega)]
      simp only [List.cons_append]
      rw [hrest depth (by omega)]
      rfl

theorem readMembers_joined {members : List (List Char × Json)} (hne : members ≠ [])
    (h : ∀ m ∈ members, Returns m.2) (depth : Nat) (rest : List Token)
    (hdepth : 2 * (joined (memberTokens members)).length ≤ depth) :
    readMembers depth (joined (memberTokens members) ++ .rightBrace :: rest) =
      some (members, rest) := by
  induction members generalizing depth with
  | nil => contradiction
  | cons member members ih =>
    obtain ⟨key, value⟩ := member
    have hvalue : Returns value := h (key, value) List.mem_cons_self
    cases members with
    | nil =>
      simp only [memberTokens, joined, List.length_cons] at hdepth ⊢
      obtain ⟨depth, rfl⟩ := Nat.exists_eq_succ_of_ne_zero (n := depth) (by omega)
      simp only [List.cons_append]
      rw [readMembers, hvalue _ _ (by omega)]
    | cons next members =>
      have hrest := ih (by simp) fun m hm => h m (List.mem_cons_of_mem _ hm)
      simp only [memberTokens, joined, List.length_append, List.length_cons] at hdepth hrest ⊢
      obtain ⟨depth, rfl⟩ := Nat.exists_eq_succ_of_ne_zero (n := depth) (by omega)
      simp only [List.cons_append, List.append_assoc]
      rw [readMembers, hvalue _ _ (by omega)]
      simp only
      rw [hrest depth (by omega)]
      rfl

/-- A value has a token, so its reading starts with some depth. -/
theorem Returns.intro {value : Json}
    (h : ∀ depth rest, 2 * (tokens value).length ≤ depth + 2 →
      readValue (depth + 1) (tokens value ++ rest) = some (value, rest)) : Returns value := by
  intro depth rest hdepth
  have hpos := length_tokens_pos value
  obtain ⟨depth, rfl⟩ := Nat.exists_eq_succ_of_ne_zero (n := depth) (by omega)
  exact h depth rest hdepth

/-- The tokens of a value read as that value. -/
theorem returns_of_plain {value : Json} (h : Plain value) : Returns value := by
  induction h with
  | null | bool | number | string => exact .intro fun _ _ _ => rfl
  | @array items _ ih =>
    refine .intro fun depth rest hdepth => ?_
    simp only [tokens, itemTokens_eq_map, List.length_append, List.length_cons] at hdepth ⊢
    cases items with
    | nil => rfl
    | cons item items =>
      have hitems := readItems_joined (List.cons_ne_nil item items)
        ih depth rest (by omega)
      rw [List.append_assoc, List.cons_append, List.singleton_append,
        readValue, hitems]
      · rfl
      · exact joined_tokens_ne item items _
  | @object members _ _ ih =>
    refine .intro fun depth rest hdepth => ?_
    simp only [tokens, List.length_append, List.length_cons] at hdepth ⊢
    cases members with
    | nil => rfl
    | cons member members =>
      have hmembers := readMembers_joined (List.cons_ne_nil member members)
        ih depth rest (by omega)
      rw [List.append_assoc, List.cons_append, List.singleton_append, readValue, hmembers]
      · rfl
      · cases members <;> simp [memberTokens, joined]

/-- A document that is written over several lines reads as the value it was
written from. -/
theorem parse_pretty {value : Json} (h : Plain value) :
    parse (String.ofList (pretty 0 value)) = some value := by
  have hlaid : Laid (pretty 0 value) (tokens value) := by
    have hempty : Closing [] := fun c hc => by simp at hc
    simpa using lays_pretty h 0 hempty .nil
  have hread := returns_of_plain h (2 * (tokens value).length) [] (by omega)
  rw [List.append_nil] at hread
  simp [parse, tokens?_of_laid hlaid, hread]

end LinkStack.Json
