import Mathlib.Algebra.Group.Nat.Defs
import Mathlib.Data.List.TakeWhile
import LinkStack.Catalog.Descriptor

/-!
The grammar of descriptors, and the parser as a decision procedure for it.

The grammar is a relation between texts and what they stand for: a text splits
into items (`Split`), each of them a spelling of a piece (`Item`), and the
pieces become tokens once neighbouring stretches of plain text are merged
(`Merged`). Nothing in it speaks of cursors or of the order in which
alternatives are tried.

One step of the parser takes exactly one item off the front of a text
(`readPiece_eq_ok_iff`). The parser being a function, this gives at once that
there is at most one item to take, and by induction that a text is accepted
exactly if it splits, in at most one way, into the items the parser found.
-/

namespace LinkStack.Catalog

/-! ### The grammar -/

namespace Grammar

/-- The spellings of a byte order. -/
def orders : List (List Char × Endian) := [([], .little), (['<'], .little), (['>'], .big)]

/-- The letters that stand for conversions. -/
def letters : List (Char × Conversion) :=
  [('u', .unsigned), ('d', .signed), ('i', .signed), ('x', .hex false), ('X', .hex true),
    ('f', .float)]

/-- The width modifiers that a conversion admits. -/
def modifiers : Conversion → List (List Char × Width)
  | .float => [([], .four), (['l'], .four), (['L'], .eight)]
  | _ => [([], .two), (['h'], .one), (['l'], .four), (['L'], .eight)]

/-- A format: a percent sign, a byte order, a width modifier and a letter. -/
def IsFormat (chars : List Char) (f : FieldFormat) : Prop :=
  ∃ order modifier letter, chars = '%' :: order ++ modifier ++ [letter] ∧
    (order, f.endian) ∈ orders ∧ (modifier, f.width) ∈ modifiers f.conversion ∧
    (letter, f.conversion) ∈ letters

/-- The text of a first group, as a name with or without a marker. -/
inductive Marked : List Char → Option Marker → List Char → Prop
  | parameter {name : List Char} : Marked (':' :: name) (some .parameter) name
  | constant {name : List Char} : Marked ('#' :: name) (some .constant) name
  | bare {name : List Char} (hcolon : name.head? ≠ some ':') (hsign : name.head? ≠ some '#') :
      Marked name none name

/-- The token of two groups: a field if the second one starts with a percent
sign, and then it has to be a format. -/
inductive Assigned (first value : List Char) : Token → Prop
  | constant {marker : Option Marker} {name : List Char} (hmarked : Marked first marker name)
      (hplain : value.head? ≠ some '%') :
      Assigned first value (.constant (String.ofList name) marker (String.ofList value))
  | field {marker : Option Marker} {name : List Char} {format : FieldFormat}
      (hmarked : Marked first marker name) (hformat : IsFormat value format) :
      Assigned first value (.field (String.ofList name) marker format)

/-- A group in braces. -/
def group (text : List Char) : List Char := '\x7b' :: (text ++ ['\x7d'])

/-- The spellings of one item, and the piece it stands for. What follows tells
a group that is plain text from a name. -/
inductive Item (following : List Char) : List Char → Piece → Prop
  | plain {c : Char} (hpercent : c ≠ '%') (hbrace : c ≠ '\x7b') : Item following [c] (.text [c])
  | percent : Item following ['%', '%'] (.text ['%'])
  | terminator : Item following ['%', '!'] (.token .terminator)
  | title {digits text : List Char} (hne : digits ≠ []) (hdigits : ∀ d ∈ digits, d.isDigit)
      (hmax : Nat.ofDigitChars 10 digits 0 ≤ 2 ^ 32 - 1) (htext : '\x7d' ∉ text) :
      Item following ('%' :: 'T' :: digits ++ group text)
        (.token (.title (Nat.ofDigitChars 10 digits 0) (String.ofList text)))
  | group {text : List Char} (htext : '\x7d' ∉ text) (hfollowing : ¬['=', '\x7b'] <+: following) :
      Item following (group text) (.text (group text))
  | assignment {first value : List Char} {t : Token} (hfirst : '\x7d' ∉ first)
      (hvalue : '\x7d' ∉ value) (hassigned : Assigned first value t) :
      Item following (group first ++ '=' :: group value) (.token t)

/-- A text as a sequence of items, each with its spelling. -/
inductive Split : List (List Char × Piece) → List Char → Prop
  | nil : Split [] []
  | cons {items : List (List Char × Piece)} {spelling rest : List Char} {piece : Piece}
      (hitem : Item rest spelling piece) (hrest : Split items rest) :
      Split ((spelling, piece) :: items) (spelling ++ rest)

/-- Pieces as tokens: each stretch of neighbouring pieces of plain text is one
literal. -/
inductive Merged : List Piece → List Token → Prop
  | nil : Merged [] []
  | token {pieces : List Piece} {tokens : List Token} (t : Token) (hrest : Merged pieces tokens) :
      Merged (.token t :: pieces) (t :: tokens)
  | literal {pieces : List Piece} {tokens : List Token} {texts : List (List Char)}
      (hne : texts ≠ []) (hlongest : ∀ text, pieces.head? ≠ some (.text text))
      (hrest : Merged pieces tokens) :
      Merged (texts.map .text ++ pieces) (.literal (String.ofList texts.flatten) :: tokens)

theorem Item.ne_nil {following spelling : List Char} {piece : Piece}
    (h : Item following spelling piece) : spelling ≠ [] := by
  cases h <;> simp [Grammar.group]

/-- A piece of plain text has at least one character, and no token is a
literal. -/
theorem Item.piece_cases {following spelling : List Char} {piece : Piece}
    (h : Item following spelling piece) :
    (∃ text, piece = .text text ∧ text ≠ []) ∨
      ∃ t, piece = .token t ∧ ∀ text, t ≠ .literal text := by
  cases h with
  | plain => exact .inl ⟨_, rfl, by simp⟩
  | percent => exact .inl ⟨_, rfl, by simp⟩
  | group => exact .inl ⟨_, rfl, by simp [Grammar.group]⟩
  | terminator => exact .inr ⟨_, rfl, by simp⟩
  | title => exact .inr ⟨_, rfl, by simp⟩
  | assignment _ _ hassigned => exact .inr ⟨_, rfl, by cases hassigned <;> simp⟩

end Grammar

open Grammar

/-! ### Formats and names -/

theorem takeEndian_spec (chars : List Char) :
    ∃ order, chars = order ++ (FieldFormat.takeEndian chars).2 ∧
      (order, (FieldFormat.takeEndian chars).1) ∈ orders := by
  unfold FieldFormat.takeEndian
  split
  · exact ⟨['<'], rfl, by simp [orders]⟩
  · exact ⟨['>'], rfl, by simp [orders]⟩
  · exact ⟨[], rfl, by simp [orders]⟩

/-- The letters of the modifiers, none included. -/
def widthLetters : List (List Char × Option Width) :=
  [([], none), (['h'], some .one), (['l'], some .four), (['L'], some .eight)]

theorem takeModifier_spec (chars : List Char) :
    ∃ modifier, chars = modifier ++ (FieldFormat.takeModifier chars).2 ∧
      (modifier, (FieldFormat.takeModifier chars).1) ∈ widthLetters := by
  unfold FieldFormat.takeModifier
  split
  · exact ⟨['h'], rfl, by simp [widthLetters]⟩
  · exact ⟨['l'], rfl, by simp [widthLetters]⟩
  · exact ⟨['L'], rfl, by simp [widthLetters]⟩
  · exact ⟨[], rfl, by simp [widthLetters]⟩

theorem mem_modifiers_of_width? {modifier : List Char} {taken : Option Width}
    {conversion : Conversion} {width : Width} (hletters : (modifier, taken) ∈ widthLetters)
    (h : conversion.width? taken = some width) : (modifier, width) ∈ modifiers conversion := by
  simp only [widthLetters, List.mem_cons, Prod.mk.injEq, List.not_mem_nil, or_false] at hletters
  rcases hletters with ⟨rfl, rfl⟩ | ⟨rfl, rfl⟩ | ⟨rfl, rfl⟩ | ⟨rfl, rfl⟩ <;>
    cases conversion <;> simp_all [Conversion.width?, modifiers]

theorem letter_of_ofChar? {letter : Char} {conversion : Conversion}
    (h : Conversion.ofChar? letter = some conversion) : (letter, conversion) ∈ letters := by
  unfold Conversion.ofChar? at h
  split at h <;> simp_all [letters]

theorem ofChars?_eq_some_iff {chars : List Char} {f : FieldFormat} :
    FieldFormat.ofChars? chars = some f ↔ IsFormat ('%' :: chars) f := by
  constructor
  · intro h
    obtain ⟨order, hchars, horder⟩ := takeEndian_spec chars
    obtain ⟨modifier, hrest, hmodifier⟩ := takeModifier_spec (FieldFormat.takeEndian chars).2
    simp only [FieldFormat.ofChars?] at h
    split at h
    · rename_i letter hletter
      simp only [Option.bind_eq_bind, Option.bind_eq_some_iff] at h
      obtain ⟨conversion, hconversion, width, hwidth, hf⟩ := h
      obtain rfl := Option.some.inj hf
      refine ⟨order, modifier, letter, ?_, horder, mem_modifiers_of_width? hmodifier hwidth,
        letter_of_ofChar? hconversion⟩
      rw [hletter] at hrest
      rw [hrest] at hchars
      rw [hchars, List.cons_append, List.cons_append, List.append_assoc]
    · simp at h
  · rintro ⟨order, modifier, letter, h, horder, hmodifier, hletter⟩
    obtain rfl : chars = order ++ modifier ++ [letter] := (List.cons.inj h).2
    -- finitely many spellings, each of which is read back by evaluation
    have hall : ∀ l ∈ letters, ∀ m ∈ modifiers l.2, ∀ o ∈ orders,
        FieldFormat.ofChars? (o.1 ++ m.1 ++ [l.1]) = some ⟨o.2, m.2, l.2⟩ := by decide
    exact hall _ hletter _ hmodifier _ horder

theorem splitMarker_eq_iff {first name : List Char} {marker : Option Marker} :
    splitMarker first = (marker, name) ↔ Marked first marker name := by
  constructor
  · intro h
    unfold splitMarker at h
    split at h
    · obtain ⟨rfl, rfl⟩ := Prod.mk.inj h
      exact .parameter
    · obtain ⟨rfl, rfl⟩ := Prod.mk.inj h
      exact .constant
    · rename_i hcolon hsign
      obtain ⟨rfl, rfl⟩ := Prod.mk.inj h
      cases first with
      | nil => exact .bare (by simp) (by simp)
      | cons c rest =>
        exact .bare (by rintro ⟨⟩; exact hcolon rest rfl) (by rintro ⟨⟩; exact hsign rest rfl)
  · rintro (_ | _ | ⟨hcolon, hsign⟩)
    · rfl
    · rfl
    · unfold splitMarker
      split
      · simp at hcolon
      · simp at hsign
      · rfl

theorem assignment?_eq_some_iff {first value : List Char} {t : Token} :
    assignment? first value = some t ↔ Assigned first value t := by
  have hmarked : Marked first (splitMarker first).1 (splitMarker first).2 :=
    splitMarker_eq_iff.mp rfl
  constructor
  · intro h
    simp only [assignment?] at h
    split at h
    · obtain ⟨format, hformat, rfl⟩ := Option.map_eq_some_iff.mp h
      exact .field hmarked (ofChars?_eq_some_iff.mp hformat)
    · rename_i hplain
      obtain rfl := Option.some.inj h
      refine .constant hmarked fun hhead => ?_
      obtain ⟨format, hformat⟩ := List.head?_eq_some_iff.mp hhead
      exact hplain format hformat
  · rintro (⟨hmarked, hplain⟩ | ⟨hmarked, hformat⟩)
    · simp only [assignment?, splitMarker_eq_iff.mpr hmarked]
      split
      · simp at hplain
      · rfl
    · obtain ⟨order, modifier, letter, rfl, -⟩ := id hformat
      simp only [assignment?, splitMarker_eq_iff.mpr hmarked]
      exact congrArg (Option.map _) (ofChars?_eq_some_iff.mpr hformat)

/-! ### Groups and versions -/

theorem readGroup_eq_ok_iff {chars text rest : List Char} :
    readGroup chars = .ok (text, rest) ↔ '\x7d' ∉ text ∧ chars = text ++ '\x7d' :: rest := by
  constructor
  · intro h
    unfold readGroup at h
    split at h
    · simp at h
    · rename_i c rest' hdrop
      obtain ⟨rfl, rfl⟩ := Prod.mk.inj (Except.ok.inj h)
      have hbrace : c = '\x7d' := by
        have := List.head?_dropWhile_not (· ≠ '\x7d') chars
        rw [hdrop] at this
        simpa using this
      constructor
      · intro hmem
        simpa using List.mem_takeWhile_imp hmem
      · subst hbrace
        rw [← hdrop, List.takeWhile_append_dropWhile]
  · rintro ⟨htext, rfl⟩
    have hall : ∀ c ∈ text, decide (c ≠ '\x7d') = true := by
      intro c hc
      exact decide_eq_true fun h => htext (h ▸ hc)
    rw [readGroup, List.dropWhile_append_of_pos hall, List.takeWhile_append_of_pos hall]
    simp

theorem readVersion_eq_some_iff {digits : List Char} {n : Nat} :
    readVersion digits = some n ↔
      digits ≠ [] ∧ Nat.ofDigitChars 10 digits 0 ≤ 2 ^ 32 - 1 ∧
        n = Nat.ofDigitChars 10 digits 0 := by
  have hmax : maxVersion = 2 ^ 32 - 1 := rfl
  simp only [readVersion, hmax, ← Nat.ofDigitChars_eq_foldl]
  split <;> grind

theorem span_digits {digits : List Char} (h : ∀ d ∈ digits, d.isDigit) (rest : List Char) :
    (digits ++ '\x7b' :: rest).takeWhile Char.isDigit = digits ∧
      (digits ++ '\x7b' :: rest).dropWhile Char.isDigit = '\x7b' :: rest := by
  rw [List.takeWhile_append_of_pos h, List.dropWhile_append_of_pos h]
  simp [Char.isDigit]

/-! ### One item -/

theorem item_of_readDirective {chars rest : List Char} {piece : Piece}
    (h : readDirective chars = .ok (piece, rest)) :
    ∃ spelling, '%' :: chars = spelling ++ rest ∧ Item rest spelling piece := by
  unfold readDirective at h
  split at h
  · obtain ⟨rfl, rfl⟩ := Prod.mk.inj (Except.ok.inj h)
    exact ⟨_, rfl, .percent⟩
  · obtain ⟨rfl, rfl⟩ := Prod.mk.inj (Except.ok.inj h)
    exact ⟨_, rfl, .terminator⟩
  · rename_i tail
    split at h
    · rename_i version group hversion hgroup
      obtain ⟨hne, hmax, rfl⟩ := readVersion_eq_some_iff.mp hversion
      cases hread : readGroup group with
      | error e => simp [hread, Except.map] at h
      | ok pair =>
        obtain ⟨text, rest'⟩ := pair
        rw [hread] at h
        obtain ⟨rfl, rfl⟩ := Prod.mk.inj (Except.ok.inj h)
        obtain ⟨htext, rfl⟩ := readGroup_eq_ok_iff.mp hread
        refine ⟨_, ?_, .title hne (fun d hd => List.mem_takeWhile_imp hd) hmax htext⟩
        have htail := List.takeWhile_append_dropWhile (p := Char.isDigit) (l := tail)
        rw [hgroup] at htail
        simp only [Grammar.group, List.cons_append, List.append_assoc, List.nil_append, htail]
    · simp at h
  · simp at h

theorem item_of_readBraces {chars rest : List Char} {piece : Piece}
    (h : readBraces chars = .ok (piece, rest)) :
    ∃ spelling, '\x7b' :: chars = spelling ++ rest ∧ Item rest spelling piece := by
  unfold readBraces at h
  cases hfirst : readGroup chars with
  | error e => simp [hfirst, bind, Except.bind] at h
  | ok pair =>
    obtain ⟨first, tail⟩ := pair
    obtain ⟨hbrace, rfl⟩ := readGroup_eq_ok_iff.mp hfirst
    simp only [hfirst, bind, Except.bind] at h
    split at h
    · rename_i group
      cases hsecond : readGroup group with
      | error e => simp [hsecond] at h
      | ok pair =>
        obtain ⟨value, tail⟩ := pair
        obtain ⟨hvalue, rfl⟩ := readGroup_eq_ok_iff.mp hsecond
        simp only [hsecond] at h
        split at h
        · rename_i token htoken
          obtain ⟨rfl, rfl⟩ := Prod.mk.inj (Except.ok.inj h)
          refine ⟨Grammar.group first ++ '=' :: Grammar.group value, by simp [Grammar.group], ?_⟩
          exact .assignment hbrace hvalue (assignment?_eq_some_iff.mp htoken)
        · simp [throw, throwThe, MonadExceptOf.throw] at h
    · rename_i hfollowing
      obtain ⟨rfl, rfl⟩ := Prod.mk.inj (Except.ok.inj h)
      refine ⟨Grammar.group first, by simp [Grammar.group], .group hbrace ?_⟩
      rintro ⟨group, hgroup⟩
      exact hfollowing group hgroup.symm

theorem readBraces_group {text rest : List Char} (htext : '\x7d' ∉ text)
    (hrest : ¬['=', '\x7b'] <+: rest) :
    readBraces (text ++ '\x7d' :: rest) = .ok (.text (Grammar.group text), rest) := by
  have hread : readGroup (text ++ '\x7d' :: rest) = .ok (text, rest) :=
    readGroup_eq_ok_iff.mpr ⟨htext, rfl⟩
  simp only [readBraces, hread, bind, Except.bind]
  split
  · rename_i group
    exact absurd ⟨group, rfl⟩ hrest
  · rfl

theorem readBraces_assignment {first value rest : List Char} {token : Token}
    (hfirst : '\x7d' ∉ first) (hvalue : '\x7d' ∉ value)
    (htoken : assignment? first value = some token) :
    readBraces (first ++ '\x7d' :: '=' :: '\x7b' :: (value ++ '\x7d' :: rest)) =
      .ok (.token token, rest) := by
  have hread : readGroup (first ++ '\x7d' :: '=' :: '\x7b' :: (value ++ '\x7d' :: rest)) =
      .ok (first, '=' :: '\x7b' :: (value ++ '\x7d' :: rest)) :=
    readGroup_eq_ok_iff.mpr ⟨hfirst, rfl⟩
  have hread' : readGroup (value ++ '\x7d' :: rest) = .ok (value, rest) :=
    readGroup_eq_ok_iff.mpr ⟨hvalue, rfl⟩
  simp only [readBraces, hread, hread', htoken, bind, Except.bind]
  rfl

theorem readPiece_of_item {c : Char} {chars rest spelling : List Char} {piece : Piece}
    (hchars : c :: chars = spelling ++ rest) (h : Item rest spelling piece) :
    readPiece c chars = .ok (piece, rest) := by
  cases h with
  | plain hpercent hbrace =>
    obtain ⟨rfl, rfl⟩ := List.cons.inj hchars
    rw [readPiece, if_neg hpercent, if_neg hbrace]
  | percent =>
    obtain ⟨rfl, rfl⟩ := List.cons.inj hchars
    rfl
  | terminator =>
    obtain ⟨rfl, rfl⟩ := List.cons.inj hchars
    rfl
  | @title digits text hne hdigits hmax htext =>
    obtain ⟨rfl, rfl⟩ := List.cons.inj hchars
    have hversion := readVersion_eq_some_iff.mpr ⟨hne, hmax, rfl⟩
    have hgroup : readGroup (text ++ '\x7d' :: rest) = .ok (text, rest) :=
      readGroup_eq_ok_iff.mpr ⟨htext, rfl⟩
    obtain ⟨htake, hdrop⟩ := span_digits hdigits (text ++ '\x7d' :: rest)
    rw [readPiece, if_pos rfl]
    simp only [Grammar.group, List.append_eq, List.cons_append, List.append_assoc, List.nil_append,
      readDirective, htake, hdrop, hversion, hgroup]
    rfl
  | group htext hfollowing =>
    obtain ⟨rfl, rfl⟩ := List.cons.inj hchars
    rw [readPiece, if_neg (by decide), if_pos rfl, List.append_eq, List.append_assoc]
    exact readBraces_group htext hfollowing
  | assignment hfirst hvalue hassigned =>
    obtain ⟨rfl, rfl⟩ := List.cons.inj hchars
    have htoken := assignment?_eq_some_iff.mpr hassigned
    rw [readPiece, if_neg (by decide), if_pos rfl]
    simpa [Grammar.group] using readBraces_assignment hfirst hvalue htoken

/-- One step of the parser takes one item off the front of a text. -/
theorem readPiece_eq_ok_iff {c : Char} {chars rest : List Char} {piece : Piece} :
    readPiece c chars = .ok (piece, rest) ↔
      ∃ spelling, c :: chars = spelling ++ rest ∧ Item rest spelling piece := by
  constructor
  · intro h
    unfold readPiece at h
    split at h
    · rename_i hc
      subst hc
      exact item_of_readDirective h
    · rename_i hpercent
      split at h
      · rename_i hc
        subst hc
        exact item_of_readBraces h
      · rename_i hbrace
        obtain ⟨rfl, rfl⟩ := Prod.mk.inj (Except.ok.inj h)
        exact ⟨[c], rfl, .plain hpercent hbrace⟩
  · rintro ⟨spelling, hchars, hitem⟩
    exact readPiece_of_item hchars hitem

/-- There is at most one item to take. -/
theorem item_unique {spelling spelling' rest rest' : List Char} {piece piece' : Piece}
    (h : Item rest spelling piece) (h' : Item rest' spelling' piece')
    (heq : spelling ++ rest = spelling' ++ rest') :
    spelling = spelling' ∧ piece = piece' ∧ rest = rest' := by
  obtain ⟨c, chars, hchars⟩ := List.exists_cons_of_ne_nil h.ne_nil
  have hread : readPiece c (chars ++ rest) = .ok (piece, rest) := by
    apply readPiece_of_item _ h
    rw [hchars, List.cons_append]
  have hread' : readPiece c (chars ++ rest) = .ok (piece', rest') := by
    apply readPiece_of_item _ h'
    rw [← heq, hchars, List.cons_append]
  obtain ⟨rfl, rfl⟩ := Prod.mk.inj (Except.ok.inj (hread.symm.trans hread'))
  exact ⟨List.append_cancel_right heq, rfl, rfl⟩

/-! ### A whole text -/

theorem Grammar.Split.cons_inv {items : List (List Char × Piece)} {c : Char} {chars : List Char}
    (h : Split items (c :: chars)) :
    ∃ spelling piece rest later, items = (spelling, piece) :: later ∧
      c :: chars = spelling ++ rest ∧ Item rest spelling piece ∧ Split later rest := by
  generalize hwhole : c :: chars = whole at h
  cases h with
  | nil => simp at hwhole
  | cons hitem hrest => exact ⟨_, _, _, _, rfl, rfl, hitem, hrest⟩

theorem Grammar.Split.eq_nil {items : List (List Char × Piece)} (h : Split items []) :
    items = [] := by
  generalize hwhole : [] = whole at h
  cases h with
  | nil => rfl
  | cons hitem hrest => exact absurd (List.append_eq_nil_iff.mp hwhole.symm).1 hitem.ne_nil

/-- A text splits in at most one way. -/
theorem Grammar.Split.unique {items items' : List (List Char × Piece)} {chars : List Char}
    (h : Split items chars) (h' : Split items' chars) : items = items' := by
  induction h generalizing items' with
  | nil => exact h'.eq_nil.symm
  | @cons later spelling rest piece hitem hrest ih =>
    obtain ⟨c, tail, hchars⟩ := List.exists_cons_of_ne_nil hitem.ne_nil
    rw [hchars, List.cons_append] at h'
    obtain ⟨spelling', piece', rest', later', rfl, heq, hitem', hrest'⟩ := h'.cons_inv
    rw [← List.cons_append, ← hchars] at heq
    obtain ⟨rfl, rfl, rfl⟩ := item_unique hitem hitem' heq
    rw [ih hrest']

theorem readPieces_eq_ok_iff {chars : List Char} {pieces : List Piece} :
    readPieces chars = .ok pieces ↔ ∃ items, Split items chars ∧ items.map Prod.snd = pieces := by
  induction chars using readPieces.induct generalizing pieces with
  | case1 =>
    rw [readPieces, Except.ok.injEq]
    constructor
    · rintro rfl
      exact ⟨[], .nil, rfl⟩
    · rintro ⟨items, hsplit, rfl⟩
      rw [hsplit.eq_nil, List.map_nil]
  | case2 c chars fault h =>
    rw [readPieces, h]
    constructor
    · intro hok
      simp at hok
    · rintro ⟨items, hsplit, -⟩
      obtain ⟨spelling, piece, rest, later, -, hchars, hitem, -⟩ := hsplit.cons_inv
      rw [readPiece_of_item hchars hitem] at h
      simp at h
  | case3 c chars piece rest h ih =>
    obtain ⟨spelling, hchars, hitem⟩ := readPiece_eq_ok_iff.mp h
    rw [readPieces, h]
    constructor
    · intro hok
      cases hlater : readPieces rest with
      | error e => simp [hlater, Except.map] at hok
      | ok later =>
        simp only [hlater, Except.map, Except.ok.injEq] at hok
        obtain ⟨items, hsplit, rfl⟩ := ih.mp hlater
        refine ⟨(spelling, piece) :: items, ?_, hok⟩
        rw [hchars]
        exact .cons hitem hsplit
    · rintro ⟨items, hsplit, rfl⟩
      obtain ⟨spelling', piece', rest', later, rfl, hchars', hitem', hlater⟩ := hsplit.cons_inv
      obtain ⟨rfl, rfl, rfl⟩ := item_unique hitem hitem' (hchars.symm.trans hchars')
      simp only [ih.mpr ⟨later, hlater, rfl⟩, Except.map, List.map_cons]

/-! ### Tokens -/

/-- Pieces joined as the parser joins them, as tokens. -/
def mergedTokens (pieces : List Piece) : List Token :=
  (pieces.foldr Piece.join []).map Piece.toToken

theorem foldr_join_texts {pieces : List Piece} {texts : List (List Char)} (hne : texts ≠ [])
    (hlongest : ∀ text, pieces.head? ≠ some (.text text)) :
    (texts.map Piece.text ++ pieces).foldr Piece.join [] =
      .text texts.flatten :: pieces.foldr Piece.join [] := by
  induction texts with
  | nil => exact absurd rfl hne
  | cons text texts ih =>
    rw [List.map_cons, List.cons_append, List.foldr_cons]
    cases texts with
    | nil =>
      cases pieces with
      | nil => simp [Piece.join]
      | cons piece pieces =>
        cases piece with
        | text first => exact absurd rfl (hlongest first)
        | token t => simp [Piece.join]
    | cons second texts =>
      rw [ih (by simp)]
      rfl

theorem exists_merged (pieces : List Piece) : ∃ tokens, Merged pieces tokens := by
  induction pieces with
  | nil => exact ⟨[], .nil⟩
  | cons piece pieces ih =>
    obtain ⟨tokens, h⟩ := ih
    cases piece with
    | token t => exact ⟨_, .token t h⟩
    | text first =>
      -- the stretch starts here, or it is the one that follows with this piece in front
      cases h with
      | nil => exact ⟨_, @Merged.literal [] [] [first] (by simp) (by simp) .nil⟩
      | token t hrest =>
        exact ⟨_, @Merged.literal (.token t :: _) _ [first] (by simp) (by simp) (.token t hrest)⟩
      | @literal pieces tokens texts hne hlongest hrest =>
        exact ⟨_, @Merged.literal pieces tokens (first :: texts) (by simp) hlongest hrest⟩

theorem merged_iff {pieces : List Piece} {tokens : List Token} :
    Merged pieces tokens ↔ tokens = mergedTokens pieces := by
  have hmerged : ∀ {tokens}, Merged pieces tokens → tokens = mergedTokens pieces := by
    intro tokens h
    induction h with
    | nil => rfl
    | token t hrest ih => rw [ih, mergedTokens, mergedTokens, List.foldr_cons]; rfl
    | literal hne hlongest hrest ih =>
      rw [ih, mergedTokens, mergedTokens, foldr_join_texts hne hlongest, List.map_cons,
        Piece.toToken]
  constructor
  · exact hmerged
  · rintro rfl
    obtain ⟨tokens, h⟩ := exists_merged pieces
    rwa [hmerged h] at h

/-- The tokens of the items of a text have no empty literal. -/
theorem literal_ne_empty {items : List (List Char × Piece)} {chars : List Char}
    {tokens : List Token} (hsplit : Split items chars)
    (hmerged : Merged (items.map Prod.snd) tokens) {text : String}
    (hmem : .literal text ∈ tokens) : text ≠ "" := by
  have hpieces : ∀ piece ∈ items.map Prod.snd,
      piece ≠ .text [] ∧ piece ≠ .token (.literal text) := by
    clear hmerged
    induction hsplit with
    | nil => simp
    | cons hitem hrest ih =>
      rw [List.map_cons, List.forall_mem_cons]
      refine ⟨?_, ih⟩
      rcases hitem.piece_cases with ⟨chars, rfl, hne⟩ | ⟨t, rfl, hne⟩
      · simpa using hne
      · simpa using hne text
  generalize items.map Prod.snd = pieces at hmerged hpieces
  induction hmerged with
  | nil => simp at hmem
  | token t hrest ih =>
    rw [List.forall_mem_cons] at hpieces
    rcases List.mem_cons.mp hmem with rfl | hmem
    · exact absurd rfl hpieces.1.2
    · exact ih hmem hpieces.2
  | @literal pieces tokens texts hne hlongest hrest ih =>
    rw [List.forall_mem_append] at hpieces
    rcases List.mem_cons.mp hmem with htext | hmem
    · obtain ⟨first, later, rfl⟩ := List.exists_cons_of_ne_nil hne
      have hfirst : first ≠ [] := by
        rintro rfl
        exact (hpieces.1 (.text []) (by simp)).1 rfl
      obtain rfl := Token.literal.inj htext
      intro hempty
      apply hfirst
      have hflat : (first :: later).flatten = [] := String.ofList_eq_empty_iff.mp hempty
      exact (List.append_eq_nil_iff.mp hflat).1
    · exact ih hmem hpieces.2

/-- The number of bytes of the arguments that a token stands for. -/
def Token.width : Token → Nat
  | .field _ _ format => format.width.bytes
  | _ => 0

theorem argsSize_eq (d : Descriptor) :
    d.argsSize = d.tokens.foldr (fun t size => t.width + size) 0 := by
  rw [Descriptor.argsSize, Descriptor.fields]
  induction d.tokens with
  | nil => rfl
  | cons t tokens ih =>
    cases t with
    | field name marker format => exact congrArg (format.width.bytes + ·) ih
    | _ => exact ih.trans (Nat.zero_add _).symm

/-! ### Where a text is refused -/

/-- The position that an error names. -/
def DescriptorError.position? : DescriptorError → Option Nat
  | .unterminated position => some position
  | .invalidDirective position => some position
  | .invalidFormat position _ => some position
  | _ => none

theorem rest_of_readGroup_error {chars : List Char} {fault : FaultAt}
    (h : readGroup chars = .error fault) : fault.rest = '\x7b' :: chars := by
  unfold readGroup at h
  split at h
  · rw [← Except.error.inj h]
  · simp at h

theorem suffix_of_readDirective_error {chars : List Char} {fault : FaultAt}
    (h : readDirective chars = .error fault) : fault.rest <:+ '%' :: chars := by
  unfold readDirective at h
  split at h
  · simp at h
  · simp at h
  · rename_i tail
    split at h
    · rename_i version group hversion hgroup
      cases hread : readGroup group with
      | ok pair => simp [hread, Except.map] at h
      | error e =>
        simp only [hread, Except.map, Except.error.injEq] at h
        rw [← h, rest_of_readGroup_error hread, ← hgroup]
        exact ((List.dropWhile_suffix _).trans (List.suffix_cons 'T' tail)).trans
          (List.suffix_cons '%' _)
    · obtain rfl := Except.error.inj h
      exact List.suffix_rfl
  · obtain rfl := Except.error.inj h
    exact List.suffix_rfl

theorem suffix_of_readBraces_error {chars : List Char} {fault : FaultAt}
    (h : readBraces chars = .error fault) : fault.rest <:+ '\x7b' :: chars := by
  unfold readBraces at h
  cases hfirst : readGroup chars with
  | error e =>
    simp only [hfirst, bind, Except.bind, Except.error.injEq] at h
    subst h
    exact (rest_of_readGroup_error hfirst).symm ▸ List.suffix_rfl
  | ok pair =>
    obtain ⟨first, tail⟩ := pair
    obtain ⟨-, rfl⟩ := readGroup_eq_ok_iff.mp hfirst
    simp only [hfirst, bind, Except.bind] at h
    split at h
    · rename_i group
      have hgroup : '\x7b' :: group <:+ '\x7b' :: (first ++ '\x7d' :: '=' :: '\x7b' :: group) :=
        ⟨'\x7b' :: (first ++ ['\x7d', '=']), by simp⟩
      cases hsecond : readGroup group with
      | error e =>
        simp only [hsecond, Except.error.injEq] at h
        rw [← h, rest_of_readGroup_error hsecond]
        exact hgroup
      | ok pair =>
        simp only [hsecond] at h
        split at h
        · simp [pure, Except.pure] at h
        · rw [← Except.error.inj h]
          exact (List.suffix_cons '\x7b' group).trans hgroup
    · simp [pure, Except.pure] at h

theorem suffix_of_readPiece_error {c : Char} {chars : List Char} {fault : FaultAt}
    (h : readPiece c chars = .error fault) : fault.rest <:+ c :: chars := by
  unfold readPiece at h
  split at h
  · rename_i hc
    rw [hc]
    exact suffix_of_readDirective_error h
  · split at h
    · rename_i hc
      rw [hc]
      exact suffix_of_readBraces_error h
    · simp at h

theorem suffix_of_readPieces_error {chars : List Char} {fault : FaultAt}
    (h : readPieces chars = .error fault) : fault.rest <:+ chars := by
  induction chars using readPieces.induct with
  | case1 => simp [readPieces] at h
  | case2 c chars e he =>
    rw [readPieces, he] at h
    rw [← Except.error.inj h]
    exact suffix_of_readPiece_error he
  | case3 c chars piece rest hpiece ih =>
    obtain ⟨spelling, hchars, -⟩ := readPiece_eq_ok_iff.mp hpiece
    rw [readPieces, hpiece] at h
    cases hrest : readPieces rest with
    | ok pieces => simp [hrest, Except.map] at h
    | error e =>
      simp only [hrest, Except.map, Except.error.injEq] at h
      rw [hchars]
      exact (ih (h ▸ hrest)).trans (List.suffix_append spelling rest)

theorem byteCount_eq (chars : List Char) :
    byteCount chars = (String.ofList chars).utf8ByteSize := by
  induction chars with
  | nil => rfl
  | cons c chars ih =>
    have hcons : String.ofList (c :: chars) = String.singleton c ++ String.ofList chars := by
      rw [String.singleton_eq_ofList, ← String.ofList_append, List.singleton_append]
    rw [hcons, String.utf8ByteSize_append, String.utf8ByteSize_singleton, ← ih]
    rfl

/-- An error names a position between two characters of the text. -/
theorem position_of_parse_error {source : String} {e : DescriptorError}
    (h : Descriptor.parse source = .error e) :
    ∃ before after, source = before ++ after ∧ e.position? = some before.utf8ByteSize := by
  unfold Descriptor.parse at h
  split at h
  · rename_i fault hfault
    obtain ⟨before, hbefore⟩ := suffix_of_readPieces_error hfault
    have hsource : source = String.ofList before ++ String.ofList fault.rest := by
      rw [← String.ofList_append, hbefore, String.ofList_toList]
    refine ⟨_, _, hsource, ?_⟩
    have hcount : byteCount source.toList - byteCount fault.rest =
        (String.ofList before).utf8ByteSize := by
      rw [← hbefore, byteCount_eq, byteCount_eq, String.ofList_append, String.utf8ByteSize_append]
      omega
    rw [← Except.error.inj h, ← hcount, FaultAt.error]
    split <;> rfl
  · simp at h

theorem Descriptor.parse_eq_ok_iff {source : String} {d : Descriptor} :
    Descriptor.parse source = .ok d ↔
      d.source = source ∧
        ∃ items, Split items source.toList ∧ Merged (items.map Prod.snd) d.tokens := by
  unfold Descriptor.parse
  constructor
  · intro h
    split at h
    · simp at h
    · rename_i pieces hpieces
      obtain ⟨items, hsplit, rfl⟩ := readPieces_eq_ok_iff.mp hpieces
      rw [← Except.ok.inj h]
      exact ⟨rfl, items, hsplit, merged_iff.mpr rfl⟩
  · rintro ⟨rfl, items, hsplit, hmerged⟩
    rw [readPieces_eq_ok_iff.mpr ⟨items, hsplit, rfl⟩]
    have htokens := (merged_iff.mp hmerged).symm
    exact congrArg (fun tokens => Except.ok (Descriptor.mk d.source tokens)) htokens

/-- A text is accepted exactly if it splits into items, in the one way that it
then does, and the descriptor has their tokens. An error names a position
between two characters of the text. -/
theorem Descriptor.parse_grammar (source : String) :
    ((∃ d, Descriptor.parse source = .ok d) ↔ ∃ items, Split items source.toList) ∧
    (∀ items items', Split items source.toList → Split items' source.toList → items = items') ∧
    (∀ d, Descriptor.parse source = .ok d ↔ d.source = source ∧
      ∃ items, Split items source.toList ∧ Merged (items.map Prod.snd) d.tokens) ∧
    (∀ d, Descriptor.parse source = .ok d →
      (∀ text, .literal text ∈ d.tokens → text ≠ "") ∧
        d.argsSize = d.tokens.foldr (fun t size => t.width + size) 0) ∧
    (∀ e, Descriptor.parse source = .error e →
      ∃ before after, source = before ++ after ∧ e.position? = some before.utf8ByteSize) := by
  refine ⟨?_, fun items items' h h' => h.unique h', fun d => parse_eq_ok_iff, fun d h => ?_,
    fun e h => position_of_parse_error h⟩
  · constructor
    · rintro ⟨d, h⟩
      obtain ⟨-, items, hsplit, -⟩ := parse_eq_ok_iff.mp h
      exact ⟨items, hsplit⟩
    · rintro ⟨items, hsplit⟩
      obtain ⟨tokens, hmerged⟩ := exists_merged (items.map Prod.snd)
      exact ⟨⟨source, tokens⟩, parse_eq_ok_iff.mpr ⟨rfl, items, hsplit, hmerged⟩⟩
  · obtain ⟨-, items, hsplit, hmerged⟩ := parse_eq_ok_iff.mp h
    exact ⟨fun text hmem => literal_ne_empty hsplit hmerged hmem, argsSize_eq d⟩

theorem Descriptor.split_braces :
    (∃ items, Split items "%T0\x7bA \x7b%\x7d \x7bn\x7d=%% \x7b:a\x7d=\x7b%>hu\x7d".toList) ∧
      ¬∃ items, Split items "\x7b:a\x7d=\x7b%hf\x7d".toList := by
  constructor
  · exact (parse_grammar _).1.mp ⟨_, by with_unfolding_all rfl⟩
  · rw [← (parse_grammar "\x7b:a\x7d=\x7b%hf\x7d").1]
    have hrefused : Descriptor.parse "\x7b:a\x7d=\x7b%hf\x7d" =
        .error (.invalidFormat 6 "%hf") := by
      with_unfolding_all rfl
    rintro ⟨d, h⟩
    simp [hrefused] at h

end LinkStack.Catalog
