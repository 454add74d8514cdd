import LinkStack.Proofs.Catalog.Arguments
import LinkStack.Proofs.Text.Digits

/-!
The text of a descriptor with its arguments filled in.

Rendering goes over all tokens and decoding over the fields alone, each with a place of its own in
the argument bytes. The two keep in step: the text has, at every field, the spelling of the value
that is decoded there (`Descriptor.render_fills`). What a text is, is said without bytes: `Spelled`
for one value, `Filled` for tokens and values. Floating-point fields are left out, whose text is the
shortest that reads back.
-/

namespace LinkStack.Catalog

open Text (Numeral decimalDigits Hex.alphabet)

/-- A value is spelled in a field of a conversion: a number of base ten with its sign, or one of
base sixteen behind `0x`. -/
inductive Spelled : Conversion → Value → List Char → Prop
  | unsigned {n : Nat} {chars : List Char} : Numeral decimalDigits n chars →
      Spelled .unsigned (.unsigned n) chars
  | hex {upper : Bool} {n : Nat} {chars : List Char} : Numeral (Hex.alphabet upper) n chars →
      Spelled (.hex upper) (.unsigned n) ('0' :: 'x' :: chars)
  | signed {n : Nat} {chars : List Char} : Numeral decimalDigits n chars →
      Spelled .signed (.signed (.ofNat n)) chars
  | negative {n : Nat} {chars : List Char} : Numeral decimalDigits (n + 1) chars →
      Spelled .signed (.signed (.negSucc n)) ('-' :: chars)

/-- Tokens with values in place of their fields, written one after the other. -/
inductive Filled : List Token → List Value → List Char → Prop
  | nil : Filled [] [] []
  | literal {tokens : List Token} {values : List Value} {chars : List Char} (text : String) :
      Filled tokens values chars → Filled (.literal text :: tokens) values (text.toList ++ chars)
  | title {tokens : List Token} {values : List Value} {chars : List Char} (version : Nat)
      (text : String) : Filled tokens values chars →
      Filled (.title version text :: tokens) values (text.toList ++ chars)
  | terminator {tokens : List Token} {values : List Value} {chars : List Char} :
      Filled tokens values chars → Filled (.terminator :: tokens) values chars
  | constant {tokens : List Token} {values : List Value} {chars : List Char} (name : String)
      (marker : Option Marker) (value : String) : Filled tokens values chars →
      Filled (.constant name marker value :: tokens) values
        (name.toList ++ '=' :: (value.toList ++ chars))
  | field {tokens : List Token} {values : List Value} {chars : List Char} (name : String)
      (marker : Option Marker) (format : FieldFormat) {value : Value} {spelling : List Char} :
      Spelled format.conversion value spelling → Filled tokens values chars →
      Filled (.field name marker format :: tokens) (value :: values)
        (name.toList ++ '=' :: (spelling ++ chars))

theorem Spelled.unique {conversion : Conversion} {value : Value} {chars chars' : List Char}
    (h : Spelled conversion value chars) (h' : Spelled conversion value chars') :
    chars = chars' := by
  cases h with
  | unsigned hn =>
      cases h' with
      | unsigned hn' => exact hn.unique hn'
  | hex hn =>
      cases h' with
      | hex hn' => rw [hn.unique hn']
  | signed hn =>
      cases h' with
      | signed hn' => exact hn.unique hn'
  | negative hn =>
      cases h' with
      | negative hn' => rw [hn.unique hn']

theorem Filled.unique {tokens : List Token} {values : List Value} {chars chars' : List Char}
    (h : Filled tokens values chars) (h' : Filled tokens values chars') : chars = chars' := by
  induction h generalizing chars' with
  | nil =>
      cases h'
      rfl
  | literal text _ ih =>
      cases h' with
      | literal _ hrest => rw [ih hrest]
  | title version text _ ih =>
      cases h' with
      | title _ _ hrest => rw [ih hrest]
  | terminator _ ih =>
      cases h' with
      | terminator hrest => exact ih hrest
  | constant name marker value _ ih =>
      cases h' with
      | constant _ _ _ hrest => rw [ih hrest]
  | field name marker format hvalue _ ih =>
      cases h' with
      | field _ _ _ hvalue' hrest => rw [hvalue.unique hvalue', ih hrest]

/-- A field that is not floating-point spells what it reads, whatever the bytes are. -/
theorem FieldFormat.spelled_render_read {f : FieldFormat} (hf : f.conversion ≠ .float)
    (bytes : Bytes) : Spelled f.conversion (f.read bytes) (f.render (f.read bytes)).toList := by
  cases hc : f.conversion with
  | float => exact absurd hc hf
  | unsigned =>
      simp only [read, render, hc]
      exact .unsigned (.toString _)
  | hex upper =>
      cases upper with
      | false =>
          simp only [read, render, hc, String.toList_append]
          exact .hex (.hex_lower _)
      | true =>
          simp only [read, render, hc, String.toList_append]
          exact .hex (.hex_upper _)
  | signed =>
      simp only [read, render, hc]
      cases Int.bmod (f.unpack bytes) f.range with
      | ofNat n => exact .signed (.toString n)
      | negSucc n =>
          show Spelled _ _ ("-" ++ toString (n + 1)).toList
          rw [String.toList_append]
          exact .negative (.toString (n + 1))

/-- The binary field that a token is. -/
def Token.field? : Token → Option (String × FieldFormat)
  | .field name _ format => some (name, format)
  | _ => none

namespace Descriptor

/-- Rendering and decoding walk through the bytes in step: at every field both have passed over
the same of them. -/
theorem filled_renderTokens {tokens : List Token} (hf : Integral (tokens.filterMap Token.field?))
    (args : Bytes) : Filled tokens (readFields (tokens.filterMap Token.field?) args)
      ((renderTokens tokens args).flatMap String.toList) := by
  induction tokens generalizing args with
  | nil => exact .nil
  | cons token tokens ih =>
      cases token with
      | literal text => exact .literal text (ih hf args)
      | title version text => exact .title version text (ih hf args)
      | terminator => exact .terminator (ih hf args)
      | constant name marker value =>
          have h := Filled.constant name marker value (ih hf args)
          rw [renderTokens, List.flatMap_cons, String.toList_append, String.toList_append,
            List.append_assoc, List.append_assoc]
          exact h
      | field name marker format =>
          have hhead := FieldFormat.spelled_render_read (hf (name, format) (.head _))
            (args.take format.width.bytes)
          have hrest := ih (fun field hmem => hf field (.tail _ hmem))
            (args.drop format.width.bytes)
          have h := Filled.field name marker format hhead hrest
          rw [renderTokens, List.flatMap_cons, String.toList_append, String.toList_append,
            List.append_assoc, List.append_assoc]
          exact h

theorem render_eq (d : Descriptor) (args : Bytes) :
    d.render args =
      if args.length = d.argsSize then .ok (String.join (renderTokens d.tokens args))
      else .error (.sizeMismatch d.argsSize args.length) := by
  unfold render checkSize
  split <;> rfl

/-- Without floating-point fields, a descriptor renders exactly the bytes that it decodes, which
are those of the size of its arguments. Its text is that of its tokens with the decoded values in
their fields, and no other. -/
theorem render_fills (d : Descriptor) (hf : Integral d.fields) (args : Bytes) :
    ((∃ text, d.render args = .ok text) ↔ ∃ values, d.decode args = .ok values) ∧
    ((∃ values, d.decode args = .ok values) ↔ args.length = d.argsSize) ∧
    ∀ values, d.decode args = .ok values →
      ∀ text, d.render args = .ok text ↔ Filled d.tokens values text.toList := by
  rw [decode_eq, render_eq]
  by_cases hsize : args.length = d.argsSize
  · rw [if_pos hsize, if_pos hsize]
    refine ⟨⟨fun _ => ⟨_, rfl⟩, fun _ => ⟨_, rfl⟩⟩, ⟨fun _ => hsize, fun _ => ⟨_, rfl⟩⟩, ?_⟩
    intro values hvalues text
    obtain rfl := Except.ok.inj hvalues
    have hfilled : Filled d.tokens (readFields d.fields args)
        ((renderTokens d.tokens args).flatMap String.toList) := filled_renderTokens hf args
    rw [← String.toList_join] at hfilled
    constructor
    · intro h
      obtain rfl := Except.ok.inj h
      exact hfilled
    · intro h
      rw [String.toList_inj.mp (hfilled.unique h)]
  · rw [if_neg hsize, if_neg hsize]
    simp [hsize]

/-- A title, a constant, two fields of different ends and cases, and the mark of the last
message. -/
def pump : Descriptor where
  source :=
    "%T1\x7bPump\x7d \x7b#sno\x7d=\x7b17\x7d \x7b:id\x7d=\x7b%>X\x7d, \x7b:t\x7d=\x7b%hd\x7d%!"
  tokens := [
    .title 1 "Pump", .literal " ", .constant "sno" (some .constant) "17", .literal " ",
    .field "id" (some .parameter) ⟨.big, .two, .hex true⟩, .literal ", ",
    .field "t" (some .parameter) ⟨.little, .one, .signed⟩, .terminator]

theorem render_fills_pump :
    parse pump.source = .ok pump ∧ Integral pump.fields ∧
    Filled pump.tokens [.unsigned 0xBEEF, .signed (-2)] "Pump sno=17 id=0xBEEF, t=-2".toList :=
  have hf : Integral pump.fields := by decide
  ⟨by with_unfolding_all rfl, hf, ((render_fills pump hf [0xBE, 0xEF, 0xFE]).2.2 _
    (by decide +kernel) _).mp (by decide +kernel)⟩

end Descriptor

end LinkStack.Catalog
