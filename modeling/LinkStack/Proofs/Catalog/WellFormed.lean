import Mathlib.Algebra.GroupWithZero.Nat
import LinkStack.Proofs.Catalog.Finish
import LinkStack.Proofs.Slots

/-!
Which drafts of a catalog can be finished.

A draft is finished in stages, with many ways to refuse it. What they ask for together is
one property of the declarations that were assigned last (`WellFormed`), whatever the calls
by which the draft was filled; and nothing else is asked for. The stages are taken in turn:
one message, all of them, the terminator, the whole draft.
-/

namespace LinkStack.Catalog

variable {η : Type}

/-! ### What is asked of a catalog -/

/-- A catalog of the given capacity, in which the number of a message leads to its declaration. -/
structure WellFormed (capacity : Nat) (declared : Nat → Option (Declaration η)) : Prop where
  filled : ∀ number < capacity, ∃ d, declared number = some d
  few : capacity ≤ maxMessages
  parses : ∀ number d, declared number = some d →
    ∃ descriptor, Descriptor.parse d.descriptor = .ok descriptor
  priority : ∀ number d, declared number = some d → d.priority ≤ maxPriority
  size : ∀ number d, declared number = some d → d.size ≤ maxArgsSize
  fields : ∀ number d descriptor, declared number = some d →
    Descriptor.parse d.descriptor = .ok descriptor → descriptor.fields ≠ [] →
    (descriptor.fields.map fun field => field.2.width.bytes).sum = d.size
  title : ∀ number d descriptor, declared number = some d →
    Descriptor.parse d.descriptor = .ok descriptor → number ≠ 0 →
    ∀ version text, .title version text ∉ descriptor.tokens
  terminator : ∃ last, last + 1 = capacity ∧ ∀ number d descriptor, declared number = some d →
    Descriptor.parse d.descriptor = .ok descriptor →
    (.terminator ∈ descriptor.tokens ↔ number = last)

/-! ### Descriptors -/

namespace Descriptor

theorem argsSize_eq_sum (d : Descriptor) :
    d.argsSize = (d.fields.map fun field => field.2.width.bytes).sum := by
  rw [argsSize, List.sum_eq_foldr, List.foldr_map]

theorem hasFields_iff (d : Descriptor) : d.hasFields = true ↔ d.fields ≠ [] := by
  simp [hasFields]

theorem isSome_title_iff (d : Descriptor) :
    d.title.isSome = true ↔ ∃ version text, .title version text ∈ d.tokens := by
  rw [title, List.findSome?_isSome_iff]
  constructor
  · rintro ⟨token, hmem, htitle⟩
    cases token with
    | title version text => exact ⟨version, text, hmem⟩
    | _ => simp at htitle
  · rintro ⟨version, text, hmem⟩
    exact ⟨_, hmem, rfl⟩

theorem isTerminator_iff (d : Descriptor) : d.isTerminator = true ↔ .terminator ∈ d.tokens := by
  rw [isTerminator, List.contains_iff_mem]

end Descriptor

/-! ### One message -/

/-- The message that is made of a declaration. -/
def Declaration.message (d : Declaration η) (descriptor : Descriptor) : Message η :=
  { descriptor, size := d.size, handler := d.handler, priority := d.priority }

/-- What is asked of a declaration with its number. -/
structure Declaration.Sound (d : Declaration η) (number : Nat) (descriptor : Descriptor) :
    Prop where
  parses : Descriptor.parse d.descriptor = .ok descriptor
  priority : d.priority ≤ maxPriority
  size : d.size ≤ maxArgsSize
  fields : descriptor.fields ≠ [] →
    (descriptor.fields.map fun field => field.2.width.bytes).sum = d.size
  title : number ≠ 0 → ∀ version text, .title version text ∉ descriptor.tokens

theorem Declaration.check_eq_ok_iff {d : Declaration η} {number : Nat} {message : Message η} :
    d.check number = .ok message ↔
      ∃ descriptor, d.Sound number descriptor ∧ message = d.message descriptor := by
  rw [check]
  cases hparse : Descriptor.parse d.descriptor with
  | error error =>
      refine iff_of_false (by intro h; cases h) ?_
      rintro ⟨descriptor, hsound, -⟩
      rw [hsound.parses] at hparse
      cases hparse
  | ok descriptor =>
      have hother : ∀ descriptor', d.Sound number descriptor' → descriptor' = descriptor :=
        fun descriptor' hsound => Except.ok.inj (hsound.parses.symm.trans hparse)
      constructor
      · intro h
        simp only [mapError_ok, bind, Except.bind] at h
        split at h
        · cases h
        rename_i hpriority
        split at h
        · cases h
        rename_i hsize
        split at h
        · cases h
        rename_i hfields
        split at h
        · cases h
        rename_i htitle
        cases h
        rw [Descriptor.hasFields_iff, Descriptor.argsSize_eq_sum] at hfields
        rw [Descriptor.isSome_title_iff] at htitle
        refine ⟨descriptor, ⟨hparse, Nat.not_lt.mp hpriority, Nat.not_lt.mp hsize, ?_, ?_⟩, rfl⟩
        · exact fun hsome => Decidable.not_not.mp fun hne => hfields ⟨hsome, hne⟩
        · exact fun hnumber version text hmem => htitle ⟨hnumber, version, text, hmem⟩
      · rintro ⟨descriptor', hsound, rfl⟩
        obtain rfl := hother _ hsound
        have hfields : ¬(descriptor'.hasFields ∧ descriptor'.argsSize ≠ d.size) := by
          rw [Descriptor.hasFields_iff, Descriptor.argsSize_eq_sum]
          exact fun h => h.2 (hsound.fields h.1)
        have htitle : ¬(number ≠ 0 ∧ descriptor'.title.isSome) := by
          rw [Descriptor.isSome_title_iff]
          exact fun ⟨hnumber, version, text, hmem⟩ => hsound.title hnumber version text hmem
        simp only [mapError_ok, bind, Except.bind, if_neg (Nat.not_lt.mpr hsound.priority),
          if_neg (Nat.not_lt.mpr hsound.size), if_neg hfields, if_neg htitle]
        rfl

/-! ### All messages -/

theorem checkAll_cons_eq_ok_iff {index : Nat} {d : Declaration η} {rest : List (Declaration η)}
    {messages : List (Message η)} : checkAll index (d :: rest) = .ok messages ↔
      ∃ message later, d.check index = .ok message ∧ checkAll (index + 1) rest = .ok later ∧
        messages = message :: later := by
  rw [checkAll]
  cases hfirst : d.check index with
  | error error => exact iff_of_false (by intro h; cases h) (by simp)
  | ok message =>
      cases hrest : checkAll (index + 1) rest with
      | error error => exact iff_of_false (by intro h; cases h) (by simp)
      | ok later =>
          constructor
          · intro h
            obtain rfl := Except.ok.inj h
            exact ⟨message, later, rfl, rfl, rfl⟩
          · rintro ⟨message', later', hmessage, hlater, rfl⟩
            obtain rfl := Except.ok.inj hmessage
            obtain rfl := Except.ok.inj hlater
            rfl

theorem getElem?_of_checkAll {index : Nat} {declared : List (Declaration η)}
    {messages : List (Message η)} (h : checkAll index declared = .ok messages) {number : Nat}
    {d : Declaration η} (hd : declared[number]? = some d) :
    ∃ message, d.check (index + number) = .ok message ∧ messages[number]? = some message := by
  induction declared generalizing index messages number with
  | nil => simp at hd
  | cons first rest ih =>
      obtain ⟨message, later, hfirst, hrest, rfl⟩ := checkAll_cons_eq_ok_iff.mp h
      cases number with
      | zero =>
          obtain rfl : first = d := by simpa using hd
          exact ⟨message, hfirst, rfl⟩
      | succ number =>
          obtain ⟨found, hcheck, hfound⟩ := ih hrest (by simpa using hd)
          refine ⟨found, ?_, by simpa using hfound⟩
          rwa [Nat.add_right_comm] at hcheck

theorem exists_checkAll {index : Nat} {declared : List (Declaration η)}
    (h : ∀ (number : Nat) (d : Declaration η), declared[number]? = some d →
      ∃ message, d.check (index + number) = .ok message) :
    ∃ messages, checkAll index declared = .ok messages := by
  induction declared generalizing index with
  | nil => exact ⟨[], rfl⟩
  | cons first rest ih =>
      obtain ⟨message, hfirst⟩ := h 0 first rfl
      have hlater : ∀ (number : Nat) (d : Declaration η), rest[number]? = some d →
          ∃ message, d.check (index + 1 + number) = .ok message := by
        intro number d hd
        obtain ⟨found, hfound⟩ := h (number + 1) d (by simpa using hd)
        exact ⟨found, by rwa [← Nat.add_assoc, Nat.add_right_comm] at hfound⟩
      obtain ⟨later, hrest⟩ := ih hlater
      exact ⟨message :: later, checkAll_cons_eq_ok_iff.mpr ⟨message, later, hfirst, hrest, rfl⟩⟩

/-! ### The terminator -/

theorem checkTerminator_eq_ok_iff {messages : List (Message η)} :
    checkTerminator messages = .ok () ↔ ∃ last, last + 1 = messages.length ∧
      ∀ number message, messages[number]? = some message →
        (.terminator ∈ message.descriptor.tokens ↔ number = last) := by
  simp only [← Descriptor.isTerminator_iff]
  rw [checkTerminator]
  cases hfound : messages.findIdx? (·.descriptor.isTerminator) with
  | none =>
      refine iff_of_false nofun ?_
      rintro ⟨last, hlast, hall⟩
      have hlt : last < messages.length := hlast ▸ Nat.lt_succ_self last
      have hnone := List.findIdx?_eq_none_iff.mp hfound messages[last] (List.getElem_mem hlt)
      rw [(hall last _ (List.getElem?_eq_getElem hlt)).mpr rfl] at hnone
      cases hnone
  | some index =>
      obtain ⟨hlt, hindex, hearlier⟩ := List.findIdx?_eq_some_iff_getElem.mp hfound
      simp only
      constructor
      · intro h
        split at h
        · rename_i hlast
          refine ⟨index, hlast, fun number message hmessage => ?_⟩
          obtain ⟨hnumber, rfl⟩ := List.getElem?_eq_some_iff.mp hmessage
          constructor
          · intro hterminator
            refine Decidable.not_not.mp fun hne => ?_
            exact hearlier number (by omega) hterminator
          · rintro rfl
            exact hindex
        · cases h
      · rintro ⟨last, hlast, hall⟩
        have : index = last := (hall index _ (List.getElem?_eq_getElem hlt)).mp hindex
        rw [if_pos (this ▸ hlast)]

/-! ### The whole draft -/

theorem Draft.finish_of_stages {draft : Draft η} {declared : List (Declaration η)}
    {messages : List (Message η)} (hdeclared : Slots.finish draft = .ok declared)
    (hfew : declared.length ≤ maxMessages) (hmessages : checkAll 0 declared = .ok messages)
    (hlast : checkTerminator messages = .ok ()) : draft.finish = .ok { messages } := by
  rw [finish, hdeclared]
  simp only [mapError_ok, bind, Except.bind, if_neg (Nat.not_lt.mpr hfew), hmessages, hlast]
  rfl

/-- What a finished catalog has in common with the draft that it was made of. -/
theorem Draft.exists_message {draft : Draft η} (hmarked : Slots.Marked draft) {table : Table η}
    (h : draft.finish = .ok table) :
    table.size = Slots.capacity draft ∧ Slots.capacity draft ≤ maxMessages ∧
      (∀ number < table.size, ∃ d descriptor, Slots.get? draft number = some d ∧
        d.Sound number descriptor ∧ table.get? number = some (d.message descriptor)) ∧
      ∃ last, last + 1 = table.size ∧ ∀ number message, table.get? number = some message →
        (.terminator ∈ message.descriptor.tokens ↔ number = last) := by
  obtain ⟨declared, hdeclared, hfew, hmessages, hlast⟩ := finish_eq_ok h
  obtain ⟨hlength, hitems⟩ := hmarked.finish_eq_ok_iff.mp hdeclared
  have hsize : table.size = Slots.capacity draft := (length_checkAll hmessages).trans hlength
  refine ⟨hsize, hlength ▸ hfew, fun number hnumber => ?_, checkTerminator_eq_ok_iff.mp hlast⟩
  have hlt : number < declared.length := by omega
  have hd := List.getElem?_eq_getElem hlt
  obtain ⟨message, hcheck, hmessage⟩ := getElem?_of_checkAll hmessages hd
  rw [Nat.zero_add] at hcheck
  obtain ⟨descriptor, hsound, rfl⟩ := Declaration.check_eq_ok_iff.mp hcheck
  exact ⟨_, descriptor, (hitems number).symm.trans hd, hsound, hmessage⟩

theorem Draft.wellFormed_of_finish {draft : Draft η} (hmarked : Slots.Marked draft)
    {table : Table η} (h : draft.finish = .ok table) :
    WellFormed (Slots.capacity draft) (Slots.get? draft) := by
  obtain ⟨hsize, hfew, hmessages, last, hlast, hterminator⟩ := exists_message hmarked h
  -- a declaration is that of a message, and what its text is read as is that message's descriptor
  have hsound : ∀ number d, Slots.get? draft number = some d → ∃ descriptor,
      d.Sound number descriptor ∧ table.get? number = some (d.message descriptor) := by
    intro number d hd
    have hlt := Nat.lt_of_lt_of_le (hmarked.below number d hd) hmarked.within
    obtain ⟨d', descriptor, hd', hsound, hmessage⟩ := hmessages number (hsize ▸ hlt)
    obtain rfl := Option.some.inj (hd.symm.trans hd')
    exact ⟨descriptor, hsound, hmessage⟩
  have hread : ∀ number d descriptor, Slots.get? draft number = some d →
      Descriptor.parse d.descriptor = .ok descriptor →
      d.Sound number descriptor ∧ table.get? number = some (d.message descriptor) := by
    intro number d descriptor hd hparse
    obtain ⟨descriptor', hsound', hmessage⟩ := hsound number d hd
    obtain rfl := Except.ok.inj (hparse.symm.trans hsound'.parses)
    exact ⟨hsound', hmessage⟩
  refine ⟨fun number hnumber => ?_, hfew, fun number d hd => ?_, fun number d hd => ?_,
    fun number d hd => ?_, fun number d descriptor hd hparse => ?_,
    fun number d descriptor hd hparse => ?_,
    last, hlast.trans hsize, fun number d descriptor hd hparse => ?_⟩
  · obtain ⟨d, -, hd, -⟩ := hmessages number (hsize ▸ hnumber)
    exact ⟨d, hd⟩
  · obtain ⟨descriptor, hsound, -⟩ := hsound number d hd
    exact ⟨descriptor, hsound.parses⟩
  · obtain ⟨_, hd', -⟩ := hsound number d hd
    exact hd'.priority
  · obtain ⟨_, hd', -⟩ := hsound number d hd
    exact hd'.size
  · exact (hread number d descriptor hd hparse).1.fields
  · exact (hread number d descriptor hd hparse).1.title
  · exact hterminator number _ (hread number d descriptor hd hparse).2

theorem Draft.exists_finish {draft : Draft η} (hmarked : Slots.Marked draft)
    (h : WellFormed (Slots.capacity draft) (Slots.get? draft)) :
    ∃ table, draft.finish = .ok table := by
  obtain ⟨declared, hdeclared⟩ := hmarked.exists_finish_iff.mpr h.filled
  obtain ⟨hlength, hitems⟩ := hmarked.finish_eq_ok_iff.mp hdeclared
  have hsound : ∀ (number : Nat) (d : Declaration η), declared[number]? = some d →
      ∃ descriptor, d.Sound number descriptor := by
    intro number d hd
    rw [hitems number] at hd
    obtain ⟨descriptor, hparse⟩ := h.parses number d hd
    exact ⟨descriptor, hparse, h.priority number d hd, h.size number d hd,
      h.fields number d descriptor hd hparse, h.title number d descriptor hd hparse⟩
  obtain ⟨messages, hmessages⟩ : ∃ messages, checkAll 0 declared = .ok messages := by
    refine exists_checkAll fun number d hd => ?_
    obtain ⟨descriptor, hsound⟩ := hsound number d hd
    rw [Nat.zero_add]
    exact ⟨_, Declaration.check_eq_ok_iff.mpr ⟨descriptor, hsound, rfl⟩⟩
  have hlast : checkTerminator messages = .ok () := by
    obtain ⟨last, hlast, hterminator⟩ := h.terminator
    refine checkTerminator_eq_ok_iff.mpr
      ⟨last, by rw [hlast, length_checkAll hmessages, hlength], fun number message hmessage => ?_⟩
    have hlt : number < declared.length :=
      length_checkAll hmessages ▸ (List.getElem?_eq_some_iff.mp hmessage).1
    have hd := List.getElem?_eq_getElem hlt
    obtain ⟨message', hcheck, hmessage'⟩ := getElem?_of_checkAll hmessages hd
    obtain rfl := Option.some.inj (hmessage.symm.trans hmessage')
    obtain ⟨descriptor, hsound, rfl⟩ := Declaration.check_eq_ok_iff.mp hcheck
    exact hterminator number _ descriptor ((hitems number).symm.trans hd) hsound.parses
  exact ⟨_, finish_of_stages hdeclared (hlength ▸ h.few) hmessages hlast⟩

/-- Whatever the calls by which a draft was filled, it can be finished exactly if the
declarations that its slots were assigned last are a well-formed catalog, and the finished
catalog has their messages in the order of the slots, with the terminator last. -/
theorem Draft.finish_iff_wellFormed (capacity : Nat) (calls : List (Slots.Call (Declaration η))) :
    let draft : Draft η := (Slots.ofCapacity capacity).build calls
    let declared := (Slots.ofCapacity capacity).lastAssigned calls
    ((∃ table, draft.finish = .ok table) ↔ WellFormed capacity declared) ∧
    ∀ table, draft.finish = .ok table →
      table.size = capacity ∧ table.terminator + 1 = table.size ∧
      ∀ number < table.size, ∃ d descriptor, declared number = some d ∧
        Descriptor.parse d.descriptor = .ok descriptor ∧
        table.get? number =
          some { descriptor, size := d.size, handler := d.handler, priority := d.priority } := by
  intro draft declared
  have hmarked : Slots.Marked draft := (Slots.marked_ofCapacity capacity).build calls
  have hcapacity : Slots.capacity draft = capacity := by simp [draft]
  have hdeclared : Slots.get? draft = declared :=
    funext fun slot => Slots.get?_build_ofCapacity capacity calls slot
  constructor
  · rw [← hcapacity, ← hdeclared]
    exact ⟨fun ⟨table, h⟩ => Draft.wellFormed_of_finish hmarked h, Draft.exists_finish hmarked⟩
  · intro table h
    obtain ⟨hsize, -, hmessages, last, hlast, -⟩ := Draft.exists_message hmarked h
    refine ⟨hsize.trans hcapacity, ?_, fun number hnumber => ?_⟩
    · rw [Table.terminator]
      omega
    · obtain ⟨d, descriptor, hd, hsound, hmessage⟩ := hmessages number hnumber
      exact ⟨d, descriptor, hdeclared ▸ hd, hsound.parses, hmessage⟩

end LinkStack.Catalog
