import LinkStack.Catalog.Table

/-!
What is known of a finished catalog.

A draft is finished in stages, and each of them may refuse it. A catalog that has passed
all of them has been through each (`Draft.finish_eq_ok`).
-/

namespace LinkStack.Catalog

variable {η : Type}

theorem length_checkAll {declared : List (Declaration η)} {index : Nat}
    {messages : List (Message η)} (h : checkAll index declared = .ok messages) :
    messages.length = declared.length := by
  induction declared generalizing index messages with
  | nil =>
      obtain rfl := Except.ok.inj h
      rfl
  | cons first rest ih =>
      rw [checkAll] at h
      cases hfirst : first.check index with
      | error error =>
          rw [hfirst] at h
          cases h
      | ok message =>
          cases hrest : checkAll (index + 1) rest with
          | error error =>
              rw [hfirst, hrest] at h
              cases h
          | ok later =>
              rw [hfirst, hrest] at h
              obtain rfl := Except.ok.inj h
              exact congrArg (· + 1) (ih hrest)

theorem Draft.finish_eq_ok {draft : Draft η} {table : Table η} (h : draft.finish = .ok table) :
    ∃ declared, Slots.finish draft = .ok declared ∧ declared.length ≤ maxMessages ∧
      checkAll 0 declared = .ok table.messages ∧ checkTerminator table.messages = .ok () := by
  rw [finish] at h
  cases hdeclared : Slots.finish draft with
  | error error =>
      rw [hdeclared] at h
      cases h
  | ok declared =>
      have hdrafted : (Except.ok declared : Except SlotsError (List (Declaration η))).mapError
          Error.table = .ok declared := rfl
      rw [hdeclared, hdrafted] at h
      by_cases hmany : maxMessages < declared.length
      · simp [hmany, bind, Except.bind] at h
      cases hmessages : checkAll 0 declared with
      | error error => simp [hmany, hmessages, bind, Except.bind] at h
      | ok messages =>
          cases hlast : checkTerminator messages with
          | error error => simp [hmany, hmessages, hlast, bind, Except.bind] at h
          | ok _ =>
              have htable : { messages } = table := by
                simpa [hmany, hmessages, hlast, bind, Except.bind, pure, Except.pure] using h
              subst htable
              exact ⟨declared, rfl, Nat.not_lt.mp hmany, hmessages, hlast⟩

/-- A finished catalog has a message, its terminator, and not too many. -/
theorem Draft.size_of_finish {draft : Draft η} {table : Table η} (h : draft.finish = .ok table) :
    0 < table.size ∧ table.size ≤ maxMessages := by
  obtain ⟨declared, -, hmany, hmessages, hlast⟩ := finish_eq_ok h
  refine ⟨Nat.pos_of_ne_zero fun hnone => ?_,
    Nat.le_trans (Nat.le_of_eq (length_checkAll hmessages)) hmany⟩
  rw [List.length_eq_zero_iff.mp hnone] at hlast
  cases hlast

end LinkStack.Catalog
