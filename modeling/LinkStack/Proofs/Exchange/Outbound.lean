import LinkStack.Exchange.Outbound

/-!
The outbound queue, message by message.

What the queue says about a message is its `level`, the priority at which it is
queued. In a `Consistent` queue the ordered entries say the same, and every
operation keeps it so; what an operation does is then known from the levels.
-/

namespace LinkStack.Exchange.Outbound

/-- The priority at which a message is queued; `Priority.clear` if it is not. -/
def level (q : Outbound) (number : Nat) : Priority := (q.levels[number]?).getD .clear

structure Consistent (q : Outbound) : Prop where
  nodup : q.order.Nodup
  mem_iff : ∀ entry, entry ∈ q.order ↔
    entry.priority ≠ .clear ∧ q.level entry.number = entry.priority

theorem perm_insert (entry : Entry) (l : List Entry) : (insert entry l).Perm (entry :: l) := by
  induction l with
  | nil => exact .rfl
  | cons head tail ih =>
      rw [insert]
      split
      · exact .rfl
      · exact (ih.cons head).trans (.swap entry head tail)

section Levels

variable {q : Outbound} {number n : Nat} {priority : Priority}

theorem level_of_length_le (h : q.levels.length ≤ number) : q.level number = .clear := by
  rw [level, List.getElem?_eq_none h]
  rfl

theorem lt_length_of_level (h : q.level number ≠ .clear) : number < q.levels.length := by
  rw [← Nat.not_le]
  exact fun hle => h (level_of_length_le hle)

theorem getElem?_levels (h : number < q.levels.length) :
    q.levels[number]? = some (q.level number) := by
  rw [level, List.getElem?_eq_getElem h]
  rfl

theorem level_set {order : List Entry} (h : number < q.levels.length) :
    ({ order, levels := q.levels.set number priority } : Outbound).level n =
      if n = number then priority else q.level n := by
  rw [level, level, List.getElem?_set]
  by_cases hn : number = n
  · simp [← hn, h]
  · simp [hn, Ne.symm hn]

theorem isSome_priority? : (q.priority? n).isSome ↔ q.level n ≠ .clear := by
  by_cases hlt : n < q.levels.length
  · rw [priority?, getElem?_levels hlt]
    by_cases hclear : q.level n = .clear <;> simp [hclear]
  · have hle := Nat.not_lt.mp hlt
    rw [priority?, List.getElem?_eq_none hle, level_of_length_le hle]
    simp

/-- Queueing raises the level. -/
theorem push_cases (h : number < q.levels.length) (priority : Priority) :
    (priority ≤ q.level number ∧ q.push number priority = q) ∨
    (q.level number < priority ∧ q.push number priority =
      { order := insert { priority, number }
          (q.order.filter (· ≠ { priority := q.level number, number })),
        levels := q.levels.set number priority }) := by
  rw [push, post, getElem?_levels h]
  by_cases hle : priority ≤ q.level number
  · exact .inl ⟨hle, by simp [hle]⟩
  · exact .inr ⟨Nat.not_le.mp hle, by simp [hle]⟩

theorem push_of_length_le (h : q.levels.length ≤ number) : q.push number priority = q := by
  rw [push, post, List.getElem?_eq_none h]

theorem level_push (h : number < q.levels.length) :
    (q.push number priority).level n =
      if n = number then max (q.level number) priority else q.level n := by
  rcases push_cases h priority with ⟨hle, hpush⟩ | ⟨hlt, hpush⟩
  · rw [hpush, Nat.max_eq_left hle]
    split <;> simp [*]
  · rw [hpush, level_set h, Nat.max_eq_right (Nat.le_of_lt hlt)]

theorem level_push_of_ne (h : n ≠ number) : (q.push number priority).level n = q.level n := by
  by_cases hlt : number < q.levels.length
  · rw [level_push hlt, if_neg h]
  · rw [push_of_length_le (Nat.not_lt.mp hlt)]

theorem le_level_push : q.level n ≤ (q.push number priority).level n := by
  by_cases hlt : number < q.levels.length
  · rw [level_push hlt]
    by_cases hn : n = number
    · rw [if_pos hn, hn]
      exact Nat.le_max_left _ _
    · exact Nat.le_of_eq (if_neg hn).symm
  · exact Nat.le_of_eq (by rw [push_of_length_le (Nat.not_lt.mp hlt)])

@[simp] theorem length_levels_push : (q.push number priority).levels.length = q.levels.length := by
  by_cases hlt : number < q.levels.length
  · rcases push_cases hlt priority with ⟨-, hpush⟩ | ⟨-, hpush⟩ <;> simp [hpush]
  · rw [push_of_length_le (Nat.not_lt.mp hlt)]

theorem level_remove : (q.remove number).level n = if n = number then .clear else q.level n := by
  by_cases hlt : number < q.levels.length
  · rw [remove, getElem?_levels hlt]
    exact level_set hlt
  · rw [remove, List.getElem?_eq_none (Nat.not_lt.mp hlt)]
    by_cases hn : n = number
    · rw [if_pos hn, hn]
      exact level_of_length_le (Nat.not_lt.mp hlt)
    · rw [if_neg hn]

@[simp] theorem length_levels_remove : (q.remove number).levels.length = q.levels.length := by
  rw [remove]
  split <;> simp

end Levels

theorem consistent_new (messages : Nat) : (new messages).Consistent where
  nodup := List.nodup_nil
  mem_iff entry := by
    have hclear : (new messages).level entry.number = .clear := by
      rw [level, new, List.getElem?_replicate]
      split <;> rfl
    rw [hclear]
    simp [new, eq_comm]

@[simp] theorem length_levels_new (messages : Nat) : (new messages).levels.length = messages := by
  simp [new]

namespace Consistent

variable {q q' : Outbound} {number : Nat} {priority : Priority}

/-- Without its entry, a message is queued nowhere else. -/
theorem filter (h : q.Consistent) (number : Nat) :
    (q.order.filter (· ≠ { priority := q.level number, number })).Nodup ∧
    ∀ entry, entry ∈ q.order.filter (· ≠ { priority := q.level number, number }) ↔
      entry.number ≠ number ∧ entry.priority ≠ .clear ∧ q.level entry.number = entry.priority := by
  refine ⟨h.nodup.filter _, fun entry => ?_⟩
  rw [List.mem_filter, h.mem_iff, decide_eq_true_eq]
  constructor
  · rintro ⟨⟨hqueued, hlevel⟩, hother⟩
    refine ⟨?_, hqueued, hlevel⟩
    rintro rfl
    exact hother (by rw [hlevel])
  · rintro ⟨hnumber, hqueued, hlevel⟩
    exact ⟨⟨hqueued, hlevel⟩, fun hsame => hnumber (congrArg Entry.number hsame)⟩

theorem push (h : q.Consistent) (number : Nat) (priority : Priority) :
    (q.push number priority).Consistent := by
  by_cases hlt : number < q.levels.length
  · rcases push_cases hlt priority with ⟨-, hpush⟩ | ⟨hraised, hpush⟩
    · rwa [hpush]
    · obtain ⟨hnodup, hmem⟩ := h.filter number
      have hperm := perm_insert { priority, number }
        (q.order.filter (· ≠ { priority := q.level number, number }))
      rw [hpush]
      refine ⟨hperm.nodup_iff.mpr (List.nodup_cons.mpr ⟨?_, hnodup⟩), fun entry => ?_⟩
      · exact fun hin => ((hmem _).mp hin).1 rfl
      · rw [hperm.mem_iff, List.mem_cons, hmem, level_set hlt]
        have hqueued : priority ≠ .clear := Nat.ne_zero_of_lt hraised
        obtain ⟨level, m⟩ := entry
        by_cases hm : m = number
        · subst hm
          simp only [Entry.mk.injEq, ne_eq, not_true, false_and, or_false, and_true, if_true]
          constructor
          · rintro rfl
            exact ⟨hqueued, rfl⟩
          · exact fun hsame => hsame.2.symm
        · simp [hm]
  · rwa [push_of_length_le (Nat.not_lt.mp hlt)]

/-- Messages that are queued one after the other. -/
theorem foldl_push {α : Type} (entry : α → Nat × Priority) (l : List α) (h : q.Consistent) :
    (l.foldl (fun q a => q.push (entry a).1 (entry a).2) q).Consistent ∧
    (l.foldl (fun q a => q.push (entry a).1 (entry a).2) q).levels.length = q.levels.length := by
  induction l generalizing q with
  | nil => exact ⟨h, rfl⟩
  | cons a l ih =>
      obtain ⟨hrest, hlength⟩ := ih (h.push (entry a).1 (entry a).2)
      exact ⟨hrest, hlength.trans length_levels_push⟩

theorem remove (h : q.Consistent) (number : Nat) : (q.remove number).Consistent := by
  by_cases hlt : number < q.levels.length
  · obtain ⟨hnodup, hmem⟩ := h.filter number
    rw [Outbound.remove, getElem?_levels hlt]
    refine ⟨hnodup, fun entry => ?_⟩
    simp only
    rw [hmem, level_set hlt]
    by_cases hm : entry.number = number
    · simp [hm, eq_comm]
    · simp [hm]
  · rwa [Outbound.remove, List.getElem?_eq_none (Nat.not_lt.mp hlt)]

/-- The entry that is taken out, and the queue without it. -/
theorem pop {entry : Entry} (h : q.Consistent) (hpop : q.pop = some (entry, q')) :
    q'.Consistent ∧ entry.priority ≠ .clear ∧ q.level entry.number = entry.priority ∧
      q'.levels.length = q.levels.length ∧
      ∀ n, q'.level n = if n = entry.number then .clear else q.level n := by
  rw [Outbound.pop] at hpop
  cases horder : q.order with
  | nil => simp [horder] at hpop
  | cons first rest =>
      rw [horder] at hpop
      obtain ⟨rfl, rfl⟩ : first = entry ∧ _ = q' := by simpa using hpop
      have hfirst := (h.mem_iff first).mp (by simp [horder])
      have hlt : first.number < q.levels.length := by
        refine lt_length_of_level ?_
        rw [hfirst.2]
        exact hfirst.1
      have hnodup := h.nodup
      rw [horder, List.nodup_cons] at hnodup
      refine ⟨⟨hnodup.2, fun entry => ?_⟩, hfirst.1, hfirst.2, by simp, fun n => level_set hlt⟩
      have hmem := h.mem_iff entry
      rw [horder, List.mem_cons] at hmem
      rw [level_set hlt]
      by_cases hn : entry.number = first.number
      · simp only [hn, if_true]
        constructor
        · intro hin
          have hlevel := (hmem.mp (.inr hin)).2
          have hsame : entry = first := by
            cases entry
            cases first
            simp_all
          exact absurd (hsame ▸ hin) hnodup.1
        · rintro ⟨hqueued, hclear⟩
          exact absurd hclear.symm hqueued
      · rw [if_neg hn, ← hmem]
        constructor
        · exact .inr
        · rintro (rfl | hin)
          · exact absurd rfl hn
          · exact hin

/-- A message is queued if its level says so. -/
theorem exists_mem_iff (h : q.Consistent) (number : Nat) :
    (∃ entry ∈ q.order, entry.number = number) ↔ q.level number ≠ .clear := by
  constructor
  · rintro ⟨entry, hmem, rfl⟩
    obtain ⟨hqueued, hlevel⟩ := (h.mem_iff entry).mp hmem
    rwa [hlevel]
  · exact fun hqueued => ⟨⟨q.level number, number⟩, (h.mem_iff _).mpr ⟨hqueued, rfl⟩, rfl⟩

end Consistent

end LinkStack.Exchange.Outbound
