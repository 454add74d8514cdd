import LinkStack.Frame.Framer

/-!
The changes of state of a framing layer, case by case.
-/

namespace LinkStack.Frame

theorem Config.size_of_validate {c : Config} (h : c.validate = .ok ()) :
    minSize ≤ c.maxSize ∧ c.maxSize ≤ c.mode.ceiling := by
  by_cases hsize : c.maxSize < minSize ∨ c.mode.ceiling < c.maxSize
  · rw [validate, fault?, if_pos hsize] at h
    simp at h
  · omega

/-- The body of an acknowledgement fits. -/
theorem Config.three_le_maxSize {c : Config} (h : c.validate = .ok ()) :
    3 ≤ (Codec.ofConfig c).maxSize := by
  obtain ⟨hleast, hmost⟩ := size_of_validate h
  show 3 ≤ min c.maxSize c.mode.ceiling
  rw [Nat.min_eq_left hmost]
  exact Nat.le_of_succ_le hleast

theorem Config.ackTimeout_of_validate {c : Config} (h : c.validate = .ok ()) :
    c.ackTimeout ≠ 0 := by
  intro hzero
  by_cases hsize : c.maxSize < minSize ∨ c.mode.ceiling < c.maxSize
  · rw [validate, fault?, if_pos hsize] at h
    simp at h
  · rw [validate, fault?, if_neg hsize, if_pos hzero] at h
    simp at h

/-- A count below a limit does not wrap. -/
theorem toNat_succ_of_lt {count limit : UInt8} (h : count < limit) :
    (count + 1).toNat = count.toNat + 1 := by
  have hlt := UInt8.lt_iff_toNat_lt.mp h
  have hlimit := limit.toNat_lt
  rw [UInt8.toNat_add, UInt8.toNat_one]
  exact Nat.mod_eq_of_lt (by omega)

theorem Control.cons_of_data {payload packet : Bytes} {seq : UInt8}
    (h : Control.read payload = .data seq packet) :
    payload = opData :: seq :: packet ∧ packet ≠ [] := by
  unfold Control.read at h
  split at h
  · split at h
    · rename_i hdata
      cases h
      exact ⟨by rw [hdata.1], hdata.2⟩
    · split at h <;> cases h
  · cases h

/-- Confirmed data is never empty. -/
theorem Control.ne_nil_of_data {payload packet : Bytes} {seq : UInt8}
    (h : Control.read payload = .data seq packet) : packet ≠ [] :=
  (cons_of_data h).2

namespace Framer

variable {ρ : Type}

/-- What the retry timer decides. -/
theorem expireOutstanding_cases (f : Framer ρ) (now : Tick) :
    ((∀ o, f.outstanding = some o → now.since o.sentAt < f.config.ackTimeout) ∧
      f.expireOutstanding now = (.nothing, f)) ∨
    (∃ o, f.outstanding = some o ∧ f.config.ackTimeout ≤ now.since o.sentAt ∧
      o.retries < f.config.maxRetries ∧
      f.expireOutstanding now = (.retransmit o.wire,
        ({ f with outstanding := some { o with retries := o.retries + 1, sentAt := now } } :
          Framer ρ).count .txRetry)) ∨
    (∃ o, f.outstanding = some o ∧ f.config.ackTimeout ≤ now.since o.sentAt ∧
      f.config.maxRetries ≤ o.retries ∧
      f.expireOutstanding now =
        (.giveUp o.packet, ({ f with outstanding := none } : Framer ρ).count .txDropped)) := by
  rw [expireOutstanding]
  cases ho : f.outstanding with
  | none => exact .inl ⟨by simp, rfl⟩
  | some o =>
      by_cases hearly : now.since o.sentAt < f.config.ackTimeout
      · refine .inl ⟨?_, if_pos hearly⟩
        rintro o' ⟨⟩
        exact hearly
      have hdue := UInt32.not_lt.mp hearly
      by_cases hretries : o.retries < f.config.maxRetries
      · exact .inr (.inl ⟨o, rfl, hdue, hretries, by simp only [if_neg hearly, if_pos hretries]⟩)
      · exact .inr (.inr ⟨o, rfl, hdue, UInt8.not_lt.mp hretries, by
          simp only [if_neg hearly, if_neg hretries]⟩)

theorem acknowledge_cases (f : Framer ρ) (seq : UInt8) :
    (∃ o, f.outstanding = some o ∧ o.seq = seq ∧
      f.acknowledge seq = (some o.packet, { f with outstanding := none })) ∨
    ((∀ o, f.outstanding = some o → o.seq ≠ seq) ∧ f.acknowledge seq = (none, f)) := by
  rw [acknowledge]
  cases ho : f.outstanding with
  | none => exact .inr ⟨by simp, rfl⟩
  | some o =>
      by_cases hseq : o.seq = seq
      · exact .inl ⟨o, rfl, hseq, if_pos hseq⟩
      · refine .inr ⟨?_, if_neg hseq⟩
        rintro o' ⟨⟩
        exact hseq

theorem checkSize_eq_ok {f : Framer ρ} {size extra : Nat}
    (h : f.checkSize size extra = .ok ()) :
    size ≠ 0 ∧ size + extra ≤ f.bodyLimit := by
  rw [checkSize] at h
  split at h
  · simp at h
  · split at h
    · simp at h
    · omega

/-- Data with the last number is a copy exactly within the time that a sender
keeps trying. -/
theorem isRepeat_of_lastSeq {f : Framer ρ} {seq : UInt8} {last now : Tick}
    (h : f.lastSeq = some (seq, last)) : f.isRepeat now seq =
      decide ((now.since last).toNat ≤ f.config.ackTimeout.toNat * (f.config.maxRetries.toNat + 1)) := by
  rw [isRepeat, h]
  simp

end Framer
end LinkStack.Frame
