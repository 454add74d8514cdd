import LinkStack.Proofs.Exchange.Operations

/-!
What happens to one message while others are dealt with.

A message is `Spared` by a change that leaves its place in the queue and its lock
alone and brings no arguments for it. Whatever is done for other messages spares it,
and so what an expiry of all locks means for it is known from its own lock
(`expires_expire`). Together, an expiry counts every lock that it releases, and
counts it once (`toNat_txDropped_expire`).
-/

namespace LinkStack.Exchange.Messenger

variable {ρ η : Type} {g g' g'' : Messenger ρ η} {number n : Nat} {priority : Priority}

/-- Nothing has happened to a message. -/
structure Spared (n : Nat) (g g' : Messenger ρ η) : Prop where
  level : g'.queue.level n = g.queue.level n
  lock : g'.lock? n = g.lock? n
  holds : g'.holds n → g.holds n

namespace Spared

theorem trans (h : Spared n g g') (h' : Spared n g' g'') : Spared n g g'' :=
  ⟨h'.level.trans h.level, h'.lock.trans h.lock, h.holds ∘ h'.holds⟩

/-- A change of other parts of the state. -/
theorem of_eq (hqueue : g'.queue = g.queue) (hlocks : g'.locks = g.locks)
    (hinbox : g'.inbox = g.inbox) : Spared n g g' := by
  refine ⟨by rw [hqueue], by rw [lock?, hlocks, lock?], ?_⟩
  rw [Messenger.holds, hinbox, Messenger.holds]
  exact id

theorem refl (g : Messenger ρ η) : Spared n g g :=
  of_eq rfl rfl rfl

theorem count (event : Traffic) : Spared n g (g.count event) :=
  of_eq rfl rfl rfl

theorem push (h : number ≠ n) (priority : Priority) : Spared n g (g.push number priority) :=
  ⟨Outbound.level_push_of_ne h.symm, rfl, id⟩

theorem unlock (h : number ≠ n) : Spared n g (g.unlock number) :=
  ⟨rfl, by rw [lock?_unlock, if_neg h.symm], id⟩

theorem relock (h : number ≠ n) (lock : Option Lock) :
    Spared n g { g with locks := g.locks.set number lock } :=
  ⟨rfl, by rw [lock?, List.getElem?_set_ne h, lock?], id⟩

theorem arm (h : number ≠ n) (now : Tick) (kind : LockKind) : Spared n g (g.arm now number kind) :=
  relock h _

theorem discard (number : Nat) : Spared n g (g.discard number) := by
  rw [Messenger.discard]
  split
  · exact ⟨rfl, rfl, fun hholds => absurd hholds (by simp [Messenger.holds])⟩
  · exact refl g

theorem pop (hqueue : g.queue.Consistent) {entry : Entry} {queue : Outbound}
    (hpop : g.queue.pop = some (entry, queue)) (h : entry.number ≠ n) :
    Spared n g { g with queue } := by
  obtain ⟨-, -, -, -, hlevels⟩ := hqueue.pop hpop
  exact ⟨(hlevels n).trans (if_neg h.symm), rfl, id⟩

theorem foldl {α : Type} {f : Messenger ρ η → α → Messenger ρ η} {l : List α}
    (hf : ∀ g, ∀ a ∈ l, Spared n g (f g a)) (g : Messenger ρ η) : Spared n g (l.foldl f g) := by
  induction l generalizing g with
  | nil => exact refl g
  | cons a l ih =>
      have hfirst := hf g a List.mem_cons_self
      exact hfirst.trans (ih (fun g b hb => hf g b (List.mem_cons_of_mem a hb)) _)

theorem answer (h : number ≠ n) (describe hasData : Bool) :
    Spared n g (g.answer number describe hasData) := by
  rw [Messenger.answer]
  repeat' split
  all_goals first | exact push h _ | exact refl g

theorem post (h : number ≠ n) (hpost : g.post number priority = .ok g') : Spared n g g' := by
  rcases post_cases hpost with rfl | ⟨-, rfl⟩ | ⟨-, -, rfl⟩
  · exact refl _
  · have hremoved : Spared n g { g with queue := g.queue.remove number } :=
      ⟨Outbound.level_remove.trans (if_neg h.symm), rfl, id⟩
    exact (hremoved.trans (unlock h)).trans (discard number)
  · exact push h _

end Spared

/-- A packet that is for a message: for it alone, or for the whole catalog. -/
def Addresses (table : Catalog.Table η) (flags : UInt8) (n : Nat) : Prop :=
  addressee table flags = n ∨ (asked flags = wholeCatalog ∧ 0 < n ∧ n < table.terminator)

theorem Spared.filled {flags : UInt8} (h : ¬ Addresses g.table flags n) :
    Spared n g (g.filled flags) := by
  rw [Messenger.filled]
  split
  · next hwhole =>
      refine foldl (fun g i hi => push ?_ _) g
      rintro rfl
      have hlt := List.mem_range.mp hi
      exact h (.inr ⟨hwhole, Nat.succ_pos i, by omega⟩)
  · exact refl g

theorem Spared.taken {flags : UInt8} (h : ¬ Addresses g.table flags n) (packet data : Bytes) :
    Spared n g (g.taken packet flags data) := by
  have hother : addressee g.table flags ≠ n := fun hsame => h (.inl hsame)
  have hfilled := Spared.filled h
  rw [Messenger.taken]
  by_cases hadmits : g.Admits flags data
  · have hasked : asked flags ≠ n := by
      obtain ⟨-, ⟨message, hmessage, -⟩, -⟩ := hadmits
      have hlast : asked flags ≤ g.table.terminator :=
        Nat.le_pred_of_lt (lt_size_of_get? hmessage)
      rwa [addressee, Nat.min_eq_left hlast] at hother
    have htaken : Spared n g
        { g.filled flags with inbox := some { number := asked flags, data } } :=
      ⟨hfilled.level, hfilled.lock, fun hholds => absurd (of_decide_eq_true hholds) hasked⟩
    rw [onPacket_of_admits hadmits, if_pos rfl]
    exact (htaken.trans (answer hasked _ _)).trans (count _)
  · rcases onPacket_of_not_admits hadmits with ⟨event, hpacket⟩ | hpacket <;> rw [hpacket]
    · exact hfilled.trans (count _)
    · exact (hfilled.trans (answer hother _ _)).trans (count _)

/-! ### Expiry -/

theorem spared_expireLock (h : number ≠ n) (now : Tick) : Spared n g (expireLock now g number) := by
  rw [expireLock]
  split
  · exact .refl g
  · split
    · exact .refl g
    · split
      · exact ((Spared.relock h _).trans (.push h _)).trans (.count _)
      · exact (Spared.unlock h).trans (.count _)

/-- The expiry of other locks. -/
theorem spared_foldl (now : Tick) {l : List Nat} (h : n ∉ l) (g : Messenger ρ η) :
    Spared n g (l.foldl (expireLock now) g) :=
  .foldl (fun _ number hnumber =>
    spared_expireLock (fun hsame : number = n => h (hsame ▸ hnumber)) now) g

/-- A lock that is gone. -/
def releases (g g' : Messenger ρ η) (n : Nat) : Bool := g.isLocked n && !g'.isLocked n

theorem Spared.isLocked (h : Spared n g g') : g'.isLocked n = g.isLocked n := by
  rw [Messenger.isLocked, h.lock, Messenger.isLocked]

theorem toNat_txDropped_expireLock (now : Tick) (g : Messenger ρ η) (number : Nat) :
    (expireLock now g number).stats.txDropped.toNat = min Stats.ceiling
      (g.stats.txDropped.toNat + (releases g (expireLock now g number) number).toNat) := by
  have hkept : ∀ g' : Messenger ρ η, g'.stats.txDropped = g.stats.txDropped →
      releases g g' number = false → g'.stats.txDropped.toNat = min Stats.ceiling
        (g.stats.txDropped.toNat + (releases g g' number).toNat) := by
    intro g' hsame hreleases
    have hlt := g.stats.txDropped.toNat_lt
    rw [hreleases, hsame, Bool.toNat_false, Stats.ceiling, UInt32.size]
    omega
  rw [expireLock]
  cases hlock : g.lock? number with
  | none => exact hkept g rfl (by simp [releases])
  | some lock =>
      have hlt := lt_length_of_lock? hlock
      simp only
      split
      · exact hkept g rfl (by simp [releases])
      · split
        · refine hkept _ rfl ?_
          rw [releases, isLocked, isLocked]
          rw [show Messenger.lock? (count _ _) number = _ from (lock?_set rfl rfl hlt)]
          simp
        · have hreleases : releases g ((g.unlock number).count .txDropped) number = true := by
            rw [releases, isLocked, isLocked, hlock, lock?_count, lock?_unlock, if_pos rfl]
            rfl
          rw [hreleases]
          exact Stats.toNat_bump _ 1

theorem toNat_txDropped_foldl (now : Tick) {l : List Nat} (hl : l.Nodup) (g : Messenger ρ η) :
    (l.foldl (expireLock now) g).stats.txDropped.toNat = min Stats.ceiling
      (g.stats.txDropped.toNat + l.countP (releases g (l.foldl (expireLock now) g))) := by
  induction l generalizing g with
  | nil =>
      have hlt := g.stats.txDropped.toNat_lt
      simp only [List.foldl_nil, List.countP_nil, Stats.ceiling, UInt32.size]
      omega
  | cons number l ih =>
      obtain ⟨hnumber, hl⟩ := List.nodup_cons.mp hl
      rw [List.foldl_cons, ih hl, toNat_txDropped_expireLock]
      have hlast : (l.foldl (expireLock now) (expireLock now g number)).isLocked number =
          (expireLock now g number).isLocked number := (spared_foldl now hnumber _).isLocked
      have hothers : l.countP (releases (expireLock now g number)
            (l.foldl (expireLock now) (expireLock now g number))) =
          l.countP (releases g (l.foldl (expireLock now) (expireLock now g number))) := by
        refine List.countP_congr fun m hm => ?_
        have hne : number ≠ m := fun hsame => hnumber (hsame ▸ hm)
        rw [releases, (spared_expireLock hne now).isLocked, releases]
      rw [hothers, List.countP_cons, releases, releases, hlast]
      split <;> simp [*] <;> omega

/-- An expiry counts every lock that it releases, once. -/
theorem toNat_txDropped_expire (g : Messenger ρ η) (now : Tick) :
    (g.expire now).stats.txDropped.toNat = min Stats.ceiling (g.stats.txDropped.toNat +
      (List.range g.locks.length).countP (releases g (g.expire now))) :=
  toNat_txDropped_foldl now List.nodup_range g

/-- A counter has gone up, or stands at its ceiling. -/
def risen (before after : UInt32) : Bool := before < after || after.toNat = Stats.ceiling

theorem risen_bump (counter : UInt32) : risen counter (Stats.bump counter 1) := by
  simp only [risen, Bool.or_eq_true, decide_eq_true_eq, UInt32.lt_iff_toNat_lt, Stats.toNat_bump]
  omega

theorem risen_expire {now : Tick} (h : releases g (g.expire now) n) :
    risen g.stats.txDropped (g.expire now).stats.txDropped := by
  have hlocked : (g.lock? n).isSome := ((Bool.and_eq_true _ _).mp h).1
  obtain ⟨lock, hlock⟩ := Option.isSome_iff_exists.mp hlocked
  have hcounted : 0 < (List.range g.locks.length).countP (releases g (g.expire now)) :=
    List.countP_pos_iff.mpr ⟨n, List.mem_range.mpr (lt_length_of_lock? hlock), h⟩
  simp only [risen, Bool.or_eq_true, decide_eq_true_eq, UInt32.lt_iff_toNat_lt,
    toNat_txDropped_expire]
  omega

/-- What an expiry can mean for a message without received arguments. -/
inductive Expires (n : Nat) (g g' : Messenger ρ η) : Prop where
  | kept (h : Spared n g g')
  | again {lock : Lock} (hlock : g.lock? n = some lock)
      (hretries : lock.retries < g.config.queryRetries)
      (hlock' : ∃ since, g'.lock? n = some { lock with retries := lock.retries + 1, since })
      (hlevel : g'.queue.level n = max (g.queue.level n) lock.kind.retryPriority)
      (hholds : g'.holds n → g.holds n)
  | dropped {lock : Lock} (hlock : g.lock? n = some lock) (hlock' : g'.lock? n = none)
      (hlevel : g'.queue.level n = g.queue.level n) (hholds : g'.holds n → g.holds n)
      (hcounted : risen g.stats.txDropped g'.stats.txDropped)

theorem expires_expireLock (htidy : g.Tidy) (now : Tick) : Expires n g (expireLock now g n) := by
  rw [expireLock]
  cases hlock : g.lock? n with
  | none => exact .kept (.refl g)
  | some lock =>
      have hlt := lt_length_of_lock? hlock
      simp only
      split
      · exact .kept (.refl g)
      · split
        · next hretries =>
            refine .again hlock hretries ?_ ?_ id
            · exact ⟨now, (lock?_set rfl rfl hlt).trans (if_pos rfl)⟩
            · refine (Outbound.level_push ?_).trans (if_pos rfl)
              rwa [htidy.levels, ← htidy.locks]
        · exact .dropped hlock (lock?_unlock.trans (if_pos rfl)) rfl id (risen_bump _)

/-- An expiry means for a message what its own step does. -/
theorem expires_expire (htidy : g.Tidy) (now : Tick) : Expires n g (g.expire now) := by
  by_cases hmem : n ∈ List.range g.locks.length
  · -- the steps before and after that of the message spare it
    obtain ⟨before, after, hsplit⟩ := List.append_of_mem hmem
    have hnodup : (before ++ n :: after).Nodup := hsplit ▸ List.nodup_range
    have hbefore : n ∉ before := by
      intro hin
      exact (List.nodup_append.mp hnodup).2.2 n hin n List.mem_cons_self rfl
    have hafter : n ∉ after := (List.nodup_cons.mp (List.nodup_append.mp hnodup).2.1).1
    have hfirst := spared_foldl now hbefore g
    have hminor : Minor g (before.foldl (expireLock now) g) :=
      .foldl (fun _ number => .expireLock now number) before g
    have hexpire : g.expire now =
        after.foldl (expireLock now) (expireLock now (before.foldl (expireLock now) g) n) := by
      rw [expire, hsplit, List.foldl_append, List.foldl_cons]
    generalize before.foldl (expireLock now) g = g₁ at hfirst hminor hexpire
    have hlast := spared_foldl now hafter (expireLock now g₁ n)
    have hmiddle := expires_expireLock (n := n) (hminor.tidy htidy) now
    rw [← hexpire] at hlast
    cases hmiddle with
    | kept h => exact .kept ((hfirst.trans h).trans hlast)
    | again hlock hretries hlock' hlevel hholds =>
        refine .again (hfirst.lock ▸ hlock) (hminor.config ▸ hretries)
          (hlock'.imp fun _ h => hlast.lock.trans h) ?_ (hfirst.holds ∘ hholds ∘ hlast.holds)
        rw [hlast.level, hlevel, hfirst.level]
    | dropped hlock hlock' hlevel hholds =>
        rw [hfirst.lock] at hlock
        rw [← hlast.lock] at hlock'
        refine .dropped hlock hlock' (hlast.level.trans (hlevel.trans hfirst.level))
          (hfirst.holds ∘ hholds ∘ hlast.holds) (risen_expire (n := n) ?_)
        simp [releases, isLocked, hlock, hlock']
  · exact .kept (spared_foldl now hmem g)

end LinkStack.Exchange.Messenger
