import Mathlib.Logic.Function.Basic
import Mathlib.Logic.Relation
import LinkStack.Proofs.Exchange.Outbound

/-!
The outbound queue as a map from messages to priorities.

An `Agenda` says at which priority each message is queued, and `Agenda.Moves` what it
means for it to queue a message, to take one out, and to take out the first one. The
queue keeps its entries twice, in order and by message. In an `Ordered` queue the two
agree and the order is strict, so that nothing but the agenda is in it
(`Ordered.ext`): it does not matter in which order messages were queued. Every move on
the queue is a move on its agenda, and has the same answer (`behaves_as_agenda`).
-/

namespace LinkStack.Exchange

/-! ### The order of entries -/

namespace Entry

variable {a b c : Entry}

theorem before_iff : a.before b ↔
    b.priority < a.priority ∨ (a.priority = b.priority ∧ a.number < b.number) := by
  simp [before]

theorem before_trans (hab : a.before b) (hbc : b.before c) : a.before c := by
  simp only [before_iff, Priority] at *
  omega

theorem not_before_of_before (h : a.before b) : ¬ b.before a := by
  simp only [before_iff, Priority] at *
  omega

theorem before_or_before (h : a ≠ b) : a.before b ∨ b.before a := by
  obtain ⟨p, m⟩ := a
  obtain ⟨p', m'⟩ := b
  simp only [ne_eq, Entry.mk.injEq, before_iff, Priority] at *
  omega

end Entry

/-! ### Agendas -/

/-- What can be done with a queue. -/
inductive Move where
  | post (number : Nat) (priority : Priority)
  | remove (number : Nat)
  | pop
  deriving DecidableEq, Repr

/-- The answer to a move. -/
inductive Outcome where
  | posted (changed : Bool)
  | removed
  | popped (entry : Option Entry)
  deriving DecidableEq, Repr

/-- The priority at which each message is queued, if it is. -/
abbrev Agenda := Nat → Option Priority

namespace Agenda

def empty : Agenda := fun _ => none

/-- A message is queued at a priority, or stays at a higher one. -/
def raise (a : Agenda) (number : Nat) (priority : Priority) : Agenda :=
  Function.update a number (some (max ((a number).getD .clear) priority))

def without (a : Agenda) (number : Nat) : Agenda := Function.update a number none

/-- An entry of the highest priority, and of those the one with the lowest number. -/
structure IsFirst (a : Agenda) (entry : Entry) : Prop where
  queued : a entry.number = some entry.priority
  first : ∀ number priority, a number = some priority →
    priority < entry.priority ∨ (priority = entry.priority ∧ entry.number ≤ number)

/-- What a move means for a catalog of the given size, and what it answers. -/
inductive Moves (size : Nat) (a : Agenda) : Move → Outcome → Agenda → Prop where
  | post {number : Nat} {priority : Priority} {changed : Bool} (hlt : number < size)
      (hpriority : priority ≠ .clear) (hchanged : changed ↔ a.raise number priority ≠ a) :
      Moves size a (.post number priority) (.posted changed) (a.raise number priority)
  | ignore {number : Nat} {priority : Priority} (h : size ≤ number ∨ priority = .clear) :
      Moves size a (.post number priority) (.posted false) a
  | remove (number : Nat) : Moves size a (.remove number) .removed (a.without number)
  | pop {entry : Entry} (h : a.IsFirst entry) :
      Moves size a .pop (.popped (some entry)) (a.without entry.number)
  | idle (h : ∀ number, a number = none) : Moves size a .pop (.popped none) a

/-- Moves one after the other, with their answers. -/
inductive Runs (size : Nat) : Agenda → List Move → List Outcome → Agenda → Prop where
  | nil (a : Agenda) : Runs size a [] [] a
  | cons {a a' a'' : Agenda} {move : Move} {outcome : Outcome} {moves : List Move}
      {outcomes : List Outcome} (hmove : Moves size a move outcome a')
      (hrest : Runs size a' moves outcomes a'') :
      Runs size a (move :: moves) (outcome :: outcomes) a''

end Agenda

namespace Outbound

/-- A move on the queue, with its answer. -/
def move (q : Outbound) : Move → Outcome × Outbound
  | .post number priority => (.posted (q.post number priority).1, (q.post number priority).2)
  | .remove number => (.removed, q.remove number)
  | .pop =>
    match q.pop with
    | none => (.popped none, q)
    | some (entry, q') => (.popped (some entry), q')

def moves (q : Outbound) : List Move → List Outcome × Outbound
  | [] => ([], q)
  | m :: ms => ((q.move m).1 :: ((q.move m).2.moves ms).1, ((q.move m).2.moves ms).2)

/-- A queue after one move. -/
def Moved (q q' : Outbound) : Prop := ∃ m, q' = (q.move m).2

/-- A queue whose two parts agree, and whose order is strict. -/
structure Ordered (size : Nat) (q : Outbound) : Prop where
  consistent : q.Consistent
  strict : q.order.Pairwise fun a b => a.before b
  length : q.levels.length = size

/-- A queue says what an agenda says, in each of its parts. -/
structure Describes (size : Nat) (q : Outbound) (a : Agenda) : Prop where
  priority? : ∀ number, q.priority? number = a number
  size : q.size = (List.range size).countP fun number => (a number).isSome
  isEmpty : q.isEmpty ↔ ∀ number, a number = none
  order : ∀ entry, entry ∈ q.order ↔ a entry.number = some entry.priority
  levels : ∀ number priority, a number = some priority ↔
    q.levels[number]? = some priority ∧ priority ≠ .clear
  nodup : (q.order.map Entry.number).Nodup

/-! ### Levels and priorities -/

section Priorities

variable {q : Outbound} {number n : Nat} {priority : Priority}

theorem priority?_eq (q : Outbound) (n : Nat) :
    q.priority? n = if q.level n = .clear then none else some (q.level n) := by
  by_cases hlt : n < q.levels.length
  · rw [priority?, getElem?_levels hlt]
  · have hle := Nat.not_lt.mp hlt
    rw [priority?, List.getElem?_eq_none hle, level_of_length_le hle]
    rfl

theorem priority?_eq_some : q.priority? n = some priority ↔
    q.level n = priority ∧ priority ≠ .clear := by
  rw [priority?_eq]
  by_cases hclear : q.level n = .clear
  · rw [if_pos hclear, hclear]
    simp only [reduceCtorEq, false_iff, not_and, not_not]
    exact Eq.symm
  · rw [if_neg hclear, Option.some.injEq]
    constructor
    · rintro rfl
      exact ⟨rfl, hclear⟩
    · exact And.left

theorem priority?_eq_none : q.priority? n = none ↔ q.level n = .clear := by
  rw [← Option.not_isSome_iff_eq_none, isSome_priority?, ne_eq, Decidable.not_not]

theorem getD_priority? (q : Outbound) (n : Nat) : (q.priority? n).getD .clear = q.level n := by
  rw [priority?_eq]
  split
  · next hclear => exact hclear.symm
  · rfl

theorem priority?_push (hlt : number < q.levels.length) (hpriority : priority ≠ .clear) :
    (q.push number priority).priority? = Agenda.raise q.priority? number priority := by
  funext m
  rw [Agenda.raise, getD_priority?, Function.update_apply, priority?_eq, level_push hlt]
  by_cases hm : m = number
  · rw [if_pos hm, if_pos hm, if_neg]
    exact Nat.ne_zero_of_lt
      (Nat.lt_of_lt_of_le (Nat.pos_of_ne_zero hpriority) (Nat.le_max_right _ _))
  · rw [if_neg hm, if_neg hm, priority?_eq]

theorem priority?_remove : (q.remove number).priority? = Agenda.without q.priority? number := by
  funext m
  rw [Agenda.without, Function.update_apply, priority?_eq, level_remove]
  by_cases hm : m = number
  · rw [if_pos hm, if_pos hm, if_pos rfl]
  · rw [if_neg hm, if_neg hm, priority?_eq]

end Priorities

/-! ### Strict order -/

theorem pairwise_insert {entry : Entry} {l : List Entry}
    (h : l.Pairwise fun a b => a.before b) (hnew : entry ∉ l) :
    (insert entry l).Pairwise fun a b => a.before b := by
  induction l with
  | nil => exact List.pairwise_singleton _ _
  | cons head tail ih =>
      obtain ⟨hhead, htail⟩ := List.pairwise_cons.mp h
      rw [List.mem_cons, not_or] at hnew
      rw [insert]
      by_cases hbefore : entry.before head
      · rw [if_pos hbefore]
        refine List.pairwise_cons.mpr ⟨fun later hmem => ?_, h⟩
        rcases List.mem_cons.mp hmem with rfl | hmem
        · exact hbefore
        · exact Entry.before_trans hbefore (hhead later hmem)
      · rw [if_neg hbefore]
        refine List.pairwise_cons.mpr ⟨fun later hmem => ?_, ih htail hnew.2⟩
        rw [(perm_insert entry tail).mem_iff, List.mem_cons] at hmem
        rcases hmem with rfl | hmem
        · exact (Entry.before_or_before hnew.1).resolve_left hbefore
        · exact hhead later hmem

theorem ordered_new (size : Nat) : (new size).Ordered size :=
  ⟨consistent_new size, List.Pairwise.nil, length_levels_new size⟩

namespace Ordered

variable {size number : Nat} {priority : Priority} {q q' : Outbound} {entry : Entry}

theorem push (h : q.Ordered size) (number : Nat) (priority : Priority) :
    (q.push number priority).Ordered size := by
  refine ⟨h.consistent.push number priority, ?_, length_levels_push.trans h.length⟩
  by_cases hlt : number < q.levels.length
  · rcases push_cases hlt priority with ⟨-, hpush⟩ | ⟨-, hpush⟩
    · rw [hpush]
      exact h.strict
    · rw [hpush]
      exact pairwise_insert (h.strict.filter _) fun hin =>
        (((h.consistent.filter number).2 _).mp hin).1 rfl
  · rw [push_of_length_le (Nat.not_lt.mp hlt)]
    exact h.strict

theorem remove (h : q.Ordered size) (number : Nat) : (q.remove number).Ordered size := by
  refine ⟨h.consistent.remove number, ?_, length_levels_remove.trans h.length⟩
  rw [Outbound.remove]
  split
  · exact h.strict
  · exact h.strict.filter _

theorem pop (h : q.Ordered size) (hpop : q.pop = some (entry, q')) :
    q'.Ordered size ∧ ∀ later ∈ q'.order, entry.before later := by
  obtain ⟨hconsistent, -, -, hlength, -⟩ := h.consistent.pop hpop
  have hstrict := h.strict
  rw [Outbound.pop] at hpop
  cases horder : q.order with
  | nil => simp [horder] at hpop
  | cons first rest =>
      rw [horder] at hpop hstrict
      obtain ⟨rfl, rfl⟩ : first = entry ∧ _ = q' := by simpa using hpop
      obtain ⟨hfirst, hrest⟩ := List.pairwise_cons.mp hstrict
      exact ⟨⟨hconsistent, hrest, hlength.trans h.length⟩, hfirst⟩

theorem move (h : q.Ordered size) (m : Move) : (q.move m).2.Ordered size := by
  cases m with
  | post number priority => exact h.push number priority
  | remove number => exact h.remove number
  | pop =>
      rw [Outbound.move]
      cases hpop : q.pop with
      | none => exact h
      | some popped => exact (h.pop hpop).1

/-- So is every queue that moves lead to. -/
theorem of_moved (h : q.Ordered size) (hmoved : Relation.ReflTransGen Moved q q') :
    q'.Ordered size := by
  induction hmoved with
  | refl => exact h
  | tail _ hlast ih =>
      obtain ⟨m, rfl⟩ := hlast
      exact ih.move m

/-! ### What an ordered queue says -/

theorem mem_iff (h : q.Ordered size) :
    entry ∈ q.order ↔ q.priority? entry.number = some entry.priority := by
  rw [h.consistent.mem_iff, priority?_eq_some]
  exact And.comm

theorem order_eq_nil_iff (h : q.Ordered size) : q.order = [] ↔ ∀ n, q.priority? n = none := by
  rw [List.eq_nil_iff_forall_not_mem]
  constructor
  · intro hnone n
    refine Option.eq_none_iff_forall_ne_some.mpr fun priority hqueued => ?_
    exact hnone ⟨priority, n⟩ (h.mem_iff.mpr hqueued)
  · intro hnone entry hmem
    rw [h.mem_iff, hnone] at hmem
    cases hmem

/-- Nothing but the priorities is in an ordered queue. -/
theorem ext (h : q.Ordered size) (h' : q'.Ordered size) (hsame : q.priority? = q'.priority?) :
    q = q' := by
  have horder : q.order = q'.order := by
    refine List.Perm.eq_of_pairwise (fun a b _ _ hab hba => ?_) h.strict h'.strict ?_
    · exact absurd hba (Entry.not_before_of_before hab)
    · refine (List.perm_ext_iff_of_nodup h.consistent.nodup h'.consistent.nodup).mpr fun entry => ?_
      rw [h.mem_iff, h'.mem_iff, hsame]
  have hlevels : q.levels = q'.levels := by
    refine List.ext_getElem? fun n => ?_
    by_cases hlt : n < size
    · rw [getElem?_levels (h.length ▸ hlt), getElem?_levels (h'.length ▸ hlt), ← getD_priority?,
        ← getD_priority?, hsame]
    · rw [List.getElem?_eq_none (h.length ▸ Nat.not_lt.mp hlt),
        List.getElem?_eq_none (h'.length ▸ Nat.not_lt.mp hlt)]
  cases q
  cases q'
  simp_all

theorem isFirst (h : q.Ordered size) (hpop : q.pop = some (entry, q')) :
    Agenda.IsFirst q.priority? entry := by
  obtain ⟨-, hqueued, hlevel, -, hlevels⟩ := h.consistent.pop hpop
  refine ⟨priority?_eq_some.mpr ⟨hlevel, hqueued⟩, fun n priority hpriority => ?_⟩
  by_cases hn : n = entry.number
  · subst hn
    rw [priority?_eq_some, hlevel] at hpriority
    exact .inr ⟨hpriority.1.symm, Nat.le_refl _⟩
  · have hlater : (⟨priority, n⟩ : Entry) ∈ q'.order := by
      rw [(h.pop hpop).1.mem_iff, priority?_eq_some, hlevels, if_neg hn, ← priority?_eq_some]
      exact hpriority
    rcases Entry.before_iff.mp ((h.pop hpop).2 _ hlater) with hlower | ⟨hsame, hhigher⟩
    · exact .inl hlower
    · exact .inr ⟨hsame.symm, Nat.le_of_lt hhigher⟩

theorem priority?_pop (h : q.Ordered size) (hpop : q.pop = some (entry, q')) :
    q'.priority? = Agenda.without q.priority? entry.number := by
  obtain ⟨-, -, -, -, hlevels⟩ := h.consistent.pop hpop
  funext n
  rw [Agenda.without, Function.update_apply, priority?_eq, hlevels]
  by_cases hn : n = entry.number
  · rw [if_pos hn, if_pos hn, if_pos rfl]
  · rw [if_neg hn, if_neg hn, priority?_eq]

/-- The messages that are queued, by number. -/
theorem perm_numbers (h : q.Ordered size) : (q.order.map Entry.number).Nodup ∧
    (q.order.map Entry.number).Perm
      ((List.range size).filter fun n => (q.priority? n).isSome) := by
  have hnodup : (q.order.map Entry.number).Nodup := by
    refine List.pairwise_map.mpr (h.consistent.nodup.imp_of_mem fun {a b} ha hb hne hsame => hne ?_)
    have hpriority := h.mem_iff.mp ha
    rw [hsame, h.mem_iff.mp hb] at hpriority
    cases a
    cases b
    simp_all
  refine ⟨hnodup, (List.perm_ext_iff_of_nodup hnodup (List.nodup_range.filter _)).mpr fun n => ?_⟩
  rw [List.mem_map, List.mem_filter, List.mem_range, h.consistent.exists_mem_iff,
    isSome_priority?, ← h.length]
  exact ⟨fun hqueued => ⟨lt_length_of_level hqueued, hqueued⟩, And.right⟩

theorem describes (h : q.Ordered size) : q.Describes size q.priority? where
  priority? _ := rfl
  size := by
    rw [Outbound.size, ← List.length_map, h.perm_numbers.2.length_eq, List.countP_eq_length_filter]
  isEmpty := by
    rw [Outbound.isEmpty, List.isEmpty_iff, h.order_eq_nil_iff]
  order _ := h.mem_iff
  levels n priority := by
    rw [priority?_eq_some]
    refine and_congr_left fun hpriority => ?_
    by_cases hlt : n < q.levels.length
    · rw [getElem?_levels hlt, Option.some.injEq]
    · rw [level_of_length_le (Nat.not_lt.mp hlt), List.getElem?_eq_none (Nat.not_lt.mp hlt)]
      exact iff_of_false (Ne.symm hpriority) nofun
  nodup := h.perm_numbers.1

/-! ### Moves -/

/-- A move on the queue is one on its agenda. -/
theorem moves_agenda (h : q.Ordered size) (m : Move) :
    Agenda.Moves size q.priority? m (q.move m).1 (q.move m).2.priority? := by
  cases m with
  | remove number =>
      rw [Outbound.move]
      simp only [priority?_remove]
      exact .remove number
  | pop =>
      rw [Outbound.move]
      cases hpop : q.pop with
      | none =>
          refine .idle (h.order_eq_nil_iff.mp ?_)
          rw [Outbound.pop] at hpop
          cases horder : q.order with
          | nil => rfl
          | cons first rest => simp [horder] at hpop
      | some popped =>
          simp only [h.priority?_pop hpop]
          exact .pop (h.isFirst hpop)
  | post number priority =>
      change Agenda.Moves size q.priority? (.post number priority)
        (.posted (q.post number priority).1) (q.push number priority).priority?
      by_cases hignored : size ≤ number ∨ priority = .clear
      · -- nothing is changed, and the answer says so
        obtain ⟨hanswer, hsame⟩ : (q.post number priority).1 = false ∧
            q.push number priority = q := by
          rw [Outbound.push, post]
          rcases hignored with hle | rfl
          · rw [List.getElem?_eq_none (h.length ▸ hle)]
            exact ⟨rfl, rfl⟩
          · cases q.levels[number]? with
            | none => exact ⟨rfl, rfl⟩
            | some level => simp [Priority.clear]
        rw [hanswer, hsame]
        exact .ignore hignored
      · rw [not_or, Nat.not_le] at hignored
        obtain ⟨hlt, hpriority⟩ := hignored
        have hlevels : number < q.levels.length := h.length ▸ hlt
        rw [priority?_push hlevels hpriority]
        refine .post hlt hpriority ?_
        rw [← priority?_push hlevels hpriority]
        by_cases hle : priority ≤ q.level number
        · have hpost : q.post number priority = (false, q) := by
            rw [post, getElem?_levels hlevels]
            simp [hle]
          rw [Outbound.push, hpost]
          simp
        · have hpost : (q.post number priority).1 = true := by
            rw [post, getElem?_levels hlevels]
            simp [hle]
          refine iff_of_true hpost fun hsame => hle ?_
          have hlevel := congrArg (Option.getD · .clear) (congrFun hsame number)
          simp only [getD_priority?, level_push hlevels, if_true] at hlevel
          exact hlevel ▸ Nat.le_max_right _ _

theorem runs_agenda (h : q.Ordered size) (ms : List Move) :
    (q.moves ms).2.Ordered size ∧
    Agenda.Runs size q.priority? ms (q.moves ms).1 (q.moves ms).2.priority? := by
  induction ms generalizing q with
  | nil => exact ⟨h, .nil _⟩
  | cons m ms ih =>
      obtain ⟨hordered, hruns⟩ := ih (h.move m)
      exact ⟨hordered, .cons (h.moves_agenda m) hruns⟩

/-! ### Queueing in another order -/

/-- The queue after two messages does not depend on which of them was queued first. -/
theorem push_push (h : q.Ordered size) (a b : Nat × Priority) :
    (q.push a.1 a.2).push b.1 b.2 = (q.push b.1 b.2).push a.1 a.2 := by
  refine ext ((h.push _ _).push _ _) ((h.push _ _).push _ _) ?_
  -- each of the two raises the level of its own message, if there is such a message
  have hlevel : ∀ q : Outbound, q.levels.length = size → ∀ (c : Nat × Priority) n,
      (q.push c.1 c.2).level n = max (q.level n) (if n = c.1 ∧ n < size then c.2 else .clear) := by
    intro q hlength c n
    by_cases hlt : c.1 < size
    · rw [level_push (hlength ▸ hlt)]
      by_cases hn : n = c.1
      · rw [if_pos hn, if_pos ⟨hn, hn ▸ hlt⟩, hn]
      · rw [if_neg hn, if_neg fun hboth => hn hboth.1]
        exact (Nat.max_zero _).symm
    · rw [push_of_length_le (hlength ▸ Nat.not_lt.mp hlt), if_neg]
      · exact (Nat.max_zero _).symm
      · rintro ⟨rfl, hboth⟩
        exact hlt hboth
  have hlength : ∀ c : Nat × Priority, (q.push c.1 c.2).levels.length = size :=
    fun c => length_levels_push.trans h.length
  funext n
  rw [priority?_eq, priority?_eq, hlevel _ (hlength a), hlevel _ (hlength b), hlevel _ h.length,
    hlevel _ h.length, Nat.max_assoc, Nat.max_assoc,
    Nat.max_comm (if n = a.1 ∧ n < size then _ else _)]

theorem moves_perm (h : q.Ordered size) {posts posts' : List (Nat × Priority)}
    (hperm : posts.Perm posts') :
    (q.moves (posts.map fun p => .post p.1 p.2)).2 =
      (q.moves (posts'.map fun p => .post p.1 p.2)).2 := by
  induction hperm generalizing q with
  | nil => rfl
  | cons p _ ih => exact ih (h.push p.1 p.2)
  | swap a b rest =>
      exact congrArg (fun q : Outbound => (q.moves (rest.map fun p => .post p.1 p.2)).2)
        (h.push_push b a)
  | trans _ _ ih ih' => exact (ih h).trans (ih' h)

end Ordered

/-- A queue is a map from messages to priorities: every run of moves is one on the agenda,
with the same answers, and the order in which messages are queued makes no difference to
the order in which they are taken out. -/
theorem behaves_as_agenda (size : Nat) (ms : List Move) :
    ∃ a : Agenda, Agenda.Runs size .empty ms ((new size).moves ms).1 a ∧
      ((new size).moves ms).2.Describes size a ∧
      ∀ posts posts' : List (Nat × Priority), posts.Perm posts' → ∀ turns,
        (drain turns (((new size).moves ms).2.moves (posts.map fun p => .post p.1 p.2)).2).1 =
          (drain turns (((new size).moves ms).2.moves (posts'.map fun p => .post p.1 p.2)).2).1 := by
  have hnew : (new size).priority? = Agenda.empty := by
    funext n
    exact (ordered_new size).order_eq_nil_iff.mp rfl n
  obtain ⟨hordered, hruns⟩ := (ordered_new size).runs_agenda ms
  rw [hnew] at hruns
  refine ⟨_, hruns, hordered.describes, fun posts posts' hperm turns => ?_⟩
  rw [hordered.moves_perm hperm]

end Outbound

end LinkStack.Exchange
