import LinkStack.Exchange.Priority

/-!
The outbound queue: which messages are to be sent, and in which order.

A message is queued at most once, and queueing it again can only raise its
priority. The most urgent message comes first, and of equally urgent ones the
one with the lowest number. The queue keeps the entries in that order, and
beside them the priority of every message, `Priority.clear` for those that are
not queued.
-/

namespace LinkStack.Exchange

/-- A queued message. -/
structure Entry where
  priority : Priority
  number : Nat
  deriving DecidableEq, Repr

/-- Whether an entry comes before another one. -/
def Entry.before (a b : Entry) : Bool :=
  b.priority < a.priority || (a.priority = b.priority && a.number < b.number)

structure Outbound where
  /-- The queued messages, the first to be sent first. -/
  order : List Entry
  /-- The priority of each message of the catalog. -/
  levels : List Priority
  deriving DecidableEq, Repr

namespace Outbound

/-- An empty queue for a catalog of the given size. -/
def new (messages : Nat) : Outbound :=
  { order := [], levels := List.replicate messages .clear }

/-- Puts an entry in its place. -/
def insert (entry : Entry) : List Entry → List Entry
  | [] => [entry]
  | head :: tail =>
    if entry.before head then entry :: head :: tail else head :: insert entry tail

/-- Queues a message or raises its priority, and tells whether that changed
anything. -/
def post (q : Outbound) (number : Nat) (priority : Priority) : Bool × Outbound :=
  match q.levels[number]? with
  | none => (false, q)
  | some level =>
    if priority ≤ level then (false, q)
    else
      let rest := q.order.filter (· ≠ { priority := level, number })
      (true, { order := insert { priority, number } rest,
               levels := q.levels.set number priority })

/-- Queues a message or raises its priority. -/
def push (q : Outbound) (number : Nat) (priority : Priority) : Outbound := (q.post number priority).2

/-- Takes a message out of the queue. -/
def remove (q : Outbound) (number : Nat) : Outbound :=
  match q.levels[number]? with
  | none => q
  | some level =>
    { order := q.order.filter (· ≠ { priority := level, number }),
      levels := q.levels.set number .clear }

/-- The priority of a queued message. -/
def priority? (q : Outbound) (number : Nat) : Option Priority :=
  match q.levels[number]? with
  | none => none
  | some level => if level = .clear then none else some level

/-- Takes out the first message to be sent. -/
def pop (q : Outbound) : Option (Entry × Outbound) :=
  match q.order with
  | [] => none
  | entry :: rest =>
    some (entry, { order := rest, levels := q.levels.set entry.number .clear })

def size (q : Outbound) : Nat := q.order.length

def isEmpty (q : Outbound) : Bool := q.order.isEmpty

/-- Takes out all messages, in the order in which they are to be sent. -/
def drain : Nat → Outbound → List Entry × Outbound
  | 0, q => ([], q)
  | turns + 1, q =>
    match q.pop with
    | none => ([], q)
    | some (entry, q) =>
      let (entries, q) := drain turns q
      (entry :: entries, q)

end Outbound

end LinkStack.Exchange
