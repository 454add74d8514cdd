/-!
The tick clock of a stack.

Timeouts are counted in ticks of one shared clock. The counter has 32 bits and
wraps, so a duration is always the wrapped difference of two readings. A manual
clock moves when it is advanced; a monotonic one is set, at every refresh, to
the time since it was made divided by its resolution. Whoever holds a timer is
registered by reference and told of every change.
-/

namespace LinkStack

/-- A reading of the clock. -/
abbrev Tick := UInt32

/-- The ticks from one reading to a later one, across a wrap of the counter. -/
def Tick.since (now since : Tick) : Tick := now - since

/-- The clock: its reading, its resolution in nanoseconds if it follows real
time, and the registered timers, oldest first. -/
structure Clock (ρ : Type) where
  now : Tick := 0
  resolution : Option Nat := none
  timers : List ρ := []
  deriving Repr

namespace Clock

variable {ρ : Type}

/-- A clock that moves only when told to. -/
def manual : Clock ρ := {}

/-- A clock that follows real time. A resolution of zero stands for one
millisecond. -/
def monotonic (nanoseconds : Nat) : Clock ρ :=
  { resolution := some (if nanoseconds = 0 then 1000000 else nanoseconds) }

def isMonotonic (c : Clock ρ) : Bool := c.resolution.isSome

/-- The ticks that passed since a reading. -/
def elapsed (c : Clock ρ) (since : Tick) : Tick := c.now.since since

def advance (c : Clock ρ) (ticks : Tick) : Clock ρ := { c with now := c.now + ticks }

/-- Sets a monotonic clock to the given age in nanoseconds; a manual one stays. -/
def refresh (c : Clock ρ) (age : Nat) : Clock ρ :=
  match c.resolution with
  | none => c
  | some resolution => { c with now := UInt32.ofNat (age / resolution) }

def register (c : Clock ρ) (timer : ρ) : Clock ρ := { c with timers := c.timers ++ [timer] }

/-- Forgets the timers that are gone. -/
def prune (c : Clock ρ) (alive : ρ → Bool) : Clock ρ :=
  { c with timers := c.timers.filter alive }

/-- How a clock is written out. -/
def describe (c : Clock ρ) : String :=
  "Clock \x7b now: " ++ toString c.now.toNat ++ ", monotonic: " ++ toString c.isMonotonic ++ " \x7d"

end Clock

end LinkStack
