import LinkStack.Layer.Basic

/-!
The top of a stack: a layer that hands what it receives to the application and
sends nothing.
-/

namespace LinkStack

/-- A receiver's name and counters; what it does with a packet is the
application's business and answers how many bytes it used. -/
structure Receiver where
  name : String
  stats : Stats := {}
  deriving DecidableEq, Repr

/-- The receiver as a layer. -/
def Receiver.layer {m : Type → Type} [Monad m] {ρ : Type} (site : Site m ρ Receiver)
    (use : Bytes → m Nat) : Layer m where
  name := return (← site.get).name
  recv packet := do
    let used ← use packet
    site.modify fun r => { r with stats := r.stats.count (.rxPacket used) }
    return used
  send _ := do throw (.unlinked (← site.get).name .child)
  capacity := pure 0
  delivered _ := pure ()
  stats := return (← site.get).stats

end LinkStack
