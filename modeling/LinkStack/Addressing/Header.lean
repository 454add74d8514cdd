import LinkStack.Layer.Basic

/-!
Sending a payload behind a header. The layer below has to take the packet as a
whole: a packet it takes in part is counted as dropped and the payload as not
sent.
-/

namespace LinkStack.Addressing

/-- Sends header and payload as one packet, and answers the length of the
payload once all of it is taken. -/
def sendBehind {m : Type → Type} [Monad m] (count : Traffic → m Unit)
    (send : Bytes → ExceptT LayerError m Nat) (header payload : Bytes) :
    ExceptT LayerError m Nat := do
  let packet := header ++ payload
  match ← attempt (send packet) with
  | .ok taken =>
    if packet.length ≤ taken then
      count (.txPacket payload.length)
      return payload.length
    else
      count .txDropped
      return 0
  | .error error =>
    count .txDropped
    throw error

end LinkStack.Addressing
