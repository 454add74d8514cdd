import LinkStack.Layer.Basic

/-!
Channels are the bottom of a stack. What arrives there is handed to the layer
above, and counted as received only if that layer takes it.
-/

namespace LinkStack.Channel

/-- Hands received bytes to the parent and counts what becomes of them. -/
def deliver {m : Type → Type} [Monad m] {ρ S : Type} (site : Site m ρ S) (node : S → Node ρ)
    (count : Traffic → m Unit) (bytes : Bytes) : m Unit := do
  match ← (site.parent? node).run with
  | .ok (some parent) =>
    match ← (parent.recv bytes).run with
    | .ok _ => count (.rxPacket bytes.length)
    | .error _ => count .rxDropped
  | _ => count .rxDropped

end LinkStack.Channel
