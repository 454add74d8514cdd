import LinkStack.Proofs.Frame.Staleness

/-!
The limits of a framing layer, in whatever it does.

A framing layer subtracts in three places: the header of confirmed data from its limit, one from
the size of a longest body, and what a frame adds from the room of its child. The settings never
change (`settled_run`), and the limit that was checked when the layer was made leaves room for the
first two; the third stops at zero. So none of them goes below zero in any state of a run
(`Framer.stays_exact`).
-/

namespace LinkStack.Frame

variable {E α : Type}

namespace Framer

variable {ρ : Type} {f : Framer ρ}

/-- What a framing layer computes with its limit is what it would be in whole numbers. -/
structure Exact (f : Framer ρ) : Prop where
  /-- The longest packet behind each of the two headers. -/
  packet : ∀ extra ∈ [0, controlHeader],
    ((f.bodyLimit - extra : Nat) : Int) = f.bodyLimit - extra
  /-- The number in the length field of a longest body. -/
  lengthField : ((f.bodyLimit - 1 : Nat) : Int) = f.bodyLimit - 1
  /-- The longest packet that a child with some room can take: none, if a frame does not fit. -/
  capacity : ∀ room : Nat,
    ((min (room - f.config.mode.overhead f.bodyLimit) f.bodyLimit : Nat) : Int) =
      min (max (room - f.config.mode.overhead f.bodyLimit) 0) f.bodyLimit

theorem config_expirePartial (f : Framer ρ) (now : Tick) :
    (f.expirePartial now).config = f.config := by
  have hveil := congrArg Framer.config (f.expirePartial_veil now)
  exact hveil

theorem exact_of_validate (h : f.config.validate = .ok ()) : f.Exact where
  packet := by
    have hlimit : 3 ≤ f.bodyLimit := Config.three_le_maxSize h
    intro extra hextra
    simp only [controlHeader, List.mem_cons, List.not_mem_nil, or_false] at hextra
    omega
  lengthField := by
    have hlimit : 3 ≤ f.bodyLimit := Config.three_le_maxSize h
    omega
  capacity := by
    intro room
    omega

end Framer

/-- The states of a layer that an entry of its history tells of. -/
def statesOf : Moment (Framer Neighbour) Note → List (Framer Neighbour)
  | .changed before after => [before, after]
  | .noted _ => []

/-- The states that a layer has been in: before and after each change, and now. -/
def Space.states (s : Space E) : List (Framer Neighbour) := s.layer :: s.history.flatMap statesOf

/-- The settings have always been the same. -/
def Settled (config : Config) (s : Space E) : Prop := ∀ f ∈ s.states, f.config = config

namespace Settled

variable {config : Config} {s : Space E}

theorem layer (h : Settled config s) : s.layer.config = config := h s.layer (.head _)

theorem change (h : Settled config s) {g : Framer Neighbour → Framer Neighbour}
    (hg : (g s.layer).config = s.layer.config) : Settled config (s.change g) := by
  have hnow : (g s.layer).config = config := hg.trans h.layer
  intro f hmem
  rw [Space.states, Scene.history_change, List.flatMap_append, List.mem_cons,
    List.mem_append] at hmem
  rcases hmem with rfl | hpast | hlast
  · exact hnow
  · exact h f (.tail _ hpast)
  · rw [List.flatMap_singleton] at hlast
    rcases List.mem_pair.mp hlast with rfl | rfl
    · exact h.layer
    · exact hnow

theorem meet (h : Settled config s) (around : E) (note : Note) :
    Settled config (s.meet around note) := by
  intro f hmem
  rw [Space.states, Scene.history_meet, List.flatMap_append, List.flatMap_singleton, statesOf,
    List.append_nil] at hmem
  exact h f hmem

/-- No operation of a layer changes its settings. -/
theorem reading (config : Config) :
    Reading (Diagonal fun _ => Settled (E := E) config) where
  toCoupling := Steady.diagonal {
    forget := id
    tame := fun h htame => h.change htame.config
    asked := fun {_ s} h demand => h.meet s.around _
    outside := fun h around => h
    moved := fun {_ s} h ticks => h.meet s.around _
    expired := fun {_ s} h =>
      h.change (s.layer.config_expirePartial s.now) }
  buffer hs := by rw [hs.1]
  dropped := by
    rintro looked s s' ⟨rfl, h⟩
    exact ⟨rfl, h.change rfl⟩
  received := by
    rintro looked s s' ⟨rfl, h⟩ bytes
    exact ⟨rfl, h.change (s.layer.config_expirePartial s.now)⟩
  taken := by
    rintro looked s s' f f' ⟨rfl, h⟩ hne htame htame' hveil rest
    obtain rfl := htame.ext htame' hveil
    exact ⟨rfl, h.change htame.config⟩

end Settled

variable (alive : Neighbour → E → Bool) (limit : Nat) (p : Program E α)

theorem settled_run {config : Config} {s : Space E} (h : Settled config s) :
    Settled config (p.run alive limit s).2 :=
  (alike_diagonal (Settled.reading config) alive limit p true s s ⟨rfl, h⟩).2.2

/-- Before it has links and after, whatever programs run around it, the layer never computes a size
below zero. -/
def Framer.StaysExact (f : Framer Neighbour) : Prop :=
  ∀ {E α : Type} (alive : Neighbour → E → Bool) (limit : Nat) (p : Program E α) (s : Space E),
    s.history = [] →
    (s.layer = f ∨ ∃ child other parent, f.init child other parent = .ok s.layer) →
    ∀ f' ∈ (p.run alive limit s).2.states, f'.Exact

theorem Framer.config_init {ρ : Type} {f f' : Framer ρ} {child other parent : Option ρ}
    (h : f.init child other parent = .ok f') : f'.config = f.config := by
  rw [init] at h
  cases hnode : f.node.init child parent with
  | error error => simp [hnode, Except.map] at h
  | ok node =>
      rw [hnode] at h
      cases h
      rfl

theorem Framer.stays_exact {f : Framer Neighbour} (hvalid : f.config.validate = .ok ()) :
    f.StaysExact := by
  intro E α alive limit p s hempty hstart f' hmem
  have hlayer : s.layer.config = f.config := by
    rcases hstart with h | ⟨child, other, parent, h⟩
    · rw [h]
    · exact config_init h
  have hsettled : Settled f.config s := by
    intro g hg
    rw [Space.states, hempty] at hg
    rw [List.mem_singleton.mp hg, hlayer]
  apply exact_of_validate
  rw [settled_run alive limit p hsettled f' hmem, hvalid]

end LinkStack.Frame
