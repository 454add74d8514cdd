import LinkStack.Addressing.Binding
import LinkStack.Proofs.Slots

/-!
Bind tables and the calls that have filled them.

A draft refuses a route that another of its slots has, whether slots are filled in order,
out of order or again; so its routes are distinct after any calls (`Draft.Distinct`). A
catch-all is looked at when the draft is finished: it must be the last binding. In a
finished table, then, the first binding that matches a number is the only one that names
it, or else the catch-all, and the order of the other bindings does not matter
(`BindTable.Exclusive`).
-/

namespace LinkStack.Addressing

variable {ρ : Type}

/-! ### Drafts -/

namespace Draft

def perform (d : Draft ρ) : Slots.Call (Binding ρ) → Except Error (Nat × Draft ρ)
  | .add binding => d.bind binding.route binding.handler
  | .assign index binding => d.bindAt index binding.route binding.handler

/-- The draft after calls, of which those that are refused change nothing. -/
def build (d : Draft ρ) (calls : List (Slots.Call (Binding ρ))) : Draft ρ :=
  calls.foldl (fun d call => Slots.after d (perform d call)) d

/-- No two slots have the same route. -/
def Distinct (d : Draft ρ) : Prop :=
  ∀ slot slot' b b', Slots.get? d slot = some b → Slots.get? d slot' = some b' →
    b.route = b'.route → slot = slot'

variable {d d' : Draft ρ} {slot : Nat}

theorem isTaken_iff {route : Route} {own : Option Nat} :
    d.isTaken route own = true ↔
      ∃ slot b, Slots.get? d slot = some b ∧ some slot ≠ own ∧ b.route = route := by
  simp [isTaken, Slots.mem_toList_iff]

theorem eq_ok_of_mapError {α ε ε' : Type} {f : ε → ε'} {x : Except ε α} {a : α}
    (h : x.mapError f = .ok a) : x = .ok a := by
  cases x with
  | error error => cases h
  | ok a' => exact congrArg Except.ok (Except.ok.inj h)

/-- A call that is accepted puts its binding into a slot, and no other slot has its route. -/
theorem perform_eq_ok {call : Slots.Call (Binding ρ)} (h : perform d call = .ok (slot, d')) :
    slot < Slots.capacity d ∧ d' = Slots.put d slot call.item ∧
      ∀ other b, Slots.get? d other = some b → b.route = call.item.route → other = slot := by
  cases call with
  | add binding =>
      rw [perform, bind] at h
      split at h
      · cases h
      rename_i hfree
      rw [isTaken_iff] at hfree
      have hadded : Slots.perform d (.add binding) = .ok (slot, d') := eq_ok_of_mapError h
      obtain ⟨hroom, hput⟩ := Slots.perform_eq_ok hadded
      refine ⟨hroom, hput, fun other b hb hroute => ?_⟩
      exact absurd ⟨other, b, hb, nofun, hroute⟩ hfree
  | assign index binding =>
      rw [perform, bindAt] at h
      split at h
      · cases h
      rename_i hfree
      rw [isTaken_iff] at hfree
      have hassigned : Slots.perform d (.assign index binding) = .ok (slot, d') :=
        eq_ok_of_mapError h
      obtain ⟨hroom, hput⟩ := Slots.perform_eq_ok hassigned
      obtain rfl : index = slot := by
        rw [Slots.perform, Slots.assign] at hassigned
        split at hassigned
        · exact congrArg Prod.fst (Except.ok.inj hassigned)
        · cases hassigned
      refine ⟨hroom, hput, fun other b hb hroute => Decidable.not_not.mp fun hne => ?_⟩
      exact hfree ⟨other, b, hb, fun hsome => hne (Option.some.inj hsome), hroute⟩

theorem Distinct.put (h : Distinct d) (hslot : slot < Slots.capacity d) {binding : Binding ρ}
    (hfree : ∀ other b, Slots.get? d other = some b → b.route = binding.route → other = slot) :
    Distinct (Slots.put d slot binding) := by
  intro i j b b' hb hb' hroute
  rw [Slots.get?_put hslot] at hb hb'
  split at hb <;> split at hb'
  · simp_all
  · rename_i hi hj
    obtain rfl := Option.some.inj hb
    exact hi.trans (hfree j b' hb' hroute.symm).symm
  · rename_i hi hj
    obtain rfl := Option.some.inj hb'
    exact (hfree i b hb hroute).trans hj.symm
  · exact h i j b b' hb hb' hroute

theorem distinct_ofCapacity (capacity : Nat) :
    Distinct (Slots.ofCapacity capacity : Draft ρ) := by
  intro slot slot' b b' hb
  simp at hb

theorem build_cons (d : Draft ρ) (call : Slots.Call (Binding ρ))
    (calls : List (Slots.Call (Binding ρ))) :
    d.build (call :: calls) = build (Slots.after d (perform d call)) calls :=
  rfl

theorem distinct_build (hdistinct : Distinct d) (hmarked : Slots.Marked d)
    (calls : List (Slots.Call (Binding ρ))) :
    Distinct (d.build calls) ∧ Slots.Marked (d.build calls) := by
  induction calls generalizing d with
  | nil => exact ⟨hdistinct, hmarked⟩
  | cons call calls ih =>
      rw [build_cons]
      cases hcall : perform d call with
      | error error => exact ih hdistinct hmarked
      | ok answer =>
          obtain ⟨slot, d'⟩ := answer
          obtain ⟨hroom, rfl, hfree⟩ := perform_eq_ok hcall
          exact ih (hdistinct.put hroom hfree) (hmarked.put hroom call.item)

end Draft

/-! ### Finished tables -/

/-- Every number has at most one binding that names it, and the catch-all takes the rest. -/
structure BindTable.Exclusive (t : BindTable ρ) : Prop where
  routes : t.routes.Nodup
  last : ∀ (slot : Nat) (b : Binding ρ), t.bindings[slot]? = some b → b.route = .any →
    slot + 1 = t.size
  numbered : ∀ id, ∀ b ∈ t.bindings, b.route = .number id → t.lookup id = some b.handler
  caught : ∀ id, (∀ b ∈ t.bindings, b.route ≠ .number id) →
    ∀ b ∈ t.bindings, b.route = .any → t.lookup id = some b.handler
  unbound : ∀ id, (∀ b ∈ t.bindings, b.route ≠ .number id) →
    (∀ b ∈ t.bindings, b.route ≠ .any) → t.lookup id = none

namespace Route

theorem covers_iff {route : Route} {id : UInt8} :
    route.covers id = true ↔ route = .number id ∨ route = .any := by
  cases route <;> simp [covers]

end Route

namespace BindTable

variable {t t' : BindTable ρ}

/-- A binding is found if none before it matches. -/
theorem lookup_of_first {id : UInt8} {slot : Nat} {b : Binding ρ}
    (hb : t.bindings[slot]? = some b) (hcovers : b.route.covers id = true)
    (hfirst : ∀ (earlier : Nat) (b' : Binding ρ), t.bindings[earlier]? = some b' →
      b'.route.covers id = true → slot ≤ earlier) : t.lookup id = some b.handler := by
  obtain ⟨hslot, rfl⟩ := List.getElem?_eq_some_iff.mp hb
  have hfind : t.bindings.find? (·.route.covers id) = some t.bindings[slot] := by
    refine List.find?_eq_some_iff_getElem.mpr
      ⟨hcovers, slot, hslot, rfl, fun earlier hearlier => ?_⟩
    have hlt := Nat.lt_trans hearlier hslot
    refine Bool.not_eq_true' _ |>.mpr (Bool.eq_false_iff.mpr fun hcovers' => ?_)
    have := hfirst earlier _ (List.getElem?_eq_getElem hlt) hcovers'
    omega
  rw [lookup, hfind, Option.map_some]

theorem exclusive_of_distinct
    (hdistinct : ∀ (slot slot' : Nat) (b b' : Binding ρ), t.bindings[slot]? = some b →
      t.bindings[slot']? = some b' → b.route = b'.route → slot = slot')
    (hlast : ∀ (slot : Nat) (b : Binding ρ), t.bindings[slot]? = some b → b.route = .any →
      slot + 1 = t.size) :
    t.Exclusive where
  routes := by
    refine List.pairwise_iff_getElem.mpr fun slot slot' hslot hslot' hlt hroute => ?_
    rw [routes, List.length_map] at hslot hslot'
    simp only [routes, List.getElem_map] at hroute
    have := hdistinct slot slot' _ _ (List.getElem?_eq_getElem hslot)
      (List.getElem?_eq_getElem hslot') hroute
    omega
  last := hlast
  numbered id b hmem hroute := by
    obtain ⟨slot, hslot, rfl⟩ := List.mem_iff_getElem.mp hmem
    have hb := List.getElem?_eq_getElem hslot
    refine lookup_of_first hb (Route.covers_iff.mpr (.inl hroute)) fun earlier b' hb' hcovers => ?_
    rcases Route.covers_iff.mp hcovers with hroute' | hany
    · exact Nat.le_of_eq (hdistinct slot earlier _ b' hb hb' (hroute.trans hroute'.symm))
    · have := hlast earlier b' hb' hany
      have : slot < t.size := hslot
      omega
  caught id hnone b hmem hany := by
    obtain ⟨slot, hslot, rfl⟩ := List.mem_iff_getElem.mp hmem
    have hb := List.getElem?_eq_getElem hslot
    refine lookup_of_first hb (Route.covers_iff.mpr (.inr hany)) fun earlier b' hb' hcovers => ?_
    rcases Route.covers_iff.mp hcovers with hroute' | hany'
    · exact absurd hroute' (hnone b' (List.mem_of_getElem? hb'))
    · exact Nat.le_of_eq (hdistinct slot earlier _ b' hb hb' (hany.trans hany'.symm))
  unbound id hnone hnoany := by
    have hfind : t.bindings.find? (·.route.covers id) = none := by
      refine List.find?_eq_none.mpr fun b hmem hcovers => ?_
      rcases Route.covers_iff.mp hcovers with hroute | hany
      · exact hnone b hmem hroute
      · exact hnoany b hmem hany
    rw [lookup, hfind, Option.map_none]

/-- What is found does not depend on the order of the bindings. -/
theorem Exclusive.lookup_eq (h : t.Exclusive) (h' : t'.Exclusive)
    (hsame : ∀ b, b ∈ t.bindings ↔ b ∈ t'.bindings) (id : UInt8) : t.lookup id = t'.lookup id := by
  by_cases hnumbered : ∃ b ∈ t.bindings, b.route = .number id
  · obtain ⟨b, hmem, hroute⟩ := hnumbered
    rw [h.numbered id b hmem hroute, h'.numbered id b ((hsame b).mp hmem) hroute]
  have hnone : ∀ b ∈ t.bindings, b.route ≠ .number id :=
    fun b hmem hroute => hnumbered ⟨b, hmem, hroute⟩
  have hnone' : ∀ b ∈ t'.bindings, b.route ≠ .number id :=
    fun b hmem => hnone b ((hsame b).mpr hmem)
  by_cases hcaught : ∃ b ∈ t.bindings, b.route = .any
  · obtain ⟨b, hmem, hany⟩ := hcaught
    rw [h.caught id hnone b hmem hany, h'.caught id hnone' b ((hsame b).mp hmem) hany]
  · have hnoany : ∀ b ∈ t.bindings, b.route ≠ .any := fun b hmem hany => hcaught ⟨b, hmem, hany⟩
    rw [h.unbound id hnone hnoany,
      h'.unbound id hnone' fun b hmem => hnoany b ((hsame b).mpr hmem)]

end BindTable

/-- The bindings of a finished table are those of its draft, with a catch-all only at the end. -/
theorem Draft.finish_eq_ok {d : Draft ρ} {t : BindTable ρ} (h : d.finish = .ok t) :
    Slots.finish d = .ok t.bindings ∧
      ∀ (slot : Nat) (b : Binding ρ), t.bindings[slot]? = some b → b.route = .any →
        (∀ (earlier : Nat) (b' : Binding ρ), t.bindings[earlier]? = some b' → b'.route = .any →
          slot ≤ earlier) → slot + 1 = t.size := by
  rw [finish] at h
  cases hbindings : Slots.finish d with
  | error error =>
      rw [hbindings] at h
      cases h
  | ok bindings =>
      rw [hbindings] at h
      simp only [mapError_ok, Bind.bind, Except.bind] at h
      cases hany : bindings.findIdx? (·.route = .any) with
      | none =>
          simp only [hany] at h
          cases h
          refine ⟨rfl, fun slot b hb hroute => ?_⟩
          have := List.findIdx?_eq_none_iff.mp hany b (List.mem_of_getElem? hb)
          simp [hroute] at this
      | some index =>
          simp only [hany] at h
          split at h
          · rename_i hlast
            cases h
            refine ⟨rfl, fun slot b hb hroute hfirst => ?_⟩
            obtain ⟨hindex, hfound, hbefore⟩ := List.findIdx?_eq_some_iff_getElem.mp hany
            have hle := hfirst index _ (List.getElem?_eq_getElem hindex) (of_decide_eq_true hfound)
            obtain ⟨hslot, rfl⟩ := List.getElem?_eq_some_iff.mp hb
            have hge : index ≤ slot := by
              refine Nat.not_lt.mp fun hlt => ?_
              simpa [hroute] using hbefore slot hlt
            show slot + 1 = bindings.length
            omega
          · cases h

theorem exclusive_of_finish {capacity : Nat} {calls : List (Slots.Call (Binding ρ))}
    {t : BindTable ρ} (h : (Draft.build (Slots.ofCapacity capacity) calls).finish = .ok t) :
    t.Exclusive := by
  obtain ⟨hdistinct, hmarked⟩ := Draft.distinct_build (Draft.distinct_ofCapacity (ρ := ρ) capacity)
    (Slots.marked_ofCapacity capacity) calls
  obtain ⟨hfinish, hlast⟩ := Draft.finish_eq_ok h
  obtain ⟨-, hitems⟩ := hmarked.finish_eq_ok_iff.mp hfinish
  have hdistinct' : ∀ (slot slot' : Nat) (b b' : Binding ρ), t.bindings[slot]? = some b →
      t.bindings[slot']? = some b' → b.route = b'.route → slot = slot' := by
    intro slot slot' b b' hb hb'
    rw [hitems] at hb hb'
    exact hdistinct slot slot' b b' hb hb'
  refine BindTable.exclusive_of_distinct hdistinct' fun slot b hb hany => ?_
  refine hlast slot b hb hany fun earlier b' hb' hany' => ?_
  exact Nat.le_of_eq (hdistinct' slot earlier b b' hb hb' (hany.trans hany'.symm))

end LinkStack.Addressing
