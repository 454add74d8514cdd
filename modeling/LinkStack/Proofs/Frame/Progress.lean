import Mathlib.Data.List.Forall2
import LinkStack.Proofs.Frame.Book
import LinkStack.Proofs.Frame.Chunks

/-!
Reading goes on, and its buffer stays small.

Whatever stands at the front of a buffer, the reader waits or takes at least one byte,
and what it takes are the bytes of what it answers (`Codec.Takes`). So no byte is lost
or read twice, and reading comes to an end (`Codec.cut_decodeAll`). It waits only for
what the header it has read announces, which is checked against the limit first; hence
what is waited with is shorter than the longest frame (`Codec.length_lt_of_needsMore`).

A framing layer takes what it receives from its buffer until its reader waits. Nothing
else it does touches the buffer, whatever its neighbours do (`Spares`), so the loop ends
by itself and the bound holds between any two operations (`reading_bounded`).
-/

namespace LinkStack.Frame

/-! ### Longest frames -/

/-- The most bytes that a frame adds to its body. -/
def Mode.maxOverhead : Mode → Nat
  | .short => 4
  | .compact => 7

theorem Groups.length_le {more : Nat} {groups : Bytes} {n : Nat} (h : Groups more groups n) :
    groups.length ≤ more := by
  induction h with
  | last h => simp
  | cons h tail ih => simpa using ih

theorem LengthField.length_le {mode : Mode} {field : Bytes} {n : Nat}
    (h : LengthField mode field n) :
    1 + field.length + 1 + mode.checksumSize ≤ mode.maxOverhead := by
  cases h with
  | short h => exact Nat.le_refl _
  | compact h single => exact (by decide : 1 + 1 + 1 + 2 ≤ 7)
  | compactMore h tail =>
      have hgroups : _ ≤ 2 := tail.length_le
      simp only [List.length_cons, Mode.checksumSize, Mode.maxOverhead]
      omega

namespace Codec

variable {c : Codec}

/-! ### Units and their bytes -/

/-- The bytes that are taken off a buffer for a unit. -/
inductive Takes (c : Codec) : Except Error Item → Bytes → Prop
  | packet {packet : Packet} {wire : Bytes} (h : c.IsFrame packet.body wire) :
      Takes c (.ok (.packet packet)) wire
  | stray {bytes : Bytes} (hne : bytes ≠ []) (h : c.delimiter ∉ bytes) :
      Takes c (.ok (.stray bytes)) bytes
  | refused {error : Error} {skipped : Bytes} (h : c.delimiter ∉ skipped) :
      Takes c (.error error) (c.delimiter :: skipped)

theorem Takes.ne_nil {unit : Except Error Item} {taken : Bytes} (h : c.Takes unit taken) :
    taken ≠ [] := by
  cases h with
  | packet h =>
      obtain ⟨field, -, rfl⟩ := h.parts
      exact List.cons_ne_nil _ _
  | stray hne h => exact hne
  | refused h => exact List.cons_ne_nil _ _

theorem not_mem_noise (c : Codec) (bytes : Bytes) : c.delimiter ∉ c.noise bytes := by
  intro h
  have hall := List.all_eq_true.mp (List.all_takeWhile (p := (· ≠ c.delimiter)) (l := bytes))
  simpa using hall _ h

theorem takes_of_item {buffer rest : Bytes} {item : Item}
    (h : c.decode buffer = .item item rest) :
    ∃ taken, buffer = taken ++ rest ∧ c.Takes (.ok item) taken := by
  cases item with
  | packet packet =>
      obtain ⟨wire, hbuffer, hframe⟩ := decode_eq_packet_iff.mp h
      exact ⟨wire, hbuffer, .packet hframe⟩
  | stray bytes =>
      obtain ⟨b, src, rfl, hb, rfl, rfl⟩ := exists_cons_of_stray h
      refine ⟨_, (c.noise_append_resync (b :: src)).symm, .stray ?_ (c.not_mem_noise _)⟩
      simp [noise, hb]

theorem takes_of_refused {buffer rest : Bytes} {error : Error}
    (h : c.decode buffer = .refused error rest) :
    ∃ taken, buffer = taken ++ rest ∧ c.Takes (.error error) taken := by
  obtain ⟨src, rfl, -, rfl⟩ := eq_cons_of_refused h
  refine ⟨c.delimiter :: c.noise src, ?_, .refused (c.not_mem_noise src)⟩
  rw [List.cons_append, noise_append_resync]

/-- What a decode does with its buffer: it waits, or takes at least one byte off the
front, namely the bytes of the unit that it answers. -/
inductive Advances (c : Codec) (buffer : Bytes) : Decoded → Prop
  | waits : Advances c buffer .needsMore
  | item {item : Item} {taken rest : Bytes} (hbuffer : buffer = taken ++ rest) (hne : taken ≠ [])
      (htakes : c.Takes (.ok item) taken) : Advances c buffer (.item item rest)
  | refused {error : Error} {taken rest : Bytes} (hbuffer : buffer = taken ++ rest)
      (hne : taken ≠ []) (htakes : c.Takes (.error error) taken) :
      Advances c buffer (.refused error rest)

theorem advances (c : Codec) (buffer : Bytes) : c.Advances buffer (c.decode buffer) := by
  cases h : c.decode buffer with
  | needsMore => exact .waits
  | item item rest =>
      obtain ⟨taken, hbuffer, htakes⟩ := takes_of_item h
      exact .item hbuffer htakes.ne_nil htakes
  | refused error rest =>
      obtain ⟨taken, hbuffer, htakes⟩ := takes_of_refused h
      exact .refused hbuffer htakes.ne_nil htakes

/-- The units of a buffer and what is left of it. -/
structure Cut (c : Codec) (buffer : Bytes) (reading : List (Except Error Item) × Bytes) :
    Prop where
  /-- Every byte belongs to one unit or is left. -/
  pieces : ∃ pieces, List.Forall₂ c.Takes reading.1 pieces ∧
    pieces.flatten ++ reading.2 = buffer
  fewer : reading.1.length ≤ buffer.length
  waits : c.decode reading.2 = .needsMore

theorem Cut.cons {unit : Except Error Item} {taken rest : Bytes}
    {reading : List (Except Error Item) × Bytes} (htakes : c.Takes unit taken)
    (h : c.Cut rest reading) : c.Cut (taken ++ rest) (unit :: reading.1, reading.2) where
  pieces := by
    obtain ⟨pieces, hpieces, hflatten⟩ := h.pieces
    refine ⟨taken :: pieces, .cons htakes hpieces, ?_⟩
    rw [List.flatten_cons, List.append_assoc, hflatten]
  fewer := by
    have hpos := List.length_pos_iff.mpr htakes.ne_nil
    have hfewer := h.fewer
    rw [List.length_cons, List.length_append]
    omega
  waits := h.waits

theorem cut_decodeAll (c : Codec) (buffer : Bytes) : c.Cut buffer (c.decodeAll buffer) := by
  induction buffer using c.decode_induction with
  | needsMore buffer h =>
      rw [decodeAll_of_needsMore h]
      exact ⟨⟨[], .nil, rfl⟩, Nat.zero_le _, h⟩
  | item buffer item rest h ih =>
      obtain ⟨taken, rfl, htakes⟩ := takes_of_item h
      rw [decodeAll_of_item h]
      exact ih.cons htakes
  | refused buffer error rest h ih =>
      obtain ⟨taken, rfl, htakes⟩ := takes_of_refused h
      rw [decodeAll_of_refused h]
      exact ih.cons htakes

/-! ### Waiting -/

/-- The reader waits with nothing, or behind a delimiter and with less than the longest
frame. -/
theorem length_lt_of_needsMore {buffer : Bytes} (h : c.decode buffer = .needsMore) :
    (buffer = [] ∨ buffer.head? = some c.delimiter) ∧
      buffer.length < c.maxSize + c.mode.maxOverhead := by
  have hfour : 4 ≤ c.mode.maxOverhead := by cases c.mode <;> decide
  cases buffer with
  | nil => exact ⟨.inl rfl, by simp; omega⟩
  | cons b src =>
      obtain rfl : b = c.delimiter := by
        refine Decidable.byContradiction fun hb => ?_
        simp [decode_cons_of_ne hb] at h
      refine ⟨.inr rfl, ?_⟩
      have hread : c.readFrame src = .ok none := by
        rw [decode_cons_delimiter] at h
        split at h
        · assumption
        · simp at h
        · simp at h
      have hreading := c.reading src
      rw [hread] at hreading
      cases hreading with
      | noField hfield =>
          obtain ⟨ext, n, -, hcompleted, -⟩ := exists_completion hfield
          have hlength := hcompleted.length_le
          simp only [List.length_append, List.length_cons] at hlength ⊢
          omega
      | noCheck hfield hsize =>
          have hlength := hfield.length_le
          rw [List.length_cons]
          omega
      | short hfield hsize hshort =>
          have hlength := hfield.length_le
          simp only [List.length_append, List.length_cons]
          omega

end Codec

/-! ### What a framing layer leaves alone -/

/-- What is handed to another layer than the one that takes noise is a packet within the
limit. -/
def Event.Fits (config : Config) (other : Option Neighbour) : Event → Prop
  | .contact _ who (.recv bytes _) =>
    other ≠ some who → bytes ≠ [] ∧ bytes.length ≤ config.maxSize
  | _ => True

/-- A framing layer with the given settings, which has handed over nothing but packets
within the limit. -/
structure Bounded {E : Type} (config : Config) (other : Option Neighbour) (s : Stage E) :
    Prop where
  settings : s.layer.config = config
  outlet : s.layer.other = other
  fits : ∀ event ∈ s.trace, event.Fits config other

/-- An action that leaves the buffer of a framing layer alone. -/
abbrev Spares {E α : Type} (config : Config) (other : Option Neighbour)
    (act : StateM (Stage E) α) : Prop :=
  Follows (Bounded config other) (fun s => s.layer.buffer) Eq act

section Spared

variable {E : Type} {c : Company E} {config : Config} {other : Option Neighbour}
  {during : Operation} {parent : Layer (StateM (Stage E))} {s : Stage E}

theorem Spares.apply {α : Type} {act : StateM (Stage E) α} (h : Spares config other act)
    (hs : Bounded config other s) :
    Bounded config other (act s).2 ∧ (act s).2.layer.buffer = s.layer.buffer :=
  ⟨(h s hs).1, h.preserves (P := (· = s.layer.buffer)) (fun _ _ heq h => heq ▸ h) hs rfl⟩

theorem Bounded.change (hs : Bounded config other s) {f : Framer Neighbour → Framer Neighbour}
    (hconfig : (f s.layer).config = s.layer.config) (hother : (f s.layer).other = s.layer.other) :
    Bounded config other (s.change f) where
  settings := hconfig.trans hs.settings
  outlet := hother.trans hs.outlet
  fits := by
    rw [Scene.trace_change]
    exact hs.fits

theorem Bounded.meet (hs : Bounded config other s) (around : E) {event : Event}
    (hevent : event.Fits config other) : Bounded config other (s.meet around event) where
  settings := hs.settings
  outlet := hs.outlet
  fits := by
    rw [Scene.trace_meet]
    intro event' hmem
    rcases List.mem_append.mp hmem with hmem | hmem
    · exact hs.fits event' hmem
    · rw [List.mem_singleton.mp hmem]
      exact hevent

theorem spares_modify {f : Framer Neighbour → Framer Neighbour}
    (h : ∀ x, (f x).config = x.config ∧ (f x).other = x.other ∧ (f x).buffer = x.buffer) :
    Spares config other ((c.place during parent).modify f) := by
  intro s hs
  obtain ⟨hconfig, hother, hbuffer⟩ := h s.layer
  exact ⟨hs.change hconfig hother, .single hbuffer.symm⟩

theorem spares_count (event : Traffic) :
    Spares config other ((c.place during parent).modify (·.count event)) :=
  spares_modify fun _ => ⟨rfl, rfl, rfl⟩

theorem spares_get : Spares config other (c.place during parent).get :=
  fun _ hs => ⟨hs, .refl⟩

theorem spares_now : Spares config other (c.place during parent).now :=
  fun _ hs => ⟨hs, .refl⟩

/-- What happens around the layer without being noted. -/
theorem spares_outside {α : Type} (act : StateM E α) :
    Spares config other (Scene.outside act : StateM (Stage E) α) :=
  fun _ hs => ⟨⟨hs.settings, hs.outlet, hs.fits⟩, .refl⟩

theorem spares_noting {α : Type} (act : StateM E α) (note : α → Event)
    (h : ∀ a, (note a).Fits config other) :
    Spares config other (Scene.noting note act : StateM (Stage E) α) :=
  fun _ hs => ⟨hs.meet _ (h _), .refl⟩

theorem spares_answer {ε α : Type} (answer : Except ε α) :
    Spares config other (ExceptT.mk (pure answer) : ExceptT ε (StateM (Stage E)) α).run :=
  .pure _

/-- A parent may be named and sent to like any other layer. -/
structure Harmless (config : Config) (other : Option Neighbour)
    (parent : Layer (StateM (Stage E))) : Prop where
  name : Spares config other parent.name
  send : ∀ bytes, Spares config other (parent.send bytes).run

theorem harmless_noted (c : Company E) (during : Operation) (who : Neighbour) :
    Harmless config other (c.noted during who) :=
  ⟨spares_outside _, fun bytes => spares_noting ((c.layer who).send bytes).run
    (fun answer => .contact during who (.send bytes answer)) fun _ => trivial⟩

theorem harmless_parent (c : Company E) (during : Operation) :
    Harmless config other (c.parent during) :=
  ⟨(harmless_noted c during .parent).name, (harmless_noted c during .parent).send⟩

theorem Harmless.layer (h : Harmless config other parent) (who : Neighbour) :
    Harmless config other ((c.place during parent).layer who) := by
  cases who with
  | child => exact harmless_noted c during .child
  | parent => exact h
  | other => exact harmless_noted c during .other

/-! ### Operations -/

theorem child_cases (c : Company E) (during : Operation) (parent : Layer (StateM (Stage E)))
    (s : Stage E) :
    (∃ who, ((c.place during parent).child Framer.node).run s =
      (.ok ((c.place during parent).layer who), s)) ∨
    ∃ error, ((c.place during parent).child Framer.node).run s = (.error error, s) := by
  rw [Site.child, bind_run_ok (lift_run get_run)]
  cases hchild : s.layer.node.child with
  | error error => exact .inr ⟨error, bind_run_error (answer_run rfl) _⟩
  | ok who =>
      rw [bind_run_ok (answer_run rfl)]
      exact .inl ⟨who, rfl⟩

theorem spares_child {α : Type}
    {f : Layer (StateM (Stage E)) → ExceptT LayerError (StateM (Stage E)) α}
    (h : ∀ who, Spares config other (f ((c.place during parent).layer who)).run) :
    Spares config other (((c.place during parent).child Framer.node) >>= f).run := by
  intro s hs
  rcases child_cases c during parent s with ⟨who, hrun⟩ | ⟨error, hrun⟩
  · rw [bind_run_ok hrun]
    exact h who s hs
  · rw [bind_run_error hrun]
    exact ⟨hs, .refl⟩

theorem spares_write (hparent : Harmless config other parent) (body : Bytes) :
    Spares config other (Framer.write (c.place during parent) body).run := by
  refine (Follows.except_lift spares_get).except_bind fun f => ?_
  split
  refine (spares_answer _).except_bind fun _ => ?_
  refine spares_child fun who => ?_
  have hlayer : Harmless config other ((c.place during parent).layer who) := hparent.layer who
  have hattempt (bytes : Bytes) : Spares config other
      (attempt (((c.place during parent).layer who).send bytes)).run :=
    fun s hs => hlayer.send bytes s hs
  refine (hattempt _).except_bind fun answer => ?_
  split
  · split
    · exact (Follows.except_lift (spares_count _)).except_bind fun _ => .pure _
    · refine (Follows.except_lift (spares_count _)).except_bind fun _ => ?_
      exact (Follows.except_lift hlayer.name).except_bind fun _ => .pure _
  · exact (Follows.except_lift (spares_count _)).except_bind fun _ => .pure _

theorem spares_ensureInitialized :
    Spares config other ((c.place during parent).ensureInitialized Framer.node).run := by
  refine (Follows.except_lift spares_get).except_bind fun f => ?_
  exact (spares_answer _).except_bind fun _ => .pure _

theorem spares_send (packet : Bytes) :
    Spares config other (Framer.send (c.site during) packet).run := by
  refine spares_ensureInitialized.except_bind fun _ => ?_
  refine (Follows.except_lift spares_get).except_bind fun f => ?_
  refine (spares_answer _).except_bind fun _ => ?_
  exact (spares_write (harmless_parent c during) packet).except_bind fun _ => .pure _

theorem spares_sendConfirmed (hparent : Harmless config other parent) (packet : Bytes) :
    Spares config other (Framer.sendConfirmed (c.place during parent) packet).run := by
  refine spares_ensureInitialized.except_bind fun _ => ?_
  refine (Follows.except_lift spares_get).except_bind fun f => ?_
  refine (spares_answer _).except_bind fun _ => ?_
  split
  · exact .pure _
  · refine Follows.except_bind (Follows.except_lift (spares_modify ?_)) fun _ => ?_
    · exact fun _ => ⟨rfl, rfl, rfl⟩
    refine (spares_write hparent _).except_bind fun wire => ?_
    refine (Follows.except_lift spares_now).except_bind fun now => ?_
    refine Follows.except_bind (Follows.except_lift (spares_modify ?_)) fun _ => .pure _
    exact fun _ => ⟨rfl, rfl, rfl⟩

theorem spares_confirm (packet : Bytes) : Spares config other (c.confirm packet) := by
  have hget : Spares config other (get : StateM (Stage E) (Stage E)) := fun _ hs => ⟨hs, .refl⟩
  have hsend : Spares config other
      (Framer.sendConfirmed (c.place .confirm (c.noted .confirm .parent)) packet).run :=
    spares_sendConfirmed (harmless_noted c .confirm .parent) packet
  refine hget.bind fun before => hsend.bind fun answer => ?_
  have hnote : Spares config other (modify fun s : Stage E => s.meet s.around
      (.confirmed before.layer.outstanding packet answer s.layer.outstanding)) :=
    fun _ hs => ⟨hs.meet _ trivial, .refl⟩
  exact hnote.bind fun _ => .pure _

theorem spares_reaction (reaction : Reaction) :
    Spares config other (reaction.run c.confirm) := by
  induction reaction with
  | done => exact .pure _
  | confirm packet next ih => exact (spares_confirm packet).bind ih

/-- A parent that is found is one of the neighbours. -/
theorem parent_cases (c : Company E) (during : Operation) (s : Stage E) : ∃ found around,
    ((c.site during).parent? Framer.node).run s = (found, { s with around }) ∧
      ∀ layer, found = .ok (some layer) → ∃ who, layer = (c.site during).layer who := by
  rw [Site.parent?, bind_run_ok (lift_run get_run)]
  cases hlinked : s.layer.node.linked with
  | error error => exact ⟨_, s.around, bind_run_error (answer_run rfl) _, by simp⟩
  | ok links =>
      rw [bind_run_ok (answer_run rfl)]
      cases hparent : links.parent with
      | none => exact ⟨_, s.around, rfl, by simp⟩
      | some who =>
          have halive : (c.site during).alive who s =
              ((c.alive who s.around).1, { s with around := (c.alive who s.around).2 }) := rfl
          simp only
          rw [bind_run_ok (lift_run halive)]
          refine ⟨_, _, rfl, fun layer hlayer => ⟨who, ?_⟩⟩
          split at hlayer
          · exact (Option.some.inj (Except.ok.inj hlayer)).symm
          · cases hlayer

theorem spares_parent {α : Type}
    {f : Except LayerError (Option (Layer (StateM (Stage E)))) → StateM (Stage E) α}
    (hfound : ∀ who, Spares config other (f (.ok (some ((c.site during).layer who)))))
    (hnone : ∀ found, (∀ layer, found ≠ .ok (some layer)) → Spares config other (f found)) :
    Spares config other (((c.site during).parent? Framer.node).run >>= f) := by
  intro s hs
  obtain ⟨found, around, hrun, hlayer⟩ := parent_cases c during s
  rw [bind_run_eq hrun]
  have hs' : Bounded config other { s with around } := ⟨hs.settings, hs.outlet, hs.fits⟩
  rcases found with error | _ | layer
  · exact hnone _ (by simp) _ hs'
  · exact hnone _ (by simp) _ hs'
  · obtain ⟨who, rfl⟩ := hlayer layer rfl
    exact hfound who _ hs'

theorem spares_recv_of (who : Neighbour) {bytes : Bytes}
    (h : other ≠ some who → bytes ≠ [] ∧ bytes.length ≤ config.maxSize) :
    Spares config other (((c.site during).layer who).recv bytes).run := by
  have hnoted : Spares config other ((c.noted during who).recv bytes).run :=
    spares_noting ((c.layer who).recv bytes).run
      (fun answer => .contact during who (.recv bytes answer)) fun _ => h
  cases who <;> exact hnoted

theorem spares_delivered (who : Neighbour) (report : Delivery) :
    Spares config other (((c.site during).layer who).delivered report) := by
  have hnoted (who : Neighbour) : Spares config other ((c.noted during who).delivered report) :=
    spares_noting ((c.layer who).delivered report)
      (fun _ => .contact during who (.delivered report)) fun _ => trivial
  cases who with
  | child => exact hnoted .child
  | other => exact hnoted .other
  | parent =>
      refine (hnoted .parent).bind fun _ => ?_
      exact (spares_outside _).bind fun reaction => spares_reaction reaction

theorem spares_report (delivery : Delivery) :
    Spares config other (Framer.report (c.site during) delivery) := by
  refine spares_parent (fun who => spares_delivered who delivery) fun found hnone => ?_
  split
  · rename_i layer
    exact (hnone layer rfl).elim
  · exact .pure _

theorem spares_deliver {body : Bytes} (hne : body ≠ []) (hsize : body.length ≤ config.maxSize) :
    Spares config other (Framer.deliver (c.site during) body) := by
  refine spares_parent (fun who => ?_) fun found hnone => ?_
  · refine (spares_count _).bind fun _ => ?_
    exact (spares_recv_of who fun _ => ⟨hne, hsize⟩).bind fun _ => .pure _
  · split
    · rename_i layer
      exact (hnone layer rfl).elim
    · exact spares_count _

theorem expireOutstanding_kept (f : Framer Neighbour) (now : Tick) :
    (f.expireOutstanding now).2.config = f.config ∧ (f.expireOutstanding now).2.other = f.other ∧
      (f.expireOutstanding now).2.buffer = f.buffer := by
  rcases f.expireOutstanding_cases now with ⟨-, h⟩ | ⟨o, -, -, -, h⟩ | ⟨o, -, -, -, h⟩ <;>
    rw [h] <;> exact ⟨rfl, rfl, rfl⟩

/-- After a change that spares the buffer, an action that does. -/
theorem Spares.after {α : Type} {act : StateM (Stage E) α} {s' : Stage E}
    (h : Spares config other act) (hs' : Bounded config other s')
    (hbuffer : s'.layer.buffer = s.layer.buffer) :
    Bounded config other (act s').2 ∧
      Relation.ReflTransGen Eq s.layer.buffer (act s').2.layer.buffer := by
  rw [← hbuffer]
  exact h s' hs'

theorem spares_retry : Spares config other (Framer.retry (c.site during)) := by
  intro s hs
  rw [Framer.retry, bind_run_eq get_run, bind_run_eq now_run]
  obtain ⟨hconfig, hother, hbuffer⟩ := expireOutstanding_kept s.layer s.now
  generalize s.layer.expireOutstanding s.now = expired at *
  obtain ⟨expiry, f⟩ := expired
  simp only
  rw [bind_run_eq (modify_run _)]
  have hs' : Bounded config other (s.change fun _ => f) := hs.change hconfig hother
  cases expiry with
  | nothing => exact Spares.after (.pure _) hs' hbuffer
  | giveUp packet => exact Spares.after (spares_report _) hs' hbuffer
  | retransmit wire =>
      simp only
      refine Spares.after (?_ : Spares config other _) hs' hbuffer
      intro s hs
      rcases child_cases c during (c.parent during) s with ⟨who, hrun⟩ | ⟨error, hrun⟩
      · rw [bind_run_eq hrun]
        have hlayer : Harmless config other ((c.site during).layer who) :=
          (harmless_parent c during).layer who
        exact ((hlayer.send wire).bind fun _ => .pure _) s hs
      · rw [bind_run_eq hrun]
        exact ⟨hs, .refl⟩

theorem spares_control {payload : Bytes} (hsize : payload.length < config.maxSize) :
    Spares config other (Framer.control (c.site during) payload) := by
  rw [Framer.control]
  cases hread : Control.read payload with
  | malformed => exact spares_count _
  | data seq packet =>
      refine (spares_write (harmless_parent c during) _).bind fun _ => ?_
      refine spares_now.bind fun now => spares_get.bind fun f => ?_
      refine Follows.bind (spares_modify ?_) fun _ => ?_
      · exact fun _ => ⟨rfl, rfl, rfl⟩
      split
      · exact spares_count _
      · obtain ⟨rfl, hne⟩ := Control.cons_of_data hread
        refine spares_deliver hne ?_
        simp only [List.length_cons] at hsize
        omega
  | ack seq =>
      intro s hs
      simp only
      rw [bind_run_eq get_run]
      rcases s.layer.acknowledge_cases seq with ⟨o, -, -, hsettled⟩ | ⟨-, hsettled⟩ <;>
        rw [hsettled] <;> simp only <;> rw [bind_run_eq (modify_run _)]
      · exact Spares.after (spares_report _) (hs.change rfl rfl) rfl
      · exact Spares.after (.pure _) (hs.change rfl rfl) rfl

theorem spares_take {item : Item}
    (hsize : ∀ packet, item = .packet packet → packet.body.length ≤ config.maxSize) :
    Spares config other (Framer.take (c.site during) item) := by
  cases item with
  | packet packet =>
      have hpacket := hsize packet rfl
      rw [Framer.take]
      split
      · exact spares_control hpacket
      · exact spares_deliver (List.cons_ne_nil _ _) hpacket
  | stray bytes =>
      intro s hs
      rw [Framer.take, bind_run_eq get_run]
      cases hother : s.layer.other with
      | none => exact ⟨hs, .refl⟩
      | some who =>
          have houtlet : other = some who := hs.outlet.symm.trans hother
          exact ((spares_recv_of who fun h => absurd houtlet h).bind fun _ => .pure _) s hs

/-! ### The loop -/

theorem length_le_maxSize (config : Config) {buffer rest : Bytes} {packet : Packet}
    (h : (Codec.ofConfig config).decode buffer = .item (.packet packet) rest) :
    packet.body.length ≤ config.maxSize := by
  obtain ⟨wire, -, hframe⟩ := Codec.decode_eq_packet_iff.mp h
  exact Nat.le_trans hframe.fits (Nat.min_le_left _ _)

theorem Bounded.decode_eq (hs : Bounded config other s) :
    s.layer.codec.decode s.layer.buffer = (Codec.ofConfig config).decode s.layer.buffer := by
  rw [Framer.codec, hs.settings]

theorem drain_needsMore (h : s.layer.codec.decode s.layer.buffer = .needsMore) (turns : Nat) :
    Framer.drain (c.site during) turns s = ((), s) := by
  cases turns with
  | zero => rfl
  | succ turns =>
      rw [Framer.drain, bind_run_eq get_run]
      simp only [h]
      rfl

theorem drain_item {item : Item} {rest : Bytes}
    (h : s.layer.codec.decode s.layer.buffer = .item item rest) (turns : Nat) :
    Framer.drain (c.site during) (turns + 1) s = Framer.drain (c.site during) turns
      (Framer.take (c.site during) item (s.change fun f => { f with buffer := rest })).2 := by
  rw [Framer.drain, bind_run_eq get_run]
  simp only [h]
  rw [bind_run_eq (modify_run _)]
  rfl

theorem drain_refused {error : Error} {rest : Bytes}
    (h : s.layer.codec.decode s.layer.buffer = .refused error rest) (turns : Nat) :
    Framer.drain (c.site during) (turns + 1) s = Framer.drain (c.site during) turns
      (s.change fun f => ({ f with buffer := rest } : Framer Neighbour).count .rxError) := by
  rw [Framer.drain, bind_run_eq get_run]
  simp only [h]
  rfl

/-- What acts on a unit leaves the rest of the buffer alone. -/
theorem take_run (c : Company E) (during : Operation) (hs : Bounded config other s) {item : Item}
    {rest : Bytes} (h : s.layer.codec.decode s.layer.buffer = .item item rest) :
    let s' := (Framer.take (c.site during) item (s.change fun f => { f with buffer := rest })).2
    Bounded config other s' ∧ s'.layer.buffer = rest := by
  rw [hs.decode_eq] at h
  refine Spares.apply (spares_take ?_) (hs.change rfl rfl)
  rintro packet rfl
  exact length_le_maxSize config h

/-- More turns than there are bytes change nothing. -/
theorem drain_eq {turns turns' : Nat} (hs : Bounded config other s)
    (h : s.layer.buffer.length ≤ turns) (h' : s.layer.buffer.length ≤ turns') :
    Framer.drain (c.site during) turns s = Framer.drain (c.site during) turns' s := by
  have hnil (turns : Nat) {s : Stage E} (hempty : s.layer.buffer.length ≤ 0) :
      Framer.drain (c.site during) turns s = ((), s) := by
    refine drain_needsMore ?_ turns
    rw [List.eq_nil_of_length_eq_zero (Nat.le_zero.mp hempty)]
    rfl
  induction turns generalizing turns' s with
  | zero => rw [hnil 0 h, hnil turns' h]
  | succ turns ih =>
      cases turns' with
      | zero => rw [hnil (turns + 1) h', hnil 0 h']
      | succ turns' =>
          cases hdecode : s.layer.codec.decode s.layer.buffer with
          | needsMore => rw [drain_needsMore hdecode, drain_needsMore hdecode]
          | item item rest =>
              have hlt := Codec.length_lt_of_item hdecode
              obtain ⟨hs', hbuffer⟩ := take_run c during hs hdecode
              rw [drain_item hdecode, drain_item hdecode]
              exact ih hs' (by rw [hbuffer]; omega) (by rw [hbuffer]; omega)
          | refused error rest =>
              have hlt := Codec.length_lt_of_refused hdecode
              rw [drain_refused hdecode, drain_refused hdecode]
              exact ih (hs.change rfl rfl) (Nat.le_of_lt_succ (Nat.lt_of_lt_of_le hlt h))
                (Nat.le_of_lt_succ (Nat.lt_of_lt_of_le hlt h'))

/-- The loop leaves of a buffer what its codec leaves. -/
theorem drain_run (c : Company E) (during : Operation) {turns : Nat}
    (hs : Bounded config other s)
    (h : s.layer.buffer.length ≤ turns) :
    Bounded config other (Framer.drain (c.site during) turns s).2 ∧
      (Framer.drain (c.site during) turns s).2.layer.buffer =
        ((Codec.ofConfig config).decodeAll s.layer.buffer).2 := by
  induction turns generalizing s with
  | zero =>
      have hempty := List.eq_nil_of_length_eq_zero (Nat.le_zero.mp h)
      exact ⟨hs, by rw [hempty]; exact hempty⟩
  | succ turns ih =>
      cases hdecode : s.layer.codec.decode s.layer.buffer with
      | needsMore =>
          rw [drain_needsMore hdecode]
          rw [hs.decode_eq] at hdecode
          exact ⟨hs, by rw [Codec.decodeAll_of_needsMore hdecode]⟩
      | item item rest =>
          have hlt := Codec.length_lt_of_item hdecode
          obtain ⟨hs', hbuffer⟩ := take_run c during hs hdecode
          obtain ⟨hbounded, hrest⟩ := ih hs' (by rw [hbuffer]; omega)
          rw [drain_item hdecode]
          rw [hs.decode_eq] at hdecode
          rw [Codec.decodeAll_of_item hdecode]
          exact ⟨hbounded, by rw [hrest, hbuffer]⟩
      | refused error rest =>
          have hlt := Codec.length_lt_of_refused hdecode
          rw [drain_refused hdecode]
          rw [hs.decode_eq] at hdecode
          rw [Codec.decodeAll_of_refused hdecode]
          exact ih (hs.change rfl rfl) (Nat.le_of_lt_succ (Nat.lt_of_lt_of_le hlt h))

/-! ### Runs -/

/-- A framing layer whose reader waits. -/
structure Waits (config : Config) (other : Option Neighbour) (s : Stage E) : Prop
    extends Bounded config other s where
  waits : (Codec.ofConfig config).decode s.layer.buffer = .needsMore

theorem waits_start {f : Framer Neighbour} (h : f.buffer = []) (around : E) (now : Tick) :
    Waits f.config f.other { layer := f, around, now, history := [] } where
  settings := rfl
  outlet := rfl
  fits := by simp [Scene.trace]
  waits := by
    rw [h]
    rfl

/-- An action that keeps the reader waiting, or makes it wait again. -/
abbrev Settles (config : Config) (other : Option Neighbour) {α : Type}
    (act : StateM (Stage E) α) : Prop :=
  ∀ s, Waits config other s → Waits config other (act s).2

theorem Spares.settles {α : Type} {act : StateM (Stage E) α} (h : Spares config other act) :
    Settles config other act := by
  intro s hs
  obtain ⟨hbounded, hbuffer⟩ := h.apply hs.toBounded
  exact ⟨hbounded, hbuffer ▸ hs.waits⟩

theorem expirePartial_kept (f : Framer Neighbour) (now : Tick) :
    (f.expirePartial now).config = f.config ∧ (f.expirePartial now).other = f.other ∧
      ((f.expirePartial now).buffer = f.buffer ∨ (f.expirePartial now).buffer = []) := by
  rw [Framer.expirePartial]
  split
  · exact ⟨rfl, rfl, .inr rfl⟩
  · exact ⟨rfl, rfl, .inl rfl⟩

theorem settles_service : Settles config other (Framer.service (c.site during)) := by
  intro s hs
  rw [Framer.service, bind_run_eq now_run, bind_run_eq (modify_run _)]
  obtain ⟨hconfig, hother, hbuffer⟩ := expirePartial_kept s.layer s.now
  refine spares_retry.settles _ ⟨hs.change hconfig hother, ?_⟩
  rcases hbuffer with hbuffer | hbuffer <;> rw [Scene.layer_change, hbuffer]
  · exact hs.waits
  · rfl

/-- Bytes come in, whatever was waited with. -/
theorem Bounded.receive (hs : Bounded config other s) (bytes : Bytes) :
    Bounded config other
      (s.change fun f => (f.expirePartial s.now).receive s.now bytes) :=
  hs.change (expirePartial_kept s.layer s.now).1 (expirePartial_kept s.layer s.now).2.1

theorem settles_recv (bytes : Bytes) :
    Settles config other (Framer.recv (c.site during) bytes).run := by
  intro s hs
  obtain ⟨answer, hrun⟩ : ∃ answer,
      ((c.site during).ensureInitialized Framer.node).run s = (answer, s) :=
    ⟨_, Site.ensureInitialized_run get_run⟩
  rw [Framer.recv]
  cases answer with
  | error error =>
      rw [bind_run_error hrun]
      exact hs
  | ok _ =>
      rw [bind_run_ok hrun, bind_run_ok (lift_run now_run), bind_run_ok (lift_run (modify_run _)),
        bind_run_ok (lift_run get_run)]
      obtain ⟨hbounded, hrest⟩ := drain_run c during (hs.toBounded.receive bytes) (Nat.le_succ _)
      have hwaits := (Codec.ofConfig config).decode_decodeAll_snd
        (s.change fun f => (f.expirePartial s.now).receive s.now bytes).layer.buffer
      rw [← hrest] at hwaits
      have hretry : Settles config other (Framer.retry (c.site during)) := spares_retry.settles
      exact hretry _ ⟨hbounded, hwaits⟩

theorem settles_act (op : Op) : Settles config other (op.act c) := by
  cases op with
  | send packet => exact Spares.settles ((spares_send packet).bind fun _ => .pure _)
  | confirm packet => exact Spares.settles ((spares_confirm packet).bind fun _ => .pure _)
  | recv bytes => exact fun s hs => settles_recv bytes s hs
  | service => exact settles_service
  | advance ticks =>
      exact fun s hs => settles_service { s with now := s.now + ticks }
        ⟨⟨hs.settings, hs.outlet, hs.fits⟩, hs.waits⟩

theorem settles_run (ops : List Op) : Settles config other (Op.run c ops) := by
  induction ops with
  | nil => exact fun _ hs => hs
  | cons op ops ih => exact fun s hs => ih _ (settles_act op s hs)

end Spared

/-- Reading always goes on, and a framing layer never keeps as much as its longest
frame, whatever it is given and whatever its neighbours do. -/
theorem reading_bounded :
    (∀ (c : Codec) (buffer : Bytes), c.Advances buffer (c.decode buffer) ∧
      c.Cut buffer (c.decodeAll buffer)) ∧
    ∀ {E : Type} (c : Company E) (f : Framer Neighbour) (around : E) (now : Tick)
      (ops : List Op), f.buffer = [] →
      let s := (Op.run c ops { layer := f, around, now, history := [] }).2
      (s.layer.buffer = [] ∨ s.layer.buffer.head? = some f.config.delimiter) ∧
      s.layer.buffer.length < f.config.maxSize + f.config.mode.maxOverhead ∧
      (∀ during who bytes answer, .contact during who (.recv bytes answer) ∈ s.trace →
        f.other ≠ some who → 1 ≤ bytes.length ∧ bytes.length ≤ f.config.maxSize) ∧
      ∀ bytes turns, let s' := s.change fun f => (f.expirePartial s.now).receive s.now bytes
        s'.layer.buffer.length ≤ turns → Framer.drain (c.site .recv) turns s' =
          Framer.drain (c.site .recv) (s'.layer.buffer.length + 1) s' := by
  refine ⟨fun c buffer => ⟨c.advances buffer, c.cut_decodeAll buffer⟩, ?_⟩
  intro E c f around now ops hempty s
  have hs : Waits f.config f.other s := settles_run ops _ (waits_start hempty around now)
  obtain ⟨hfront, hlength⟩ := Codec.length_lt_of_needsMore hs.waits
  refine ⟨hfront, Nat.lt_of_lt_of_le hlength (Nat.add_le_add_right (Nat.min_le_left _ _) _),
    ?_, ?_⟩
  · intro during who bytes answer hmem hwho
    obtain ⟨hne, hsize⟩ := hs.fits _ hmem hwho
    exact ⟨List.length_pos_iff.mpr hne, hsize⟩
  · intro bytes turns s' hturns
    exact drain_eq (hs.toBounded.receive bytes) hturns (Nat.le_succ _)

theorem reading_bounded_short : ∃ f f' : Framer Neighbour,
    Framer.new .short 0 = .ok f ∧ f.init (some .child) (some .other) (some .parent) = .ok f' ∧
    f'.buffer = [] ∧
    let c : Company Unit := { Neighbours.ample 64 with react := fun _ => pure .done, limit := 0 }
    let s := (Op.run c [.recv [0x41, 0xA5, 0x3F], .advance 60, .recv [0x00]]
      { layer := f', around := (), now := 0, history := [] }).2
    s.layer.buffer.length < f'.config.maxSize + f'.config.mode.maxOverhead := by
  refine ⟨_, _, rfl, rfl, rfl, ?_⟩
  exact (reading_bounded.2 _ _ () 0 _ rfl).2.1

end LinkStack.Frame
