import LinkStack.Proofs.Frame.Book

/-!
The book of a framing layer is kept in all runs.

Each operation of the layer is taken apart into its calls and its changes of state,
and is shown to make entries into the book only, whatever its neighbours do. The
ledger of a run then follows from that of a single entry.
-/

namespace LinkStack.Frame

/-! ### Operations -/

/-- The layer is initialized, with the given settings and reading of the clock. -/
structure Ready {E : Type} (config : Config) (now : Tick) (s : Stage E) : Prop where
  node : s.layer.node =
    { name := "frame", links := some { child := some .child, parent := some .parent } }
  config : s.layer.config = config
  now : s.now = now

def Book.of {E : Type} (s : Stage E) : Book := ⟨s.layer.outstanding, s.trace⟩

/-- An action of an initialized layer makes entries into its book, and nothing else
that concerns confirmed packets. -/
abbrev Enters {E α : Type} (config : Config) (now : Tick) (act : StateM (Stage E) α) : Prop :=
  Follows (Ready config now) Book.of (Book.Entry config now) act

namespace Book

variable {E : Type} {s : Stage E}

theorem of_meet (around : E) (event : Event) : of (s.meet around event) = (of s).note event := by
  simp [of, note]

theorem of_change {f : Framer Neighbour → Framer Neighbour} {awaited : Option Outstanding}
    (h : (f s.layer).outstanding = awaited) : of (s.change f) = (of s).await awaited := by
  simp [of, await, h]

theorem of_count {f : Framer Neighbour → Framer Neighbour}
    (h : (f s.layer).outstanding = s.layer.outstanding) : of (s.change f) = of s :=
  of_change h

end Book

section Operations

variable {E : Type} {c : Company E} {config : Config} {now : Tick} {during : Operation}
  {parent : Layer (StateM (Stage E))} {s : Stage E}

theorem Ready.child_run (h : Ready config now s) :
    ((c.place during parent).child Framer.node).run s = (.ok (c.noted during .child), s) := by
  have hchild : s.layer.node.child = .ok .child := by
    rw [h.node]
    rfl
  exact Site.child_run_ok get_run hchild

theorem Ready.ensureInitialized_run (h : Ready config now s) :
    ((c.place during parent).ensureInitialized Framer.node).run s = (.ok (), s) := by
  refine Site.ensureInitialized_run_ok get_run ?_
  rw [h.node]
  rfl

/-- The layer sends the frame of a body. -/
theorem write_run (hqueues : Queues (c.layer .child)) (hs : Ready config now s) {body : Bytes}
    (hbody : body ≠ []) (hsize : body.length ≤ (Codec.ofConfig config).maxSize) :
    ∃ answer around event, (Framer.write (c.place during parent) body).run s =
      (answer.map fun _ => (Codec.ofConfig config).frame body,
        (s.meet around (.contact during .child
          (.send ((Codec.ofConfig config).frame body) answer))).change (·.count event)) ∧
      (answer = .ok ((Codec.ofConfig config).frame body).length ∨
        ∃ error, answer = .error error ∧ error ≠ .busy "frame") := by
  have hencode : s.layer.codec.encode body [] = (.ok (), (Codec.ofConfig config).frame body) := by
    rw [Framer.codec, hs.config]
    exact Codec.encode_of_fits hbody hsize []
  rw [Framer.write, bind_run_ok (lift_run get_run), hencode]
  generalize (Codec.ofConfig config).frame body = wire
  have hcall : (attempt ((c.noted during .child).send wire)).run s =
      (.ok (((c.layer .child).send wire).run s.around).1,
        s.meet (((c.layer .child).send wire).run s.around).2
          (.contact during .child (.send wire (((c.layer .child).send wire).run s.around).1))) :=
    rfl
  have hsent := hqueues wire s.around
  generalize ((c.layer .child).send wire).run s.around = sent at hcall hsent
  obtain ⟨answer, around⟩ := sent
  refine ⟨answer, around, if answer.toBool then .txPacket body.length else .txDropped, ?_, hsent⟩
  have hencoded : (Except.ok () : Except Frame.Error Unit).mapError Error.toLayerError = .ok () :=
    rfl
  simp only
  rw [bind_run_ok (answer_run hencoded), bind_run_ok hs.child_run, bind_run_ok hcall]
  obtain rfl | ⟨error, rfl, -⟩ : answer = .ok wire.length ∨
      ∃ error, answer = .error error ∧ error ≠ .busy "frame" := hsent
  · simp only [if_true]
    rfl
  · rfl

theorem Ready.change (hs : Ready config now s) {f : Framer Neighbour → Framer Neighbour}
    (hnode : (f s.layer).node = s.layer.node) (hconfig : (f s.layer).config = s.layer.config) :
    Ready config now (s.change f) :=
  ⟨hnode.trans hs.node, hconfig.trans hs.config, hs.now⟩

theorem Ready.meet (hs : Ready config now s) (around : E) (event : Event) :
    Ready config now (s.meet around event) :=
  ⟨hs.node, hs.config, hs.now⟩

/-- A change of the layer that leaves alone what it awaits. -/
theorem enters_modify {f : Framer Neighbour → Framer Neighbour}
    (h : ∀ x, (f x).node = x.node ∧ (f x).config = x.config ∧ (f x).outstanding = x.outstanding) :
    Enters config now ((c.place during parent).modify f) := by
  intro s hs
  obtain ⟨hnode, hconfig, houtstanding⟩ := h s.layer
  rw [modify_run]
  refine ⟨hs.change hnode hconfig, ?_⟩
  rw [Book.of_count houtstanding]

theorem checkSize_of_legal {f : Framer Neighbour} (hconfig : f.config.validate = .ok ())
    {packet : Bytes} (h : Legal f.config packet) :
    f.checkSize packet.length controlHeader = .ok () := by
  obtain ⟨hpacket, hsize⟩ := h
  have hlimit : f.bodyLimit = f.config.maxSize :=
    Nat.min_eq_left (Config.size_of_validate hconfig).2
  rw [Framer.checkSize, if_neg (by simpa using hpacket), hlimit, if_neg (by omega)]

/-- What a confirmed send answers, and what it does to the book. -/
inductive Confirms (config : Config) (now : Tick) (during : Operation) (packet : Bytes) (b : Book) :
    Except LayerError Nat → Book → Prop
  | refused {error : LayerError}
      (hbusy : Legal config packet → (error = .busy "frame" ↔ b.awaited.isSome)) :
      Confirms config now during packet b (.error error) b
  | unwritten {wire : Bytes} {error : LayerError} (hidle : b.awaited = none)
      (hbusy : error ≠ .busy "frame") :
      Confirms config now during packet b (.error error)
        (b.note (.contact during .child (.send wire (.error error))))
  | sent {o : Outstanding} (hidle : b.awaited = none) (hpacket : o.packet = packet)
      (hretries : o.retries = 0) (hsent : o.sentAt = now)
      (hwire : o.wire = (Codec.ofConfig config).frame (dataBody o.seq o.packet))
      (hdata : acknowledges config o.wire = false) :
      Confirms config now during packet b (.ok packet.length)
        ((b.note (.contact during .child (.send o.wire (.ok o.wire.length)))).await (some o))

theorem sendConfirmed_run (hconfig : config.validate = .ok ()) (hqueues : Queues (c.layer .child))
    (hs : Ready config now s) (packet : Bytes) :
    ∃ answer s', (Framer.sendConfirmed (c.place during parent) packet).run s = (answer, s') ∧
      Ready config now s' ∧ Confirms config now during packet (Book.of s) answer (Book.of s') := by
  rw [Framer.sendConfirmed, bind_run_ok hs.ensureInitialized_run, bind_run_ok (lift_run get_run)]
  cases hcheck : s.layer.checkSize packet.length controlHeader with
  | error error =>
      refine ⟨.error error, s, bind_run_error (answer_run rfl) _, hs, .refused fun hlegal => ?_⟩
      rw [← hs.config] at hconfig hlegal
      rw [checkSize_of_legal hconfig hlegal] at hcheck
      simp at hcheck
  | ok _ =>
      obtain ⟨hpacket, hfits⟩ := Framer.checkSize_eq_ok hcheck
      rw [bind_run_ok (answer_run rfl)]
      cases hawaited : s.layer.outstanding with
      | some o =>
          refine ⟨.error (.busy "frame"), s, ?_, hs, .refused fun _ => by simp [Book.of, hawaited]⟩
          simp only [Option.isSome_some, if_true]
          rw [hs.node]
          rfl
      | none =>
          simp only [Option.isSome_none, Bool.false_eq_true, if_false]
          -- the number is used up before the write, and stays so if it fails
          rw [bind_run_ok (lift_run (modify_run _))]
          generalize hnext : s.change _ = s'
          have hs' : Ready config now s' := hnext ▸ hs.change rfl rfl
          have hbook : Book.of s' = Book.of s := hnext ▸ Book.of_count rfl
          have hsize : (dataBody s.layer.nextSeq packet).length ≤
              (Codec.ofConfig config).maxSize := by
            rw [← hs.config]
            exact hfits
          obtain ⟨answer, around, event, hwrite, hanswer⟩ :=
            @write_run E c config now during parent s' hqueues hs' _ (by simp [dataBody]) hsize
          obtain rfl | ⟨error, rfl, hbusy⟩ := hanswer
          · rw [bind_run_ok hwrite, bind_run_ok (lift_run now_run),
              bind_run_ok (lift_run (modify_run _))]
            refine ⟨.ok packet.length, _, rfl, ((hs'.meet _ _).change rfl rfl).change rfl rfl, ?_⟩
            rw [Book.of_change rfl, Book.of_count rfl, Book.of_meet, hbook]
            have hpacket : packet ≠ [] := fun hnil => hpacket (congrArg List.length hnil)
            exact .sent
              (o := { seq := s.layer.nextSeq, sentAt := _, retries := 0, wire := _, packet })
              hawaited rfl rfl hs'.now rfl (acknowledges_dataBody hpacket hsize)
          · refine ⟨.error error, _, bind_run_error hwrite _, (hs'.meet _ _).change rfl rfl, ?_⟩
            rw [Book.of_count rfl, Book.of_meet, hbook]
            exact .unwritten hawaited hbusy

/-! ### Confirmed sends -/

theorem Confirms.entries {packet : Bytes} {b b' : Book} {answer : Except LayerError Nat}
    (h : Confirms config now .confirm packet b answer b') :
    Relation.ReflTransGen (Book.Entry config now) b
      (b'.note (.confirmed b.awaited packet answer b'.awaited)) := by
  cases h with
  | refused hbusy => exact .single (.refuse hbusy)
  | unwritten hidle hbusy =>
      refine .tail (.single (.contact rfl rfl)) (.refuse fun _ => ?_)
      simp [Book.note, hidle, hbusy]
  | sent hidle hpacket hretries hsent hwire hdata =>
      subst hpacket
      rw [hidle]
      exact .single (.accept hidle hretries hsent hwire hdata)

theorem confirm_run (hconfig : config.validate = .ok ()) (hqueues : Queues (c.layer .child))
    (hs : Ready config now s) (packet : Bytes) :
    ∃ answer s', c.confirm packet s = (answer, s'.meet s'.around
        (.confirmed s.layer.outstanding packet answer s'.layer.outstanding)) ∧
      Ready config now s' ∧
      Confirms config now .confirm packet (Book.of s) answer (Book.of s') := by
  obtain ⟨answer, s', hrun, hs', hconfirms⟩ := @sendConfirmed_run E c config now .confirm
    (c.noted .confirm .parent) s hconfig hqueues hs packet
  refine ⟨answer, s', ?_, hs', hconfirms⟩
  have hget : (get : StateM (Stage E) (Stage E)) s = (s, s) := rfl
  rw [Company.confirm, bind_run_eq hget, bind_run_eq hrun]
  rfl

theorem enters_confirm (hconfig : config.validate = .ok ()) (hqueues : Queues (c.layer .child))
    (packet : Bytes) : Enters config now (c.confirm packet) := by
  intro s hs
  obtain ⟨answer, s', hrun, hs', hconfirms⟩ := confirm_run hconfig hqueues hs packet
  rw [hrun]
  refine ⟨hs'.meet _ _, ?_⟩
  rw [Book.of_meet]
  exact hconfirms.entries

theorem enters_reaction (hconfig : config.validate = .ok ()) (hqueues : Queues (c.layer .child))
    (reaction : Reaction) : Enters config now (reaction.run c.confirm) := by
  induction reaction with
  | done => exact .pure _
  | confirm packet next ih => exact (enters_confirm hconfig hqueues packet).bind ih

theorem Ready.parent_run (hs : Ready config now s)
    (halive : ∀ around, (c.alive .parent around).1 = true) :
    ((c.site during).parent? Framer.node).run s =
      (.ok (some (c.parent during)), { s with around := (c.alive .parent s.around).2 }) := by
  have hlinked : s.layer.node.linked = .ok { child := some .child, parent := some .parent } := by
    rw [hs.node]
    rfl
  have halive' : (c.place during (c.parent during)).alive .parent s =
      (true, { s with around := (c.alive .parent s.around).2 }) := by
    rw [← halive s.around]
    rfl
  rw [Site.parent?, bind_run_ok (lift_run get_run), bind_run_ok (answer_run hlinked)]
  simp only
  rw [bind_run_ok (lift_run halive')]
  rfl

/-! ### Calls -/

theorem enters_get : Enters config now (c.place during parent).get :=
  fun _ hs => ⟨hs, .refl⟩

theorem enters_now : Enters config now (c.place during parent).now :=
  fun _ hs => ⟨hs, .refl⟩

theorem enters_recv_of (who : Neighbour) (bytes : Bytes) :
    Enters config now (((c.site during).layer who).recv bytes).run := by
  have hnoted : Enters config now ((c.noted during who).recv bytes).run := by
    intro s hs
    have hcall : ((c.noted during who).recv bytes).run s =
        ((((c.layer who).recv bytes).run s.around).1,
          s.meet (((c.layer who).recv bytes).run s.around).2 (.contact during who (.recv bytes
            (((c.layer who).recv bytes).run s.around).1))) := rfl
    rw [hcall]
    refine ⟨hs.meet _ _, ?_⟩
    rw [Book.of_meet]
    exact .single (.contact (by cases who <;> rfl) (by cases who <;> rfl))
  cases who <;> exact hnoted

theorem enters_write (hqueues : Queues (c.layer .child)) {body : Bytes} (hbody : body ≠ [])
    (hsize : body.length ≤ (Codec.ofConfig config).maxSize)
    (hquiet : ∀ answer, (Event.contact during .child
      (.send ((Codec.ofConfig config).frame body) answer)).resent? config = none) :
    Enters config now (Framer.write (c.place during parent) body).run := by
  intro s hs
  obtain ⟨answer, around, event, hwrite, -⟩ :=
    @write_run E c config now during parent s hqueues hs body hbody hsize
  rw [hwrite]
  simp only
  refine ⟨(hs.meet _ _).change rfl rfl, ?_⟩
  rw [Book.of_count rfl, Book.of_meet]
  exact .single (.contact rfl (hquiet answer))

theorem enters_deliver (halive : ∀ around, (c.alive .parent around).1 = true) (body : Bytes) :
    Enters config now (Framer.deliver (c.site during) body) := by
  intro s hs
  rw [Framer.deliver, bind_run_eq (hs.parent_run halive)]
  have henters : Enters config now (do
      (c.site during).modify (·.count (.rxPacket body.length))
      let _ ← ((c.parent during).recv body).run) := by
    refine (enters_modify ?_).bind fun _ => ?_
    · exact fun _ => ⟨rfl, rfl, rfl⟩
    · exact (enters_recv_of .parent body).bind fun _ => .pure _
  exact henters _ ⟨hs.node, hs.config, hs.now⟩

theorem enters_expirePartial (reading : Tick) :
    Enters config now ((c.place during parent).modify (·.expirePartial reading)) := by
  refine enters_modify fun x => ?_
  rw [Framer.expirePartial]
  split <;> exact ⟨rfl, rfl, rfl⟩

theorem enters_send (hqueues : Queues (c.layer .child)) (packet : Bytes) :
    Enters config now (Framer.send (c.site .send) packet).run := by
  intro s hs
  rw [Framer.send, bind_run_ok hs.ensureInitialized_run, bind_run_ok (lift_run get_run)]
  cases hcheck : s.layer.checkSize packet.length 0 with
  | error error =>
      rw [bind_run_error (answer_run rfl)]
      exact ⟨hs, .refl⟩
  | ok _ =>
      obtain ⟨hpacket, hsize⟩ := Framer.checkSize_eq_ok hcheck
      rw [bind_run_ok (answer_run rfl)]
      rw [Framer.bodyLimit, Framer.codec, hs.config] at hsize
      have hwrite : Enters config now (Framer.write (c.site .send) packet).run :=
        enters_write hqueues (fun hnil => hpacket (congrArg List.length hnil)) hsize
          fun _ => rfl
      exact hwrite.except_bind (fun _ => .pure _) s hs

/-! ### Reports and reactions -/

variable (hconfig : config.validate = .ok ()) (hqueues : Queues (c.layer .child))
  (halive : ∀ around, (c.alive .parent around).1 = true)

include hconfig hqueues halive

/-- A report and what the application does about it. -/
theorem report_run (during : Operation) (hs : Ready config now s) (delivery : Delivery) :
    Ready config now (Framer.report (c.site during) delivery s).2 ∧
      Relation.ReflTransGen (Book.Entry config now)
        ((Book.of s).note (.contact during .parent (.delivered delivery)))
        (Book.of (Framer.report (c.site during) delivery s).2) := by
  obtain ⟨around, reaction, hreport⟩ : ∃ (around : E) (reaction : Reaction),
      Framer.report (c.site during) delivery s =
        reaction.run c.confirm (s.meet around (.contact during .parent (.delivered delivery))) := by
    rw [Framer.report, bind_run_eq (hs.parent_run halive)]
    exact ⟨_, _, rfl⟩
  rw [hreport, ← Book.of_meet around]
  exact enters_reaction hconfig hqueues reaction _
    (hs.meet around (.contact during .parent (.delivered delivery)))

/-- The retry timer makes entries, after which nothing is due. -/
theorem retry_run (hduring : during = .recv ∨ during = .service) (hs : Ready config now s) :
    let s' := (Framer.retry (c.site during) s).2
    (Ready config now s' ∧ Relation.ReflTransGen (Book.Entry config now) (Book.of s) (Book.of s')) ∧
      Book.Fresh config now s'.layer.outstanding := by
  have hpos := Config.ackTimeout_of_validate hconfig
  rw [Framer.retry, bind_run_eq get_run, bind_run_eq now_run, hs.now]
  rcases s.layer.expireOutstanding_cases now with
    ⟨hearly, hexpiry⟩ | ⟨o, ho, hdue, hretries, hexpiry⟩ | ⟨o, ho, hdue, hretries, hexpiry⟩ <;>
    rw [hexpiry] <;> simp only <;> rw [bind_run_eq (modify_run _)] <;>
    generalize hchanged : s.change _ = s'
  · -- nothing is due
    have hs' : Ready config now s' := hchanged ▸ hs.change rfl rfl
    have hbook : Book.of s' = Book.of s := hchanged ▸ Book.of_count rfl
    rw [pure_run, hbook]
    refine ⟨⟨hs', .refl⟩, ?_⟩
    subst hchanged
    rwa [hs.config] at hearly
  · -- sent again
    have hs' : Ready config now s' := hchanged ▸ hs.change rfl rfl
    have hbook : Book.of s' = (Book.of s).await
        (some { o with retries := o.retries + 1, sentAt := now }) :=
      hchanged ▸ Book.of_change rfl
    rw [bind_run_eq hs'.child_run]
    refine ⟨⟨hs'.meet _ (.contact during .child (.send o.wire _)), .single ?_⟩, ?_⟩
    · show Book.Entry config now _ (Book.of (s'.meet _ (.contact during .child (.send o.wire _))))
      rw [Book.of_meet, hbook]
      rw [hs.config] at hdue hretries
      exact .resend ho hdue hretries hduring
    · subst hchanged
      exact Book.fresh_some hpos rfl
  · -- given up
    have hs' : Ready config now s' := hchanged ▸ hs.change rfl rfl
    have hbook : Book.of s' = (Book.of s).await none := hchanged ▸ Book.of_change rfl
    obtain ⟨hready, hentries⟩ := report_run hconfig hqueues halive during hs'
      { status := .dropped, packet := o.packet }
    rw [hbook] at hentries
    rw [hs.config] at hdue hretries
    exact ⟨⟨hready, .head (.giveUp ho hdue hretries) hentries⟩,
      Book.fresh_of_entries hpos hentries (Book.fresh_none _ _)⟩

theorem enters_retry (hduring : during = .recv ∨ during = .service) :
    Enters config now (Framer.retry (c.site during)) :=
  fun _ hs => (retry_run hconfig hqueues halive hduring hs).1

theorem enters_settle {payload : Bytes} {seq : UInt8} (hread : Control.read payload = .ack seq) :
    Enters config now (Framer.control (c.site during) payload) := by
  intro s hs
  rw [Framer.control, hread]
  simp only
  rw [bind_run_eq get_run]
  rcases s.layer.acknowledge_cases seq with ⟨o, ho, -, hsettled⟩ | ⟨-, hsettled⟩ <;>
    rw [hsettled] <;> simp only <;> rw [bind_run_eq (modify_run _)] <;>
    generalize hchanged : s.change _ = s'
  · have hs' : Ready config now s' := hchanged ▸ hs.change rfl rfl
    have hbook : Book.of s' = (Book.of s).await none := hchanged ▸ Book.of_change rfl
    obtain ⟨hready, hentries⟩ := report_run hconfig hqueues halive during hs'
      { status := .acked, packet := o.packet }
    rw [hbook] at hentries
    exact ⟨hready, .head (.settle ho) hentries⟩
  · have hs' : Ready config now s' := hchanged ▸ hs.change rfl rfl
    have hbook : Book.of s' = Book.of s := hchanged ▸ Book.of_count rfl
    refine ⟨hs', ?_⟩
    rw [pure_run, hbook]

theorem enters_control (payload : Bytes) :
    Enters config now (Framer.control (c.site during) payload) := by
  cases hread : Control.read payload with
  | ack seq => exact enters_settle hconfig hqueues halive hread
  | malformed =>
      rw [Framer.control, hread]
      exact enters_modify fun _ => ⟨rfl, rfl, rfl⟩
  | data seq packet =>
      have hsize : (ackBody seq).length ≤ (Codec.ofConfig config).maxSize :=
        Config.three_le_maxSize hconfig
      have hquiet (answer : Except LayerError Nat) : (Event.contact during .child
          (.send ((Codec.ofConfig config).frame (ackBody seq)) answer)).resent? config = none :=
        if_neg (by simp [acknowledges_ackBody hsize])
      rw [Framer.control, hread]
      -- the acknowledgement is written first, for a repeat as well
      refine (enters_write hqueues (by simp [ackBody]) hsize hquiet).bind fun _ => ?_
      refine enters_now.bind fun now => enters_get.bind fun f => ?_
      refine Follows.bind (enters_modify ?_) fun _ => ?_
      · exact fun _ => ⟨rfl, rfl, rfl⟩
      split
      · exact enters_modify fun _ => ⟨rfl, rfl, rfl⟩
      · exact enters_deliver halive packet

theorem enters_take (item : Item) : Enters config now (Framer.take (c.site during) item) := by
  cases item with
  | packet packet =>
      rw [Framer.take]
      split
      · exact enters_control hconfig hqueues halive _
      · exact enters_deliver halive _
  | stray bytes =>
      refine enters_get.bind fun f => ?_
      split
      · exact (enters_recv_of _ bytes).bind fun _ => .pure _
      · exact .pure _

theorem enters_drain (turns : Nat) : Enters config now (Framer.drain (c.site during) turns) := by
  induction turns with
  | zero => exact .pure _
  | succ turns ih =>
      refine enters_get.bind fun f => ?_
      split
      · exact .pure _
      · refine Follows.bind (enters_modify ?_) fun _ => ?_
        · exact fun _ => ⟨rfl, rfl, rfl⟩
        · exact (enters_take hconfig hqueues halive _).bind fun _ => ih
      · refine Follows.bind (enters_modify ?_) fun _ => ih
        exact fun _ => ⟨rfl, rfl, rfl⟩

theorem enters_service : Enters config now (Framer.service (c.site .service)) :=
  enters_now.bind fun now => (enters_expirePartial now).bind fun _ =>
    enters_retry hconfig hqueues halive (.inr rfl)

theorem enters_recv (bytes : Bytes) :
    Enters config now (Framer.recv (c.site .recv) bytes).run := by
  have hinitialized : Enters config now ((c.site .recv).ensureInitialized Framer.node).run := by
    intro s hs
    rw [hs.ensureInitialized_run]
    exact ⟨hs, .refl⟩
  refine hinitialized.except_bind fun _ => ?_
  refine (Follows.except_lift enters_now).except_bind fun now => ?_
  refine (Follows.except_lift (enters_modify fun x => ?_)).except_bind fun _ => ?_
  · rw [Framer.receive, Framer.expirePartial]
    split <;> exact ⟨rfl, rfl, rfl⟩
  refine (Follows.except_lift enters_get).except_bind fun f => ?_
  refine (Follows.except_lift (enters_drain hconfig hqueues halive _)).except_bind fun _ => ?_
  refine (Follows.except_lift (enters_retry hconfig hqueues halive (.inl rfl))).except_bind
    fun _ => ?_
  exact .pure _

/-- An operation makes its entries at the time that it has brought. -/
theorem act_run (hs : Ready config now s) (op : Op) :
    let s' := (op.act c s).2
    Ready config (now + op.ticks) s' ∧
      Relation.ReflTransGen (Book.Entry config (now + op.ticks)) (Book.of s) (Book.of s') := by
  have hzero : now + 0 = now := UInt32.add_zero now
  cases op with
  | send packet => exact hzero.symm ▸ ((enters_send hqueues packet).bind fun _ => .pure _) s hs
  | confirm packet =>
      exact hzero.symm ▸ ((enters_confirm hconfig hqueues packet).bind fun _ => .pure _) s hs
  | recv bytes =>
      exact hzero.symm ▸ ((enters_recv hconfig hqueues halive bytes).bind fun _ => .pure _) s hs
  | service => exact hzero.symm ▸ enters_service hconfig hqueues halive s hs
  | advance ticks =>
      exact enters_service hconfig hqueues halive { s with now := s.now + ticks }
        ⟨hs.node, hs.config, by rw [hs.now]; rfl⟩

end Operations

theorem ledger_nil (config : Config) : Ledger config [] none where
  balanced := rfl
  retries := by simp
  awaited := by simp
  data := by simp
  explained := by simp

theorem initialized {config : Config} {made : Tick} {f f' : Framer Neighbour}
    {other : Option Neighbour} (hnew : Framer.new config made = .ok f)
    (hinit : f.init (some .child) other (some .parent) = .ok f') :
    config.validate = .ok () ∧ f'.config = config ∧ f'.outstanding = none ∧ f'.node =
      { name := "frame", links := some { child := some .child, parent := some .parent } } := by
  rw [Framer.new] at hnew
  cases hvalid : config.validate with
  | error error => simp [hvalid, Except.map] at hnew
  | ok _ =>
      rw [hvalid] at hnew
      obtain ⟨⟩ := hnew
      obtain ⟨⟩ := hinit
      exact ⟨rfl, rfl, rfl, rfl⟩

theorem ledger_ops {E : Type} {c : Company E} {config : Config} {now : Tick} {s : Stage E}
    (hconfig : config.validate = .ok ()) (hqueues : Queues (c.layer .child))
    (halive : ∀ around, (c.alive .parent around).1 = true) (hs : Ready config now s)
    (h : Ledger config s.trace s.layer.outstanding) (ops : List Op) :
    let s' := (Op.run c ops s).2
    (∃ now', Ready config now' s') ∧ Ledger config s'.trace s'.layer.outstanding := by
  induction ops generalizing now s with
  | nil => exact ⟨⟨now, hs⟩, h⟩
  | cons op ops ih =>
      obtain ⟨hs', hentries⟩ := act_run hconfig hqueues halive hs op
      exact ih hs' (Ledger.entries (b := Book.of s) h hentries)

/-- In every run of a framing layer, what was accepted is what was reported and what is
awaited. -/
theorem ledger_run {E : Type} {c : Company E} {config : Config} {made now : Tick}
    {f f' : Framer Neighbour} {other : Option Neighbour} (hnew : Framer.new config made = .ok f)
    (hinit : f.init (some .child) other (some .parent) = .ok f')
    (hqueues : Queues (c.layer .child)) (halive : ∀ around, (c.alive .parent around).1 = true)
    (around : E) (ops : List Op) :
    let s := (Op.run c ops { layer := f', around, now, history := [] }).2
    Ledger config s.trace s.layer.outstanding ∧
      (accepted s.trace).length =
        (reports s.trace).length + if s.layer.outstanding.isSome then 1 else 0 := by
  intro s
  obtain ⟨hconfig, hsettings, hidle, hnode⟩ := initialized hnew hinit
  have hledger : Ledger config s.trace s.layer.outstanding := by
    refine (ledger_ops hconfig hqueues halive ⟨hnode, hsettings, rfl⟩ ?_ ops).2
    show Ledger config [] f'.outstanding
    rw [hidle]
    exact ledger_nil config
  refine ⟨hledger, ?_⟩
  rw [hledger.balanced.eq, List.length_append, List.length_map, List.length_map]
  cases s.layer.outstanding <;> rfl

/-- A child that keeps what it is given, under an application that sends another packet
for every one that is lost. -/
def queueing : Company (List Bytes) where
  layer _ :=
    { name := pure "queue"
      recv := fun bytes => return bytes.length
      send := fun bytes => do
        modify (· ++ [bytes])
        return bytes.length
      capacity := pure 64
      delivered := fun _ => pure ()
      stats := pure {} }
  alive _ := pure true
  react report := pure (if report.status = .dropped then .confirm [0x42] fun _ => .done else .done)
  limit := 0

theorem ledger_run_queueing : ∃ f f' : Framer Neighbour,
    Framer.new {} 0 = .ok f ∧ f.init (some .child) none (some .parent) = .ok f' ∧
    let s := (Op.run queueing [.confirm [0x41], .advance 60, .advance 60, .advance 60, .advance 60]
      { layer := f', around := [], now := 0, history := [] }).2
    Ledger {} s.trace s.layer.outstanding ∧
      (accepted s.trace).length =
        (reports s.trace).length + if s.layer.outstanding.isSome then 1 else 0 :=
  ⟨_, _, rfl, rfl, ledger_run (c := queueing) rfl rfl (fun _ _ => .inl rfl) (fun _ => rfl) [] _⟩

end LinkStack.Frame
