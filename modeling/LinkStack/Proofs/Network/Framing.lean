import LinkStack.Proofs.Frame.Chunks
import LinkStack.Proofs.Frame.Framer
import LinkStack.Proofs.Network.Detail
import LinkStack.Proofs.Network.Stack

/-!
What a framing layer does in a network, in full.

There is one lemma for each of its operations, which leaves the calls to its
neighbours to whoever uses it. The loop that takes units from the buffer has an
invariant over the units that were taken so far (`leads_drain`); which units
these will be is known from the start, since nothing that a unit brings about
changes what is left in the buffer.
-/

namespace LinkStack.Network

open LinkStack.Frame (Framer Packet Codec Item Decoded Control)

variable {σ : Type} {plan : Ref → Option Object} {calls : Calls σ} {d : Detail σ} {ref : Ref}
  {f₀ f : Framer Ref} {links : Links Ref}

theorem codec_of_bare (h : View.Bared.bare .framer f = f₀) : f.codec = f₀.codec := by
  rw [← h]
  rfl

theorem bare_expirePartial (f : Framer Ref) (now : Tick) :
    View.Bared.bare .framer (f.expirePartial now) = View.Bared.bare .framer f := by
  rw [Framer.expirePartial]
  split <;> rfl

/-- A framing layer at rest: it has begun no frame, and its retry timer is not due. -/
structure AtRest (now : Tick) (f : Framer Ref) : Prop where
  buffer : f.buffer = []
  outstanding : ∀ o, f.outstanding = some o → now.since o.sentAt < f.config.ackTimeout

theorem AtRest.count {now : Tick} {f : Framer Ref} (h : AtRest now f) (event : Traffic) :
    AtRest now (f.count event) :=
  ⟨h.buffer, h.outstanding⟩

theorem expireOutstanding_early {now : Tick} {f : Framer Ref}
    (h : ∀ o, f.outstanding = some o → now.since o.sentAt < f.config.ackTimeout) :
    f.expireOutstanding now = (.nothing, f) := by
  rw [Framer.expireOutstanding]
  cases ho : f.outstanding with
  | none => rfl
  | some o => exact if_pos (h o ho)

theorem fold_ne_of_lt {tag : UInt8} (h : tag < Tag.frame) : Tag.fold tag ≠ Tag.frame := by
  rw [Tag.fold_of_lt h]
  exact UInt8.ne_of_lt h

/-! ### Listeners -/

theorem bind_listener?_bare (n : Network σ) (ref : Ref) :
    (n.bare ref).bind Object.listener? = (n.object? ref).bind Object.listener? := by
  rw [Network.bare]
  cases n.object? ref with
  | none => rfl
  | some object => cases object <;> rfl

theorem alive_of_listener {key : Key} (h : (plan ref).bind Object.listener? = some key) :
    (plan ref).isSome := by
  obtain ⟨object, hobject, -⟩ := Option.bind_eq_some_iff.mp h
  rw [hobject]
  rfl

theorem heardBy_map (key key' : Key) (list : List Packet) :
    Log.heardBy (list.map fun p => (key, p.body)) key' =
      if key = key' then list.map Packet.body else [] := by
  rw [Log.heardBy, List.filterMap_map]
  show list.filterMap (fun p => if key = key' then some p.body else none) = _
  by_cases hkey : key = key' <;> simp [hkey]

/-- A listener takes down what it receives. -/
theorem leads_listener {d : Detail Log} {key : Key}
    (h : (plan ref).bind Object.listener? = some key) (payload : Bytes)
    {answer : Log → Except LayerError Nat} {levels : Nat}
    {Q : Except LayerError Nat → Detail Log → Prop}
    (hQ : ∀ used, Q used (d.withApp (d.app ++ [(key, payload)]))) :
    Leads plan (((Network.calls (listening answer) (levels + 1)).layer ref).recv payload).run
      d Q := by
  obtain ⟨object, hobject, hkey⟩ := Option.bind_eq_some_iff.mp h
  cases object with
  | custom own =>
      cases hkey
      refine Leads.recv hobject rfl (Leads.lift (Leads.modify_app (· ++ [(key, payload)]) ?_))
      exact Leads.get (fun _ _ => rfl) fun _ _ _ => Leads.pure (hQ _)
  | receiver r own =>
      cases hkey
      have hcount (used : Nat) : Leads plan ((site (Network.calls (listening answer) levels)
          .receiver ref).modify fun r => { r with stats := r.stats.count (.rxPacket used) })
          (d.withApp (d.app ++ [(key, payload)])) fun _ d' => Q (.ok used) d' :=
        Leads.modify_passing hobject rfl (fun _ => rfl) (hQ (.ok used))
      refine Leads.recv hobject rfl (Leads.lift (Leads.bind
        (Leads.modify_app (· ++ [(key, payload)])
          (Leads.get (fun _ _ => rfl) fun n _ _ => ?_))))
      cases answer n.app with
      | ok used => exact Leads.pure (Leads.lift ((hcount used).mono fun _ _ hQ => Leads.ok hQ))
      | error error => exact Leads.pure (Leads.lift ((hcount 0).mono fun _ _ hQ => Leads.ok hQ))
  | _ => cases hkey

section Framer

variable (h : plan ref = some (.framer f₀))

include h

/-! ### On the way down -/

section Child

variable (hlinks : f₀.node.links = some links) {child : Ref} (hchild : links.child = some child)

include hlinks hchild

/-- A body that fits is framed and sent; what the child makes of the frame decides. -/
theorem leads_write {body : Bytes} (hbody : body ≠ []) (hsize : body.length ≤ f₀.bodyLimit)
    {Q : Except LayerError Bytes → Detail σ → Prop}
    (hsend : Leads plan ((calls.layer child).send (f₀.codec.frame body)).run d fun answer d' =>
      ∀ f, d'.read? .framer ref = some f →
        match answer with
        | .ok written =>
          if written = (f₀.codec.frame body).length then
            Q (.ok (f₀.codec.frame body)) (d'.put .framer ref (f.count (.txPacket body.length)))
          else
            Leads plan (calls.layer child).name (d'.put .framer ref (f.count .txDropped))
              fun name d'' => Q (.error (.busy name)) d''
        | .error error => Q (.error error) (d'.put .framer ref (f.count .txDropped))) :
    Leads plan (Framer.write (site calls .framer ref) body).run d Q := by
  refine Leads.lift (Leads.get_bare h rfl fun s hs => ?_)
  simp only [codec_of_bare hs, Codec.encode_of_fits hbody hsize, List.nil_append]
  refine Leads.bind_run (Leads.pure ?_)
  refine Leads.bind_run (Leads.child h rfl (fun _ => rfl) hlinks hchild ?_)
  refine Leads.bind_run (Leads.attempt (hsend.mono fun answer d' hanswer => ?_))
  refine Leads.learn .framer h rfl fun f hf _ => ?_
  have hafter := hanswer f hf
  cases answer with
  | ok written =>
      simp only at hafter ⊢
      split at hafter
      · rename_i hall
        rw [if_pos hall]
        exact Leads.lift (Leads.modify_tracked hf rfl (Leads.ok hafter))
      · rename_i hpart
        rw [if_neg hpart]
        refine Leads.lift (Leads.modify_tracked hf rfl ?_)
        exact Leads.lift (hafter.mono fun _ _ hQ => Leads.throw hQ)
  | error error => exact Leads.lift (Leads.modify_tracked hf rfl (Leads.throw hafter))

omit hchild in
/-- A packet that is sent is checked and written. -/
theorem leads_send {packet : Bytes} {Q : Except LayerError Nat → Detail σ → Prop}
    (hrefused : ∀ error, f₀.checkSize packet.length 0 = .error error → Q (.error error) d)
    (hwrite : f₀.checkSize packet.length 0 = .ok () →
      Leads plan (Framer.write (site calls .framer ref) packet).run d fun answer d' =>
        Q (answer.map fun _ => packet.length) d') :
    Leads plan (Framer.send (site calls .framer ref) packet).run d Q := by
  refine Leads.bind_run (Leads.ensureInitialized h rfl (fun _ => rfl) hlinks ?_)
  refine Leads.lift (Leads.get_bare h rfl fun s hs => ?_)
  have hcheck : s.checkSize packet.length 0 = f₀.checkSize packet.length 0 := by
    rw [← hs]
    rfl
  rw [hcheck]
  cases hsize : f₀.checkSize packet.length 0 with
  | error error => exact Leads.bind_run (Leads.pure (hrefused error hsize))
  | ok =>
      refine Leads.bind_run (Leads.pure ?_)
      refine Leads.bind_run ((hwrite hsize).mono fun answer d' hQ => ?_)
      cases answer with
      | ok wire => exact Leads.ok hQ
      | error error => exact hQ

omit hchild in
/-- A confirmed packet is refused and nothing is kept of it, or it is written in
a frame with the next number and awaited from then on. -/
theorem leads_sendConfirmed {packet : Bytes} (hf : d.read? .framer ref = some f)
    {Q : Except LayerError Nat → Detail σ → Prop} (hrefused : ∀ error, Q (.error error) d)
    (hwrite : packet.length + Frame.controlHeader ≤ f₀.bodyLimit → f.outstanding = none →
      Leads plan (Framer.write (site calls .framer ref) (Frame.dataBody f.nextSeq packet)).run
        (d.put .framer ref { f with nextSeq := f.nextSeq + 1 }) fun answer d' =>
        match answer with
        | .ok wire => ∀ f', d'.read? .framer ref = some f' →
          Q (.ok packet.length) (d'.put .framer ref { f' with
            outstanding := some
              { seq := f.nextSeq, sentAt := d'.clock.now, retries := 0, wire, packet } })
        | .error error => Q (.error error) d') :
    Leads plan (Framer.sendConfirmed (site calls .framer ref) packet).run d Q := by
  refine Leads.known h rfl hf fun hsame => ?_
  have hlimit : f.bodyLimit = f₀.bodyLimit := by
    rw [← hsame]
    rfl
  refine Leads.bind_run (Leads.ensureInitialized h rfl (fun _ => rfl) hlinks ?_)
  refine Leads.lift (Leads.get_tracked hf ?_)
  cases hsize : f.checkSize packet.length Frame.controlHeader with
  | error error => exact Leads.bind_run (Leads.pure (hrefused error))
  | ok =>
      have hfits := (Framer.checkSize_eq_ok hsize).2
      refine Leads.bind_run (Leads.pure ?_)
      cases hidle : f.outstanding with
      | some o => exact Leads.bind_run (Leads.throw (hrefused _))
      | none =>
          refine Leads.lift (Leads.modify_tracked hf rfl ?_)
          refine Leads.bind_run ((hwrite (hlimit ▸ hfits) hidle).mono fun answer d' hQ => ?_)
          cases answer with
          | error error => exact hQ
          | ok wire =>
              refine Leads.learn .framer h rfl fun f' hf' _ => ?_
              exact Leads.lift (Leads.now (Leads.lift (Leads.modify_tracked hf' rfl
                (Leads.ok (hQ f' hf')))))

/-- What fits is what the child can take without what a frame adds. -/
theorem leads_capacity {Q : Nat → Detail σ → Prop}
    (hcapacity : Leads plan (calls.layer child).capacity d fun room d' =>
      Q (min (room - f₀.config.mode.overhead f₀.bodyLimit) f₀.bodyLimit) d') :
    Leads plan (Framer.capacity (site calls .framer ref)) d Q := by
  refine Leads.bind (Leads.child h rfl (fun _ => rfl) hlinks hchild ?_)
  refine Leads.bind (Leads.get_bare h rfl fun s hs => ?_)
  have hlimit : s.config.mode.overhead s.bodyLimit = f₀.config.mode.overhead f₀.bodyLimit ∧
      s.bodyLimit = f₀.bodyLimit := by
    rw [← hs]
    exact ⟨rfl, rfl⟩
  rw [hlimit.1, hlimit.2]
  exact Leads.bind (hcapacity.mono fun _ _ hQ => Leads.pure hQ)

end Child

/-! ### On the way up -/

section Parent

variable (hlinks : f₀.node.links = some links) {parent : Ref} (hparent : links.parent = some parent)
  (halive : (plan parent).isSome)

include hlinks hparent halive

theorem leads_deliver {body : Bytes} (hf : d.read? .framer ref = some f)
    {Q : Unit → Detail σ → Prop}
    (hrecv : Leads plan ((calls.layer parent).recv body).run
      (d.put .framer ref (f.count (.rxPacket body.length))) fun _ d' => Q () d') :
    Leads plan (Framer.deliver (site calls .framer ref) body) d Q := by
  refine Leads.bind (Leads.parent? h rfl (fun _ => rfl) hlinks hparent halive ?_)
  refine Leads.bind (Leads.modify_tracked hf rfl ?_)
  exact Leads.bind (hrecv.mono fun _ _ hQ => Leads.pure hQ)

/-- A packet that is not for the framing layer itself is delivered. -/
theorem leads_take_packet {packet : Packet} (hplain : Tag.fold packet.tag ≠ Tag.frame)
    (hf : d.read? .framer ref = some f) {Q : Unit → Detail σ → Prop}
    (hrecv : Leads plan ((calls.layer parent).recv packet.body).run
      (d.put .framer ref (f.count (.rxPacket packet.body.length))) fun _ d' => Q () d') :
    Leads plan (Framer.take (site calls .framer ref) (.packet packet)) d Q := by
  rw [Framer.take, if_neg hplain]
  exact leads_deliver h hlinks hparent halive hf hrecv

theorem leads_report {report : Delivery} {Q : Unit → Detail σ → Prop}
    (hdelivered : Leads plan ((calls.layer parent).delivered report) d Q) :
    Leads plan (Framer.report (site calls .framer ref) report) d Q :=
  Leads.bind (Leads.parent? h rfl (fun _ => rfl) hlinks hparent halive hdelivered)

end Parent

/-- Bytes outside of frames go to the layer for them. -/
theorem leads_take_stray {other : Ref} (hother : f₀.other = some other) {bytes : Bytes}
    {Q : Unit → Detail σ → Prop}
    (hrecv : Leads plan ((calls.layer other).recv bytes).run d fun _ d' => Q () d') :
    Leads plan (Framer.take (site calls .framer ref) (.stray bytes)) d Q := by
  refine Leads.bind (Leads.get_bare h rfl fun s hs => ?_)
  have hsame : s.other = some other := by
    rw [← hother, ← hs]
    rfl
  rw [hsame]
  exact Leads.bind (hrecv.mono fun _ _ hQ => Leads.pure hQ)

theorem leads_take_stray_none (hother : f₀.other = none) (bytes : Bytes)
    {Q : Unit → Detail σ → Prop} (hQ : Q () d) :
    Leads plan (Framer.take (site calls .framer ref) (.stray bytes)) d Q := by
  refine Leads.bind (Leads.get_bare h rfl fun s hs => ?_)
  have hsame : s.other = none := by
    rw [← hother, ← hs]
    rfl
  rw [hsame]
  exact Leads.pure hQ

omit h in
/-- A retry timer that is not due does nothing. -/
theorem leads_retry_idle (hf : d.read? .framer ref = some f)
    (hidle : f.expireOutstanding d.clock.now = (.nothing, f))
    {Q : Unit → Detail σ → Prop} (hQ : Q () d) :
    Leads plan (Framer.retry (site calls .framer ref)) d Q := by
  refine Leads.bind (Leads.get_tracked hf (Leads.bind (Leads.now ?_)))
  rw [hidle]
  refine Leads.bind (Leads.modify_tracked hf rfl ?_)
  rw [Detail.put_self hf]
  exact Leads.pure hQ

/-! ### Timers and control frames -/

omit h in
/-- Both timers run. -/
theorem leads_service (hf : d.read? .framer ref = some f) {Q : Unit → Detail σ → Prop}
    (hretry : Leads plan (Framer.retry (site calls .framer ref))
      (d.put .framer ref (f.expirePartial d.clock.now)) Q) :
    Leads plan (Framer.service (site calls .framer ref)) d Q :=
  Leads.bind (Leads.now (Leads.bind (Leads.modify_tracked hf (bare_expirePartial f _) hretry)))

/-- Confirmed data is acknowledged, and delivered unless it is a copy. -/
theorem leads_control_data {payload packet : Bytes} {seq : UInt8}
    (hread : Control.read payload = .data seq packet) {Q : Unit → Detail σ → Prop}
    (hwrite : Leads plan (Framer.write (site calls .framer ref) (Frame.ackBody seq)).run d
      fun _ d' => ∀ f, d'.read? .framer ref = some f →
        Q () (d'.put .framer ref
          (({ f with lastSeq := some (seq, d'.clock.now) } : Framer Ref).count .rxRetry)) ∧
        Leads plan (Framer.deliver (site calls .framer ref) packet)
          (d'.put .framer ref { f with lastSeq := some (seq, d'.clock.now) }) Q) :
    Leads plan (Framer.control (site calls .framer ref) payload) d Q := by
  rw [Framer.control, hread]
  refine Leads.bind (hwrite.mono fun _ d' hnext => Leads.bind (Leads.now ?_))
  refine Leads.learn .framer h rfl fun f hf _ => ?_
  obtain ⟨hcopy, hdeliver⟩ := hnext f hf
  refine Leads.bind (Leads.get_tracked hf (Leads.bind (Leads.modify_tracked hf rfl ?_)))
  split
  · refine Leads.modify_tracked (Detail.read?_put_self ..) rfl ?_
    rwa [Detail.put_put]
  · exact hdeliver

section Neighbours

variable (hlinks : f₀.node.links = some links) {child parent : Ref}
  (hchild : links.child = some child) (hparent : links.parent = some parent)
  (halive : (plan parent).isSome)

include hlinks hchild hparent halive

/-- The retry timer: nothing is due, or the frame is sent again, or the packet is
given up. -/
theorem leads_retry (hf : d.read? .framer ref = some f) {Q : Unit → Detail σ → Prop}
    (hearly : (∀ o, f.outstanding = some o →
      d.clock.now.since o.sentAt < f.config.ackTimeout) → Q () d)
    (hagain : ∀ o, f.outstanding = some o → f.config.ackTimeout ≤ d.clock.now.since o.sentAt →
      o.retries < f.config.maxRetries →
      Leads plan ((calls.layer child).send o.wire).run (d.put .framer ref (({ f with
          outstanding := some { o with retries := o.retries + 1, sentAt := d.clock.now } } :
            Framer Ref).count .txRetry)) fun _ d' => Q () d')
    (hgiveUp : ∀ o, f.outstanding = some o → f.config.ackTimeout ≤ d.clock.now.since o.sentAt →
      f.config.maxRetries ≤ o.retries →
      Leads plan ((calls.layer parent).delivered { status := .dropped, packet := o.packet })
        (d.put .framer ref (({ f with outstanding := none } : Framer Ref).count .txDropped)) Q) :
    Leads plan (Framer.retry (site calls .framer ref)) d Q := by
  rcases f.expireOutstanding_cases d.clock.now with
    ⟨hnone, hexpiry⟩ | ⟨o, ho, hdue, hretries, hexpiry⟩ | ⟨o, ho, hdue, hretries, hexpiry⟩
  · exact leads_retry_idle hf hexpiry (hearly hnone)
  all_goals
    refine Leads.bind (Leads.get_tracked hf (Leads.bind (Leads.now ?_)))
    rw [hexpiry]
    refine Leads.bind (Leads.modify_tracked hf rfl ?_)
  · refine Leads.bind (Leads.child h rfl (fun _ => rfl) hlinks hchild ?_)
    exact Leads.bind ((hagain o ho hdue hretries).mono fun _ _ hQ => Leads.pure hQ)
  · exact leads_report h hlinks hparent halive (hgiveUp o ho hdue hretries)

omit hchild in
/-- An acknowledgement settles the packet that is awaited under its number. -/
theorem leads_control_ack {payload : Bytes} {seq : UInt8} (hread : Control.read payload = .ack seq)
    (hf : d.read? .framer ref = some f) {Q : Unit → Detail σ → Prop}
    (hsettled : ∀ o, f.outstanding = some o → o.seq = seq →
      Leads plan ((calls.layer parent).delivered { status := .acked, packet := o.packet })
        (d.put .framer ref { f with outstanding := none }) Q)
    (hother : (∀ o, f.outstanding = some o → o.seq ≠ seq) → Q () d) :
    Leads plan (Framer.control (site calls .framer ref) payload) d Q := by
  rw [Framer.control, hread]
  refine Leads.bind (Leads.get_tracked hf ?_)
  rcases f.acknowledge_cases seq with ⟨o, ho, hseq, hacknowledge⟩ | ⟨hne, hacknowledge⟩ <;>
    rw [hacknowledge] <;> refine Leads.bind (Leads.modify_tracked hf rfl ?_)
  · exact leads_report h hlinks hparent halive (hsettled o ho hseq)
  · rw [Detail.put_self hf]
    exact Leads.pure (hother hne)

end Neighbours

/-! ### The stream -/

section Drain

variable {I : List (Except Frame.Error Item) → Detail σ → Prop}
  {all : List (Except Frame.Error Item)}
  (hitem : ∀ {units : List (Except Frame.Error Item)} {item : Item} {rest : Bytes} {d : Detail σ}
    {f : Framer Ref}, units ++ [.ok item] <+: all → I units d → d.read? .framer ref = some f →
    View.Bared.bare .framer f = f₀ → f₀.codec.decode f.buffer = .item item rest →
    Leads plan (Framer.take (site calls .framer ref) item)
      (d.put .framer ref { f with buffer := rest }) fun _ d' =>
        I (units ++ [.ok item]) d' ∧ ∃ f', d'.read? .framer ref = some f' ∧ f'.buffer = rest)
  (herror : ∀ {units : List (Except Frame.Error Item)} {error : Frame.Error} {rest : Bytes}
    {d : Detail σ} {f : Framer Ref}, units ++ [.error error] <+: all → I units d →
    d.read? .framer ref = some f → View.Bared.bare .framer f = f₀ →
    f₀.codec.decode f.buffer = .refused error rest →
    I (units ++ [.error error])
      (d.put .framer ref (({ f with buffer := rest } : Framer Ref).count .rxError)))

include hitem herror

/-- The loop takes all units of the buffer, one after another. -/
theorem leads_drain {buffer : Bytes} {units : List (Except Frame.Error Item)} {turns : Nat}
    (hI : I units d) (hf : d.read? .framer ref = some f) (hbare : View.Bared.bare .framer f = f₀)
    (hbuffer : f.buffer = buffer) (hall : units ++ (f₀.codec.decodeAll buffer).1 = all)
    (hturns : buffer.length < turns) :
    Leads plan (Framer.drain (site calls .framer ref) turns) d fun _ d' =>
      I all d' ∧ ∃ f', d'.read? .framer ref = some f' ∧
        f'.buffer = (f₀.codec.decodeAll buffer).2 := by
  -- a turn for each unit is enough, as each takes a byte of the buffer at least
  induction buffer using f₀.codec.decode_induction generalizing d f units turns with
  | needsMore buffer hdecode =>
      obtain ⟨turns, rfl⟩ := Nat.exists_eq_succ_of_ne_zero (Nat.ne_zero_of_lt hturns)
      rw [Codec.decodeAll_of_needsMore hdecode, List.append_nil] at hall
      refine Leads.bind (Leads.get_tracked hf ?_)
      rw [codec_of_bare hbare, hbuffer, hdecode]
      refine Leads.pure ⟨hall ▸ hI, f, hf, ?_⟩
      rw [Codec.decodeAll_of_needsMore hdecode, hbuffer]
  | item buffer item rest hdecode ih =>
      obtain ⟨turns, rfl⟩ := Nat.exists_eq_succ_of_ne_zero (Nat.ne_zero_of_lt hturns)
      have hlt := Codec.length_lt_of_item hdecode
      rw [Codec.decodeAll_of_item hdecode] at hall ⊢
      have hmore : units ++ [.ok item] ++ (f₀.codec.decodeAll rest).1 = all := by
        rw [← hall, List.append_assoc]
        rfl
      have htake := hitem ⟨_, hmore⟩ hI hf hbare (hbuffer ▸ hdecode)
      refine Leads.bind (Leads.get_tracked hf ?_)
      rw [codec_of_bare hbare, hbuffer, hdecode]
      refine Leads.bind (Leads.modify_tracked hf rfl (Leads.bind (htake.mono ?_)))
      rintro _ d' ⟨hI', f', hf', hrest⟩
      refine Leads.known h rfl hf' fun hbare' => ?_
      exact ih hI' hf' hbare' hrest hmore (by omega)
  | refused buffer error rest hdecode ih =>
      obtain ⟨turns, rfl⟩ := Nat.exists_eq_succ_of_ne_zero (Nat.ne_zero_of_lt hturns)
      have hlt := Codec.length_lt_of_refused hdecode
      rw [Codec.decodeAll_of_refused hdecode] at hall ⊢
      have hmore : units ++ [.error error] ++ (f₀.codec.decodeAll rest).1 = all := by
        rw [← hall, List.append_assoc]
        rfl
      have hrefused := herror ⟨_, hmore⟩ hI hf hbare (hbuffer ▸ hdecode)
      refine Leads.bind (Leads.get_tracked hf ?_)
      rw [codec_of_bare hbare, hbuffer, hdecode]
      refine Leads.bind (Leads.modify_tracked hf rfl ?_)
      exact ih hrefused (Detail.read?_put_self ..) hbare rfl hmore (by omega)

/-- What is received is put behind what is left, and all units are taken. -/
theorem leads_recv (hlinks : f₀.node.links = some links) {bytes : Bytes}
    (hf : d.read? .framer ref = some f)
    (hI : I [] (d.put .framer ref ((f.expirePartial d.clock.now).receive d.clock.now bytes)))
    (hall : (f₀.codec.decodeAll ((f.expirePartial d.clock.now).buffer ++ bytes)).1 = all)
    {Q : Except LayerError Nat → Detail σ → Prop}
    (hretry : ∀ {d' : Detail σ} {f' : Framer Ref}, I all d' → d'.read? .framer ref = some f' →
      View.Bared.bare .framer f' = f₀ →
      f'.buffer = (f₀.codec.decodeAll ((f.expirePartial d.clock.now).buffer ++ bytes)).2 →
      Leads plan (Framer.retry (site calls .framer ref)) d' fun _ d'' =>
        Q (.ok bytes.length) d'') :
    Leads plan (Framer.recv (site calls .framer ref) bytes).run d Q := by
  refine Leads.bind_run (Leads.ensureInitialized h rfl (fun _ => rfl) hlinks ?_)
  refine Leads.lift (Leads.now (Leads.lift (Leads.modify_tracked hf
    (bare_expirePartial f d.clock.now) (Leads.lift (Leads.get_tracked (Detail.read?_put_self ..)
    (Leads.lift ?_))))))
  have hstart : (d.put .framer ref ((f.expirePartial d.clock.now).receive d.clock.now
      bytes)).read? .framer ref =
        some ((f.expirePartial d.clock.now).receive d.clock.now bytes) :=
    Detail.read?_put_self ..
  refine Leads.known h rfl hstart fun hbare => ?_
  refine (leads_drain h hitem herror hI hstart hbare rfl hall (Nat.lt_succ_self _)).mono ?_
  rintro _ d' ⟨hI', f', hf', hrest⟩
  refine Leads.known h rfl hf' fun hbare' => ?_
  exact Leads.lift ((hretry hI' hf' hbare' hrest).mono fun _ _ hQ => Leads.ok hQ)

end Drain

/-- One whole frame is received; the parent leaves the framing layer at rest. -/
theorem leads_recv_frame (hlinks : f₀.node.links = some links) {parent : Ref}
    (hparent : links.parent = some parent) (halive : (plan parent).isSome)
    (hf : d.read? .framer ref = some f) (hempty : f.buffer = []) {packet : Packet}
    (hplain : packet.tag < Tag.frame) (hsize : packet.body.length ≤ f₀.bodyLimit)
    {Q : Except LayerError Nat → Detail σ → Prop}
    (hrecv : ∀ f', f'.buffer = [] → f'.outstanding = f.outstanding → f'.config = f.config →
      Leads plan ((calls.layer parent).recv packet.body).run (d.put .framer ref f') fun _ d' =>
        (∃ f'', d'.read? .framer ref = some f'' ∧ AtRest d'.clock.now f'') ∧
          Q (.ok (f₀.codec.frame packet.body).length) d') :
    Leads plan (Framer.recv (site calls .framer ref) (f₀.codec.frame packet.body)).run d Q := by
  have hsame : f.expirePartial d.clock.now = f := if_neg fun hpartial => hpartial.1 hempty
  have hread : f₀.codec.decode (f₀.codec.frame packet.body) = .item (.packet packet) [] := by
    have hceiling : f₀.codec.maxSize ≤ f₀.codec.mode.ceiling := Codec.new_maxSize_le ..
    simpa only [List.append_nil] using Codec.decode_frame_append hceiling hsize []
  have hall : (f₀.codec.decodeAll ((f.expirePartial d.clock.now).buffer ++
      f₀.codec.frame packet.body)).1 = [.ok (.packet packet)] := by
    rw [hsame, hempty, List.nil_append, Codec.decodeAll_of_item hread]
    rfl
  let start : Detail σ := d.put .framer ref (f.receive d.clock.now (f₀.codec.frame packet.body))
  let post (d' : Detail σ) : Prop := (∃ f'', d'.read? .framer ref = some f'' ∧
    AtRest d'.clock.now f'') ∧ Q (.ok (f₀.codec.frame packet.body).length) d'
  refine leads_recv (I := fun units d' => units = [] ∧ d' = start ∨ units ≠ [] ∧ post d') h ?_ ?_
    hlinks hf (.inl ⟨rfl, by rw [hsame]⟩) hall ?_
  · rintro units item rest _ g hfront hI hg - hdecode
    obtain ⟨rfl, hitem⟩ : units = [] ∧ item = .packet packet := by
      cases units <;> simp_all
    subst hitem
    obtain ⟨-, rfl⟩ := hI.resolve_right fun hne => hne.1 rfl
    obtain rfl : _ = g := Option.some.inj ((Detail.read?_put_self ..).symm.trans hg)
    obtain rfl : rest = [] := by
      have hbuffer : (f.receive d.clock.now (f₀.codec.frame packet.body)).buffer =
          f₀.codec.frame packet.body := by rw [Framer.receive, hempty, List.nil_append]
      rw [hbuffer, hread] at hdecode
      cases hdecode
      rfl
    refine leads_take_packet h hlinks hparent halive (fold_ne_of_lt hplain)
      (Detail.read?_put_self ..) ?_
    rw [Detail.put_put, Detail.put_put]
    have hcalled := hrecv (({ f.receive d.clock.now (f₀.codec.frame packet.body) with
      buffer := [] } : Framer Ref).count (.rxPacket packet.body.length)) rfl rfl rfl
    refine hcalled.mono fun _ d' hpost => ⟨.inr ⟨List.cons_ne_nil _ _, hpost⟩, ?_⟩
    obtain ⟨⟨f'', hf'', hrest⟩, -⟩ := hpost
    exact ⟨f'', hf'', hrest.buffer⟩
  · rintro units error rest d' g hfront - - - -
    cases units <;> simp at hfront
  · rintro d' g hI hg - -
    obtain ⟨-, ⟨g', hg', hrest⟩, hQ⟩ := hI.resolve_left fun hnil => List.cons_ne_nil _ _ hnil.1
    exact leads_retry_idle hg' (expireOutstanding_early hrest.outstanding) hQ

end Framer

end LinkStack.Network
