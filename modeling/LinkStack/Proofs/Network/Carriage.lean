import LinkStack.Proofs.Network.Layers

/-!
Packets on their way down, through layers that may have no room for them.

A duplicator offers a packet to a branch that has no room for it, and a redirect
may send the front of a packet only, so a call may refuse a packet and still
have sent something. What it can do at all is put writes into inboxes, and it
never claims to have taken more than it was given. `Carries` says this of a call
and adds, under a condition, that the packet passes: all of it is taken, and one
of the writes is as it should be. There is one lemma for each layer, which asks
of the neighbours what the lemmas about their kinds give.

How much room there is, is a question that changes nothing (`Asks`).
-/

namespace LinkStack.Network

open LinkStack.Addressing (Dispatch Transport UserLayer)
open LinkStack.Frame (Framer Codec)
open LinkStack.Splice (Duplicator Redirect)
open Channel (Loopback)

variable {σ α β ε : Type} {plan : Ref → Option Object} {calls : Calls σ} {c : Contents σ}
  {ref : Ref} {links : Links Ref}

/-! ### Questions -/

/-- On every network with the outline `plan` the action answers `x` and changes
nothing. -/
def Asks (plan : Ref → Option Object) (act : Act σ α) (x : α) : Prop :=
  ∀ n : Network σ, n.outline = plan → Does act n x n

namespace Asks

variable {x : α} {y : β}

theorem yields {act : Act σ α} (h : Asks plan act x) : Yields plan act c x c :=
  Yields.of_query fun n hplan _ => h n hplan

/-- The question on a network in which everything has a holder. -/
theorem run {act : Act σ α} {n : Network σ} (h : Asks n.outline act x)
    (hholders : ∀ ref slot, n.slot? ref = some slot → 0 < slot.holders) :
    act n = some (x, n) := by
  have hact := h n rfl (fun ref => ((n.slot? ref).map (·.holders)).getD 1) fun ref => by
    cases hslot : n.slot? ref with
    | none => exact Nat.one_pos
    | some slot => exact hholders ref slot hslot
  rwa [withHolders_self] at hact

theorem pure : Asks plan (pure x : Act σ α) x := fun _ _ => Does.pure

theorem bind {act : Act σ α} {next : α → Act σ β} (h : Asks plan act x)
    (hnext : Asks plan (next x) y) : Asks plan (act >>= next) y :=
  fun n hplan => (h n hplan).bind (hnext n hplan)

theorem bind_ok {act : ExceptT ε (Act σ) α} {next : α → ExceptT ε (Act σ) β} {answer : Except ε β}
    (h : Asks plan act.run (.ok x)) (hnext : Asks plan (next x).run answer) :
    Asks plan (act >>= next).run answer :=
  fun n hplan => (h n hplan).bind_ok (hnext n hplan)

theorem bind_error {act : ExceptT ε (Act σ) α} {next : α → ExceptT ε (Act σ) β} {error : ε}
    (h : Asks plan act.run (.error error)) : Asks plan (act >>= next).run (.error error) :=
  fun n hplan => (h n hplan).bind_error

theorem lift {act : Act σ α} (h : Asks plan act x) :
    Asks plan (liftM act : ExceptT ε (Act σ) α).run (.ok x) :=
  fun n hplan => (h n hplan).lift

section Site

variable {S : Type} {view : View S} [View.Outlined view] {object : Object} {state : S}
  (h : plan ref = some object) (hget : view.get? object = some state)

include h hget

theorem get_bind {next : S → Act σ β}
    (hnext : ∀ s, View.Outlined.outline view s = state → Asks plan (next s) y) :
    Asks plan ((site calls view ref).get >>= next) y := by
  intro n hplan
  obtain ⟨object', s, hobject, hstate, hs, -⟩ := Yields.exists_state hplan rfl h hget
  have hread : n.read? view ref = some s := by
    rw [read?, hobject, Option.bind_some, hstate]
  exact (Does.site_get hread).bind (hnext s hs n hplan)

theorem child {node : S → Node Ref} (hnode : ∀ s, node (View.Outlined.outline view s) = node s)
    (hlinks : (node state).links = some links) {target : Ref}
    (hchild : links.child = some target) :
    Asks plan ((site calls view ref).child node).run (.ok (calls.layer target)) := by
  intro n hplan
  obtain ⟨s, hread, hlinked⟩ := Yields.exists_linked h hget hnode hlinks hplan rfl
  exact Does.child hread hlinked hchild

theorem name {node : S → Node Ref} (hnode : ∀ s, node (View.Outlined.outline view s) = node s) :
    Asks plan ((site calls view ref).get >>= fun s => Pure.pure (node s).name)
      (node state).name := by
  refine get_bind h hget fun s hs => ?_
  rw [← hs, hnode]
  exact pure

end Site

/-- A question to the layer that an object is. -/
theorem call {app : App σ} {levels : Nat} {object : Object} {layer : Layer (Act σ)}
    {question : Layer (Act σ) → Act σ α} (h : plan ref = some object)
    (hlayer : layerOf app (Network.calls app levels) ref object = some layer)
    (hrun : Asks plan (question layer) x) :
    Asks plan (holding ref (findLayer app (Network.calls app levels) ref >>= question)) x := by
  intro n hplan
  have hfound : Does (findLayer app (Network.calls app levels) ref) n layer n := by
    rw [← hplan, outline, Option.map_eq_some_iff] at h
    obtain ⟨object', hobject, rfl⟩ := h
    exact Does.findLayer hobject ((Yields.layerOf_outline ..).symm.trans hlayer)
  refine Does.holding ?_ (hfound.bind (hrun n hplan))
  rw [Yields.isAlive hplan, h]
  rfl

end Asks

/-! ### Writes -/

/-- Writes put into inboxes, in order. -/
def Contents.put (c : Contents σ) (writes : List (Mailbox × Bytes)) : Contents σ :=
  writes.foldl (fun c (mailbox, bytes) => c.updateMailbox mailbox (· ++ [bytes])) c

/-- The writes into one inbox. -/
def writesTo (mailbox : Mailbox) (writes : List (Mailbox × Bytes)) : List Bytes :=
  writes.filterMap fun (other, bytes) => if other = mailbox then some bytes else none

theorem Contents.put_put (c : Contents σ) (writes writes' : List (Mailbox × Bytes)) :
    (c.put writes).put writes' = c.put (writes ++ writes') :=
  List.foldl_append.symm

theorem Contents.mailbox_put {c : Contents σ} {mailbox : Mailbox} (h : mailbox < c.mailboxes.size)
    (writes : List (Mailbox × Bytes)) :
    (c.put writes).mailbox mailbox = c.mailbox mailbox ++ writesTo mailbox writes := by
  induction writes generalizing c with
  | nil => rw [writesTo, List.filterMap_nil, List.append_nil]; rfl
  | cons write writes ih =>
    obtain ⟨other, bytes⟩ := write
    have hsize : mailbox < (c.updateMailbox other (· ++ [bytes])).mailboxes.size := by
      rwa [updateMailbox, Array.size_modify]
    have hrest := ih hsize
    by_cases hother : other = mailbox
    · subst hother
      have hwrites :
          writesTo other ((other, bytes) :: writes) = bytes :: writesTo other writes := by
        simp [writesTo]
      rw [mailbox_updateMailbox_self c h, List.append_assoc] at hrest
      rw [hwrites]
      exact hrest
    · have hwrites : writesTo mailbox ((other, bytes) :: writes) = writesTo mailbox writes := by
        simp [writesTo, hother]
      rw [mailbox_updateMailbox_of_ne c hother] at hrest
      rw [hwrites]
      exact hrest

theorem mem_writesTo {mailbox : Mailbox} {bytes : Bytes} {writes : List (Mailbox × Bytes)}
    (h : (mailbox, bytes) ∈ writes) : bytes ∈ writesTo mailbox writes :=
  List.mem_filterMap.mpr ⟨_, h, if_pos rfl⟩

/-! ### Calls that send -/

/-- A call that is given a packet of a length. It answers with no more than the
length and puts writes into inboxes. If the packet `passes`, all of it is taken
and one of the writes is as `arrives` says. -/
def Carries (plan : Ref → Option Object) (call : ExceptT LayerError (Act σ) Nat) (c : Contents σ)
    (length : Nat) (passes : Prop) (arrives : Mailbox → Bytes → Prop) : Prop :=
  ∃ answer writes, Yields plan call.run c answer (c.put writes) ∧
    (∀ taken, answer = .ok taken → taken ≤ length) ∧
    (passes → answer = .ok length ∧
      ∃ mailbox wire, (mailbox, wire) ∈ writes ∧ arrives mailbox wire)

namespace Carries

variable {length : Nat} {passes : Prop} {arrives : Mailbox → Bytes → Prop}

theorem imp {call : ExceptT LayerError (Act σ) Nat} {passes' : Prop}
    {arrives' : Mailbox → Bytes → Prop} (hpasses : passes' → passes)
    (harrives : passes' → ∀ mailbox wire, arrives mailbox wire → arrives' mailbox wire)
    (h : Carries plan call c length passes arrives) :
    Carries plan call c length passes' arrives' := by
  obtain ⟨answer, writes, hrun, hle, hpass⟩ := h
  refine ⟨answer, writes, hrun, hle, fun hp => ?_⟩
  obtain ⟨hanswer, mailbox, wire, hmem, hwire⟩ := hpass (hpasses hp)
  exact ⟨hanswer, mailbox, wire, hmem, harrives hp mailbox wire hwire⟩

/-- A call that refuses a packet and sends nothing. -/
theorem of_refused {call : ExceptT LayerError (Act σ) Nat} {error : LayerError}
    (h : Yields plan call.run c (.error error) c) (hpasses : ¬passes) :
    Carries plan call c length passes arrives :=
  ⟨.error error, [], h, by simp, fun hp => absurd hp hpasses⟩

/-- A call that begins with an action which changes nothing. -/
theorem of_bind {act : ExceptT LayerError (Act σ) α} {x : α}
    {next : α → ExceptT LayerError (Act σ) Nat} (h : Yields plan act.run c (.ok x) c)
    (hcall : Carries plan (next x) c length passes arrives) :
    Carries plan (act >>= next) c length passes arrives := by
  obtain ⟨answer, writes, hrun, hrest⟩ := hcall
  exact ⟨answer, writes, Yields.bind_ok h hrun, hrest⟩

/-- A call that begins with a look at a state and needs only its outline. -/
theorem of_get {S : Type} {view : View S} [View.Outlined view] {object : Object} {state : S}
    {next : S → ExceptT LayerError (Act σ) Nat} (h : plan ref = some object)
    (hget : view.get? object = some state)
    (hnext : ∀ s, View.Outlined.outline view s = state → next s = next state)
    (hcall : Carries plan (next state) c length passes arrives) :
    Carries plan (liftM (site calls view ref).get >>= next) c length passes arrives := by
  obtain ⟨answer, writes, hrun, hrest⟩ := hcall
  refine ⟨answer, writes, Yields.lift_bind (Yields.get_bind h hget fun s hs _ => ?_), hrest⟩
  rwa [hnext s hs]

/-- A call whose answer is made into another one by an action that sends
nothing. -/
theorem answered {call : ExceptT LayerError (Act σ) Nat}
    {next : Except LayerError Nat → ExceptT LayerError (Act σ) Nat} {length' : Nat}
    (h : Carries plan call c length passes arrives)
    (hnext : ∀ answer c, ∃ answer', Yields plan (next answer).run c answer' c ∧
      ((∀ taken, answer = .ok taken → taken ≤ length) →
        ∀ taken, answer' = .ok taken → taken ≤ length') ∧
      (passes → answer = .ok length → answer' = .ok length')) :
    Carries plan (attempt call >>= next) c length' passes arrives := by
  obtain ⟨answer, writes, hrun, hle, hpass⟩ := h
  obtain ⟨answer', hrun', hle', hall⟩ := hnext answer (c.put writes)
  refine ⟨answer', writes, Yields.bind_ok (Yields.attempt hrun) hrun', hle' hle, fun hp => ?_⟩
  obtain ⟨hanswer, hwrite⟩ := hpass hp
  exact ⟨hall hp hanswer, hwrite⟩

theorem call {app : App σ} {levels : Nat} {object : Object} {layer : Layer (Act σ)} {bytes : Bytes}
    (h : plan ref = some object)
    (hlayer : layerOf app (Network.calls app levels) ref object = some layer)
    (hsend : Carries plan (layer.send bytes) c length passes arrives) :
    Carries plan (((Network.calls app (levels + 1)).layer ref).send bytes) c length passes
      arrives := by
  obtain ⟨answer, writes, hrun, hrest⟩ := hsend
  exact ⟨answer, writes, Yields.send h hlayer hrun, hrest⟩

end Carries

/-! ### Room -/

section Room

variable {child : Ref} {room : Nat} (hroom : Asks plan (calls.layer child).capacity room)

include hroom

theorem asks_capacity_framer {f : Framer Ref} (h : plan ref = some (.framer f))
    (hlinks : f.node.links = some links) (hchild : links.child = some child) :
    Asks plan (Framer.capacity (site calls .framer ref))
      (min (room - f.config.mode.overhead f.bodyLimit) f.bodyLimit) := by
  refine Asks.bind (Asks.child h rfl (fun _ => rfl) hlinks hchild) ?_
  refine Asks.get_bind h rfl fun s hs => Asks.bind hroom ?_
  rw [← hs]
  exact Asks.pure

theorem asks_capacity_dispatch {d : Dispatch Ref} (h : plan ref = some (.dispatch d))
    (hlinks : d.node.links = some links) (hchild : links.child = some child) :
    Asks plan (Dispatch.capacity (site calls .dispatch ref)) room :=
  Asks.bind (Asks.child h rfl (fun _ => rfl) hlinks hchild) hroom

theorem asks_capacity_transport {t : Transport Ref} (h : plan ref = some (.transport t))
    (hlinks : t.node.links = some links) (hchild : links.child = some child) :
    Asks plan (Transport.capacity (site calls .transport ref)) (room - Addressing.portHeader) :=
  Asks.bind (Asks.child h rfl (fun _ => rfl) hlinks hchild) (Asks.bind hroom Asks.pure)

theorem asks_capacity_user {u : UserLayer Ref} (h : plan ref = some (.user u))
    (hlinks : u.node.links = some links) (hchild : links.child = some child) :
    Asks plan (UserLayer.capacity (site calls .user ref)) (room - 1) :=
  Asks.bind (Asks.child h rfl (fun _ => rfl) hlinks hchild) (Asks.bind hroom Asks.pure)

theorem asks_capacity_redirect {r : Redirect Ref} (h : plan ref = some (.redirect r))
    (htarget : r.target = some child) :
    Asks plan (Redirect.capacity (site calls .redirect ref)) room := by
  refine Asks.get_bind h rfl fun s hs => ?_
  have hsame : s.target = some child := by
    rw [← htarget, ← hs]
    rfl
  rw [hsame]
  exact hroom

theorem asks_capacity_duplicator {d : Duplicator Ref} {second firstBranch secondBranch : Ref}
    {room' : Nat} (hroom' : Asks plan (calls.layer second).capacity room')
    (h : plan ref = some (.duplicator d firstBranch secondBranch))
    (hchildren : d.children = some (child, second)) :
    Asks plan (Duplicator.capacity (site calls .duplicator ref)) (max room room') := by
  refine Asks.get_bind h rfl fun s hs => ?_
  have hlinked : s.linked = .ok (child, second) := by
    have hsame : s.children = d.children := by rw [← hs]; rfl
    rw [Duplicator.linked, hsame, hchildren]
  rw [hlinked]
  exact Asks.bind hroom (Asks.bind hroom' Asks.pure)

end Room

/-! ### Packets that are offered -/

section Offer

variable {layer : Layer (Act σ)} {room : Nat} (hroom : Asks plan layer.capacity room)
  {packet : Bytes} (hne : packet ≠ [])

include hroom hne

theorem yields_offer (hfits : packet.length ≤ room) {answer : Except LayerError Nat}
    {c' : Contents σ} (hsend : Yields plan (layer.send packet).run c answer c') :
    Yields plan (layer.offer packet).run c answer c' := by
  have hzero : room ≠ 0 := by
    have hpos := List.length_pos_iff.mpr hne
    omega
  rw [Layer.offer, if_neg (List.isEmpty_iff.not.mpr hne)]
  refine Yields.bind_ok (Yields.lift hroom.yields) ?_
  rw [if_neg hzero, if_neg (Nat.not_lt.mpr hfits)]
  exact hsend

theorem asks_offer_busy (hzero : room = 0) {name : String} (hname : Asks plan layer.name name) :
    Asks plan (layer.offer packet).run (.error (.busy name)) := by
  rw [Layer.offer, if_neg (List.isEmpty_iff.not.mpr hne)]
  refine Asks.bind_ok (Asks.lift hroom) ?_
  rw [if_pos hzero]
  exact Asks.bind_ok (Asks.lift hname) (Asks.bind_error Asks.pure)

theorem asks_offer_tooLarge (hpos : 0 < room) (hlong : room < packet.length) :
    Asks plan (layer.offer packet).run (.error (.packetTooLarge packet.length room)) := by
  rw [Layer.offer, if_neg (List.isEmpty_iff.not.mpr hne)]
  refine Asks.bind_ok (Asks.lift hroom) ?_
  rw [if_neg (Nat.pos_iff_ne_zero.mp hpos), if_pos hlong]
  exact Asks.bind_error Asks.pure

end Offer

/-! ### The layers -/

theorem carries_channel {l : Loopback Ref} {inbox outbox : Mailbox}
    (h : plan ref = some (.loopback l inbox outbox)) (bytes : Bytes) :
    Carries plan (Loopback.write (site calls .loopback ref) (wire inbox outbox) bytes) c
      bytes.length (bytes.length ≤ l.maxPacket)
      (fun mailbox wire => mailbox = outbox ∧ wire = bytes) := by
  have hcount {event : Traffic} {d : Contents σ} :
      Yields plan ((site calls .loopback ref).modify (·.count event)) d PUnit.unit d :=
    Yields.modify_same h rfl fun _ hs hcondition => ⟨hs, hcondition⟩
  refine Carries.of_get h rfl (fun s hs => by rw [← hs]; rfl) ?_
  by_cases hsize : l.maxPacket < bytes.length
  · simp only [if_pos hsize]
    exact Carries.of_refused (Yields.bind_ok (Yields.lift hcount) (Yields.bind_error Yields.throw))
      (Nat.not_le.mpr hsize)
  · simp only [if_neg hsize]
    refine ⟨.ok bytes.length, [(outbox, bytes)], ?_, ?_,
      fun _ => ⟨rfl, outbox, bytes, ?_, rfl, rfl⟩⟩
    · refine Yields.bind_ok (Yields.lift (Yields.push bytes)) ?_
      exact Yields.bind_ok (Yields.lift hcount) Yields.ok
    · rintro taken ⟨⟩
      exact Nat.le_refl _
    · exact List.mem_singleton_self _

section Framer

variable {f : Framer Ref} (h : plan ref = some (.framer f)) (hlinks : f.node.links = some links)
  {child : Ref} (hchild : links.child = some child) {body : Bytes}

include h hlinks hchild

/-- A frame that the child takes in part is given up. -/
theorem yields_write_short {name : String} (hname : Asks plan (calls.layer child).name name)
    (hbody : body ≠ []) (hsize : body.length ≤ f.bodyLimit) {taken : Nat} {c' : Contents σ}
    (hshort : taken ≠ (f.codec.frame body).length)
    (hsend : Yields plan ((calls.layer child).send (f.codec.frame body)).run c (.ok taken) c') :
    Yields plan (Framer.write (site calls .framer ref) body).run c (.error (.busy name)) c' := by
  have hcount : Yields plan ((site calls .framer ref).modify (·.count .txDropped)) c' PUnit.unit
      c' :=
    Yields.modify_same h rfl fun _ hs hcondition => ⟨hs, hcondition⟩
  refine Yields.lift_bind (Yields.get_bind h rfl fun s hs _ => ?_)
  have hcodec : s.codec = f.codec := by rw [← hs]; rfl
  simp only [hcodec, Codec.encode_of_fits hbody hsize, List.nil_append]
  refine Yields.bind_ok Yields.pure ?_
  refine Yields.bind_ok (Yields.child h rfl (fun _ => rfl) hlinks hchild) ?_
  refine Yields.bind_ok (Yields.attempt hsend) ?_
  simp only [if_neg hshort]
  refine Yields.bind_ok (Yields.lift hcount) ?_
  exact Yields.bind_ok (Yields.lift hname.yields) Yields.throw

/-- A body goes to the child in its frame. -/
theorem carries_framer {name : String} (hname : Asks plan (calls.layer child).name name)
    {passes : Prop} {arrives : Mailbox → Bytes → Prop}
    (hsend : Carries plan ((calls.layer child).send (f.codec.frame body)) c
      (f.codec.frame body).length passes arrives) :
    Carries plan (Framer.send (site calls .framer ref) body) c body.length
      (body ≠ [] ∧ body.length ≤ f.bodyLimit ∧ passes) arrives := by
  refine Carries.of_bind (Yields.ensureInitialized h rfl (fun _ => rfl) hlinks) ?_
  refine Carries.of_get h rfl (fun s hs => by rw [← hs]; rfl) ?_
  by_cases hbody : body = []
  · subst hbody
    exact Carries.of_refused (Yields.bind_error Yields.pure) fun hp => hp.1 rfl
  have hlength : body.length ≠ 0 := fun hzero => hbody (List.length_eq_zero_iff.mp hzero)
  rw [Framer.checkSize, if_neg hlength, Nat.sub_zero]
  by_cases hsize : f.bodyLimit < body.length
  · rw [if_pos hsize]
    refine Carries.of_refused (Yields.bind_error Yields.pure) fun hp => ?_
    exact Nat.not_le.mpr hsize hp.2.1
  rw [if_neg hsize]
  have hfits : body.length ≤ f.bodyLimit := Nat.le_of_not_lt hsize
  refine Carries.of_bind Yields.pure ?_
  obtain ⟨answer, writes, hsent, -, hpass⟩ := hsend
  have hwritten (hfull : answer = .ok (f.codec.frame body).length) :
      Yields plan (Framer.write (site calls .framer ref) body).run c (.ok (f.codec.frame body))
        (c.put writes) := by
    rw [hfull] at hsent
    exact yields_write h hlinks hchild hbody hfits (.ok ()) hsent
  by_cases hfull : answer = .ok (f.codec.frame body).length
  · refine ⟨.ok body.length, writes, Yields.bind_ok (hwritten hfull) Yields.ok, ?_, fun hp => ?_⟩
    · rintro taken ⟨⟩
      exact Nat.le_refl _
    · exact ⟨rfl, (hpass hp.2.2).2⟩
  have hgivenUp : ∃ error, Yields plan (Framer.write (site calls .framer ref) body).run c
      (.error error) (c.put writes) := by
    cases answer with
    | ok taken =>
      have hshort : taken ≠ (f.codec.frame body).length := fun htaken => hfull (htaken ▸ rfl)
      exact ⟨_, yields_write_short h hlinks hchild hname hbody hfits hshort hsent⟩
    | error error => exact ⟨error, yields_write h hlinks hchild hbody hfits (.error error) hsent⟩
  obtain ⟨error, hrun⟩ := hgivenUp
  refine ⟨.error error, writes, Yields.bind_error hrun, by simp, ?_⟩
  exact fun hp => absurd (hpass hp.2.2).1 hfull

end Framer

/-- Whether a switch lets a packet pass on its way down. -/
def Binds (table : Addressing.BindTable Ref) (packet : Bytes) : Prop :=
  ∃ tag rest, packet = tag :: rest ∧ table.contains (Tag.fold tag)

section Dispatch

variable {d : Dispatch Ref} (h : plan ref = some (.dispatch d))
  (hlinks : d.node.links = some links) {packet : Bytes}

include h hlinks

theorem yields_outbound_unbound (hbinds : ¬Binds d.table packet) :
    ∃ error, Yields plan (Dispatch.outbound (site calls .dispatch ref) packet).run c
      (.error error) c := by
  have hinit : Yields plan ((site calls .dispatch ref).ensureInitialized Dispatch.node).run c
      (.ok ()) c := Yields.ensureInitialized h rfl (fun _ => rfl) hlinks
  have hcount : Yields plan ((site calls .dispatch ref).modify (·.count .txDropped)) c PUnit.unit
      c := Yields.modify_same h rfl fun _ hs hcondition => ⟨hs, hcondition⟩
  cases packet with
  | nil => exact ⟨.emptyPacket, Yields.bind_ok hinit Yields.throw⟩
  | cons tag rest =>
    have hbound : ¬d.table.contains (Tag.fold tag) := fun hbound =>
      hbinds ⟨tag, rest, rfl, hbound⟩
    refine ⟨.unbound tag, Yields.bind_ok hinit (Yields.lift_bind (Yields.get_bind h rfl ?_))⟩
    intro s hs _
    have htable : s.table = d.table := by rw [← hs]; rfl
    simp only [htable, if_neg hbound]
    exact Yields.bind_ok (Yields.lift hcount) Yields.throw

theorem carries_dispatch {child : Ref} (hchild : links.child = some child) {passes : Prop}
    {arrives : Mailbox → Bytes → Prop}
    (hsend : Carries plan ((calls.layer child).send packet) c packet.length passes arrives) :
    Carries plan (Dispatch.send (site calls .dispatch ref) packet) c packet.length
      (Binds d.table packet ∧ passes) arrives := by
  by_cases hbinds : Binds d.table packet
  case neg =>
    obtain ⟨error, hrefused⟩ := yields_outbound_unbound h hlinks hbinds
    exact Carries.of_refused (Yields.bind_error hrefused) fun hp => hbinds hp.1
  obtain ⟨tag, rest, rfl, hbound⟩ := hbinds
  have hcount {event : Traffic} {e : Contents σ} :
      Yields plan ((site calls .dispatch ref).modify (·.count event)) e PUnit.unit e :=
    Yields.modify_same h rfl fun _ hs hcondition => ⟨hs, hcondition⟩
  refine Carries.of_bind (yields_outbound h hlinks hchild rest hbound) ?_
  refine Carries.imp And.right (fun _ _ _ => id) (hsend.answered fun answer e => ?_)
  refine ⟨answer, ?_, id, fun _ => id⟩
  cases answer with
  | ok taken =>
    by_cases hpos : 0 < taken
    · simp only [if_pos hpos]
      exact Yields.bind_ok (Yields.lift hcount) Yields.ok
    · simp only [if_neg hpos]
      exact Yields.bind_ok Yields.ok Yields.ok
  | error error => exact Yields.bind_ok (Yields.lift hcount) Yields.throw

end Dispatch

theorem carries_behind {count : Traffic → Act σ Unit}
    {send : Bytes → ExceptT LayerError (Act σ) Nat} {header payload : Bytes} {passes : Prop}
    {arrives : Mailbox → Bytes → Prop}
    (hcount : ∀ (event : Traffic) (e : Contents σ),
      event = .txPacket payload.length ∨ event = .txDropped → Yields plan (count event) e () e)
    (hsend : Carries plan (send (header ++ payload)) c (header ++ payload).length passes arrives) :
    Carries plan (Addressing.sendBehind count send header payload) c payload.length passes
      arrives := by
  refine hsend.answered fun answer e => ?_
  cases answer with
  | ok taken =>
    by_cases hall : (header ++ payload).length ≤ taken
    · refine ⟨.ok payload.length, ?_, ?_, fun _ _ => rfl⟩
      · simp only [if_pos hall]
        exact Yields.bind_ok (Yields.lift (hcount _ _ (.inl rfl))) Yields.ok
      · rintro - _ ⟨⟩
        exact Nat.le_refl _
    · refine ⟨.ok 0, ?_, ?_, ?_⟩
      · simp only [if_neg hall]
        exact Yields.bind_ok (Yields.lift (hcount _ _ (.inr rfl))) Yields.ok
      · rintro - _ ⟨⟩
        exact Nat.zero_le _
      · rintro - ⟨⟩
        exact absurd (Nat.le_refl _) hall
  | error error =>
    refine ⟨.error error, ?_, by simp, by simp⟩
    exact Yields.bind_ok (Yields.lift (hcount _ _ (.inr rfl))) Yields.throw

theorem carries_port {t : Transport Ref} (h : plan ref = some (.transport t))
    (hlinks : t.node.links = some links) {child : Ref} (hchild : links.child = some child)
    {port : UInt8} {payload : Bytes} {passes : Prop} {arrives : Mailbox → Bytes → Prop}
    (hsend : Carries plan ((calls.layer child).send (Tag.port :: port :: payload)) c
      (Tag.port :: port :: payload).length passes arrives) :
    Carries plan ((Transport.portLayer (site calls .transport ref) port).send payload) c
      payload.length passes arrives := by
  refine Carries.of_bind (Yields.child h rfl (fun _ => rfl) hlinks hchild) ?_
  refine carries_behind ?_ hsend
  intro event e hevent
  refine Yields.modify_same h rfl fun s hs hcondition => ?_
  rcases hevent with rfl | rfl <;> exact ⟨hs, hcondition⟩

theorem carries_user {u : UserLayer Ref} (h : plan ref = some (.user u))
    (hlinks : u.node.links = some links) {child : Ref} (hchild : links.child = some child)
    {payload : Bytes} {passes : Prop} {arrives : Mailbox → Bytes → Prop}
    (hsend : Carries plan ((calls.layer child).send (u.user :: payload)) c
      (u.user :: payload).length passes arrives) :
    Carries plan (UserLayer.send (site calls .user ref) payload) c payload.length passes
      arrives := by
  refine Carries.of_bind (Yields.child h rfl (fun _ => rfl) hlinks hchild) ?_
  refine Carries.of_get h rfl (fun s hs => by rw [← hs]; rfl) (carries_behind ?_ hsend)
  intro event e hevent
  refine Yields.modify_same h rfl fun s hs hcondition => ?_
  rcases hevent with rfl | rfl <;> exact ⟨hs, hcondition⟩

section Duplicator

variable {length : Nat} {a b : Except LayerError Nat}
  (ha : ∀ taken, a = .ok taken → taken ≤ length) (hb : ∀ taken, b = .ok taken → taken ≤ length)

include ha hb

theorem combine_le : ∀ taken, Duplicator.combine a b = .ok taken → taken ≤ length := by
  intro taken h
  cases a with
  | ok m =>
    cases b with
    | ok n =>
      obtain rfl : max m n = taken := Except.ok.inj h
      exact Nat.max_le.mpr ⟨ha m rfl, hb n rfl⟩
    | error error => exact ha taken h
  | error error =>
    cases b with
    | ok n => exact hb taken h
    | error error' => exact absurd h (by simp [Duplicator.combine])

/-- If one side takes all of a packet, then so does the duplicator. -/
theorem combine_eq_ok (h : a = .ok length ∨ b = .ok length) :
    Duplicator.combine a b = .ok length := by
  rcases h with rfl | rfl
  · cases b with
    | ok n => exact congrArg Except.ok (Nat.max_eq_left (hb n rfl))
    | error error => rfl
  · cases a with
    | ok m => exact congrArg Except.ok (Nat.max_eq_right (ha m rfl))
    | error error => rfl

end Duplicator

section Duplicator

variable {d : Duplicator Ref} {first second firstBranch secondBranch : Ref}
  (h : plan ref = some (.duplicator d firstBranch secondBranch))
  (hchildren : d.children = some (first, second))

include h hchildren

theorem yields_sendBoth {packet : Bytes} {a b : Except LayerError Nat} {e e' : Contents σ}
    (hsend : Yields plan ((calls.layer first).send packet).run c a e)
    (hsend' : Yields plan ((calls.layer second).send packet).run e b e') :
    Yields plan (Duplicator.sendBoth (site calls .duplicator ref) packet (·.send packet)).run c
      (Duplicator.combine a b) e' := by
  have hmodify {change : Duplicator Ref → Duplicator Ref}
      (hchange : ∀ s : Duplicator Ref, View.Outlined.outline View.duplicator (change s) =
        View.Outlined.outline View.duplicator s) :
      Yields plan ((site calls .duplicator ref).modify change) e' PUnit.unit e' :=
    Yields.modify_same h rfl fun s hs hcondition => ⟨(hchange s).trans hs, hcondition⟩
  have hrefusal (answer : Except LayerError Nat) :
      Yields plan (Duplicator.countRefusal (site calls .duplicator ref) answer) e' () e' := by
    cases answer with
    | ok taken => exact Yields.pure
    | error error => exact hmodify fun _ => rfl
  refine Yields.lift_bind (Yields.get_bind h rfl fun s hs _ => ?_)
  have hlinked : s.linked = .ok (first, second) := by
    have hsame : s.children = d.children := by rw [← hs]; rfl
    rw [Duplicator.linked, hsame, hchildren]
  rw [hlinked]
  refine Yields.bind_ok (x := (first, second)) Yields.pure ?_
  refine Yields.bind_ok (Yields.attempt hsend) (Yields.bind_ok (Yields.attempt hsend') ?_)
  refine Yields.bind_ok (Yields.lift (hrefusal a)) (Yields.bind_ok (Yields.lift (hrefusal b)) ?_)
  have hcounted : Yields plan ((if (Duplicator.combine a b).toOption.isSome then do
      liftM ((site calls .duplicator ref).modify (·.count (.txPacket packet.length)))
      ExceptT.mk (pure (Duplicator.combine a b))
    else ExceptT.mk (pure (Duplicator.combine a b)) : ExceptT LayerError (Act σ) Nat)).run
      e' (Duplicator.combine a b) e' := by
    split
    · exact Yields.bind_ok (Yields.lift (hmodify fun _ => rfl)) Yields.pure
    · exact Yields.pure
  by_cases hagree : a.toOption ≠ b.toOption
  · simp only [if_pos hagree]
    exact Yields.bind_ok (Yields.lift (hmodify fun _ => rfl)) hcounted
  · simp only [if_neg hagree]
    exact hcounted

/-- A packet is offered to both sides, and passes if it passes on one of
them. -/
theorem carries_duplicator {packet : Bytes} {passes passes' : Prop}
    {arrives arrives' : Mailbox → Bytes → Prop}
    (hfirst : ∀ c, Carries plan ((calls.layer first).send packet) c packet.length passes arrives)
    (hsecond : ∀ c, Carries plan ((calls.layer second).send packet) c packet.length passes'
      arrives') :
    Carries plan (Duplicator.sendBoth (site calls .duplicator ref) packet (·.send packet)) c
      packet.length (passes ∨ passes')
      (fun mailbox wire => passes ∧ arrives mailbox wire ∨ passes' ∧ arrives' mailbox wire) := by
  obtain ⟨a, writes, hsend, ha, hpass⟩ := hfirst c
  obtain ⟨b, writes', hsend', hb, hpass'⟩ := hsecond (c.put writes)
  rw [Contents.put_put] at hsend'
  refine ⟨Duplicator.combine a b, writes ++ writes', yields_sendBoth h hchildren hsend hsend',
    combine_le ha hb, ?_⟩
  rintro (hp | hp)
  · obtain ⟨hall, mailbox, wire, hmem, hwire⟩ := hpass hp
    exact ⟨combine_eq_ok ha hb (.inl hall), mailbox, wire, List.mem_append_left _ hmem,
      .inl ⟨hp, hwire⟩⟩
  · obtain ⟨hall, mailbox, wire, hmem, hwire⟩ := hpass' hp
    exact ⟨combine_eq_ok ha hb (.inr hall), mailbox, wire, List.mem_append_right _ hmem,
      .inr ⟨hp, hwire⟩⟩

end Duplicator

/-- What a redirect sends is the packet or, if there is no room for it, the
front of it. -/
theorem cut_cases {r : Redirect Ref} {packet part : Bytes} {room : Nat}
    (h : r.cut packet room = some part) :
    part.length ≤ packet.length ∧ (packet.length ≤ room → part = packet) := by
  unfold Redirect.cut at h
  split at h
  · obtain rfl := Option.some.inj h
    exact ⟨Nat.le_refl _, fun _ => rfl⟩
  · rename_i hlong
    split at h
    · obtain rfl := Option.some.inj h
      exact ⟨List.length_take_le' .., fun hle => absurd hle hlong⟩
    · cases h

theorem carries_redirect {r : Redirect Ref} (h : plan ref = some (.redirect r)) {target : Ref}
    (htarget : r.target = some target) {room : Nat}
    (hroom : Asks plan (calls.layer target).capacity room) {packet : Bytes}
    {passes : Bytes → Prop} {arrives : Bytes → Mailbox → Bytes → Prop}
    (hsend : ∀ part, Carries plan ((calls.layer target).send part) c part.length (passes part)
      (arrives part)) :
    Carries plan (Redirect.forward (site calls .redirect ref) packet) c packet.length
      (packet.length ≤ room ∧ passes packet) (arrives packet) := by
  have hcount {event : Traffic} {e : Contents σ} :
      Yields plan ((site calls .redirect ref).modify (·.count event)) e PUnit.unit e :=
    Yields.modify_same h rfl fun _ hs hcondition => ⟨hs, hcondition⟩
  refine Carries.of_get h rfl (fun s hs => by rw [← hs]; rfl) ?_
  rw [htarget]
  refine Carries.of_bind (Yields.lift hcount) (Carries.of_bind (Yields.lift hroom.yields) ?_)
  refine Carries.of_get h rfl (fun s hs => by rw [← hs]; rfl) ?_
  cases hcut : r.cut packet room with
  | none =>
    have hlong : ¬packet.length ≤ room := by
      intro hle
      rw [Redirect.cut, if_pos hle] at hcut
      cases hcut
    refine ⟨.ok 0, [], ?_, ?_, fun hp => absurd hp.1 hlong⟩
    · refine Yields.bind_ok (Yields.lift hcount) ?_
      exact Yields.bind_ok (Yields.lift hcount) Yields.ok
    · rintro _ ⟨⟩
      exact Nat.zero_le _
  | some part =>
    obtain ⟨hle, hwhole⟩ := cut_cases hcut
    have hpart : Carries plan ((calls.layer target).send part) c part.length
        (packet.length ≤ room ∧ passes packet) (arrives packet) := by
      refine (hsend part).imp (fun hp => ?_) fun hp mailbox wire => ?_
      · rw [hwhole hp.1]
        exact hp.2
      · rw [hwhole hp.1]
        exact id
    refine hpart.answered fun answer e => ?_
    cases answer with
    | ok taken =>
      refine ⟨.ok taken, Yields.bind_ok (Yields.lift hcount) Yields.ok, ?_, ?_⟩
      · exact fun htaken _ h => Nat.le_trans (htaken _ h) hle
      · intro hp hall
        rw [hall, hwhole hp.1]
    | error error =>
      refine ⟨.ok 0, Yields.bind_ok (Yields.lift hcount) Yields.ok, ?_, by simp⟩
      rintro - _ ⟨⟩
      exact Nat.zero_le _

end LinkStack.Network
