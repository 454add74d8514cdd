import LinkStack.Proofs.Network.Carriage
import LinkStack.Proofs.Network.Stack

/-!
The capacity of a stack.

A `Tower` is a stack of layers that ends in links in memory. It branches where a
duplicator stands, and `Stands` says that the objects of a network are linked as
it says. The capacity of the layer on top is a number that can be computed from
the tower, and a promise: a packet of at most that length that is offered to the
layer on top is taken as a whole, and on one of the links it arrives with just
the headers of the layers above that link (`honest`).

Every layer subtracts what it adds, and stops at zero. The one step that is more
than arithmetic is that of a framing layer, which subtracts what it would add to
the longest body: it adds no more to a shorter one (`Mode.overhead_le`). Below a
duplicator the promise holds on the side that has the room; whatever the other
side does with the packet, it does not claim more.
-/

namespace LinkStack

open LinkStack.Addressing (BindTable Dispatch Transport UserLayer)
open LinkStack.Frame (Codec Framer)
open LinkStack.Splice (Duplicator Redirect)
open Network (Asks Carries Contents Yields outline_eq)

/-- A stack of layers on top of links in memory, and what its layers are set
to. A port stands for itself and the transport that it belongs to. -/
inductive Tower where
  | channel (maxPacket : Nat) (outbox : Mailbox)
  | framer (config : Frame.Config) (below : Tower)
  | dispatch (table : BindTable Ref) (below : Tower)
  | user (tag : UInt8) (below : Tower)
  | port (number : UInt8) (below : Tower)
  | duplicator (first second : Tower)
  | redirect (target : Tower)

namespace Tower

/-- The number of calls from the top to the links. -/
def height : Tower → Nat
  | .channel _ _ => 1
  | .framer _ below => below.height + 1
  | .dispatch _ below => below.height + 1
  | .user _ below => below.height + 1
  | .port _ below => below.height + 1
  | .duplicator first second => max first.height second.height + 1
  | .redirect target => target.height + 1

/-- The longest packet that the top has room for. -/
def capacity : Tower → Nat
  | .channel maxPacket _ => maxPacket
  | .framer config below =>
    let limit := (Codec.ofConfig config).maxSize
    min (below.capacity - config.mode.overhead limit) limit
  | .dispatch _ below => below.capacity
  | .user _ below => below.capacity - 1
  | .port _ below => below.capacity - Addressing.portHeader
  | .duplicator first second => max first.capacity second.capacity
  | .redirect target => target.capacity

/-- Every switch has the first byte of what it is offered in its table, as far
as the packet is one that there is room for. -/
def Binds : Tower → Bytes → Prop
  | .channel _ _, _ => True
  | .framer config below, packet => below.Binds ((Codec.ofConfig config).frame packet)
  | .dispatch table below, packet => Network.Binds table packet ∧ below.Binds packet
  | .user tag below, packet => below.Binds (tag :: packet)
  | .port number below, packet => below.Binds (Tag.port :: number :: packet)
  | .duplicator first second, packet =>
    (packet.length ≤ first.capacity → first.Binds packet) ∧
      (packet.length ≤ second.capacity → second.Binds packet)
  | .redirect target, packet => target.Binds packet

/-- What a packet looks like in the inbox at the far end of one of the links:
the layers on the way there have put their headers around it. -/
def Reaches : Tower → Bytes → Mailbox → Bytes → Prop
  | .channel _ outbox, packet => fun mailbox wire => mailbox = outbox ∧ wire = packet
  | .framer config below, packet => below.Reaches ((Codec.ofConfig config).frame packet)
  | .dispatch _ below, packet => below.Reaches packet
  | .user tag below, packet => below.Reaches (tag :: packet)
  | .port number below, packet => below.Reaches (Tag.port :: number :: packet)
  | .duplicator first second, packet => fun mailbox wire =>
    first.Reaches packet mailbox wire ∨ second.Reaches packet mailbox wire
  | .redirect target, packet => target.Reaches packet

/-- The objects of a network with a number of inboxes are linked as the tower
says, with its top at the given reference. -/
inductive Stands (objects : Ref → Option Object) (inboxes : Nat) : Tower → Ref → Prop
  | channel {ref : Ref} {l : Channel.Loopback Ref} {inbox outbox : Mailbox} {maxPacket : Nat}
      (h : objects ref = some (.loopback l inbox outbox)) (hmax : l.maxPacket = maxPacket)
      (hinbox : outbox < inboxes) : Stands objects inboxes (.channel maxPacket outbox) ref
  | framer {ref child : Ref} {f : Framer Ref} {links : Links Ref} {config : Frame.Config}
      {below : Tower} (h : objects ref = some (.framer f)) (hconfig : f.config = config)
      (hlinks : f.node.links = some links) (hchild : links.child = some child)
      (hbelow : Stands objects inboxes below child) :
      Stands objects inboxes (.framer config below) ref
  | dispatch {ref child : Ref} {d : Dispatch Ref} {links : Links Ref} {table : BindTable Ref}
      {below : Tower} (h : objects ref = some (.dispatch d)) (htable : d.table = table)
      (hlinks : d.node.links = some links) (hchild : links.child = some child)
      (hbelow : Stands objects inboxes below child) :
      Stands objects inboxes (.dispatch table below) ref
  | user {ref child : Ref} {u : UserLayer Ref} {links : Links Ref} {tag : UInt8} {below : Tower}
      (h : objects ref = some (.user u)) (htag : u.user = tag) (hlinks : u.node.links = some links)
      (hchild : links.child = some child) (hbelow : Stands objects inboxes below child) :
      Stands objects inboxes (.user tag below) ref
  | port {ref transport child : Ref} {number : UInt8} {t : Transport Ref} {links : Links Ref}
      {below : Tower} (h : objects ref = some (.port transport number))
      (htransport : objects transport = some (.transport t)) (hlinks : t.node.links = some links)
      (hchild : links.child = some child) (hbelow : Stands objects inboxes below child) :
      Stands objects inboxes (.port number below) ref
  | duplicator {ref first second firstBranch secondBranch : Ref} {d : Duplicator Ref}
      {left right : Tower} (h : objects ref = some (.duplicator d firstBranch secondBranch))
      (hchildren : d.children = some (first, second))
      (hfirst : Stands objects inboxes left first) (hsecond : Stands objects inboxes right second) :
      Stands objects inboxes (.duplicator left right) ref
  | redirect {ref target : Ref} {r : Redirect Ref} {below : Tower}
      (h : objects ref = some (.redirect r)) (htarget : r.target = some target)
      (hbelow : Stands objects inboxes below target) :
      Stands objects inboxes (.redirect below) ref

namespace Stands

variable {σ : Type} {plan : Ref → Option Object} {inboxes : Nat} {t : Tower} {ref : Ref}
  {levels : Nat}

theorem outline {n : Network σ} (h : t.Stands n.object? inboxes ref) :
    t.Stands n.outline inboxes ref := by
  induction h with
  | channel h hmax hinbox => exact .channel (outline_eq h) hmax hinbox
  | framer h hconfig hlinks hchild _ ih => exact .framer (outline_eq h) hconfig hlinks hchild ih
  | dispatch h htable hlinks hchild _ ih => exact .dispatch (outline_eq h) htable hlinks hchild ih
  | user h htag hlinks hchild _ ih => exact .user (outline_eq h) htag hlinks hchild ih
  | port h htransport hlinks hchild _ ih =>
    exact .port (outline_eq h) (outline_eq htransport) hlinks hchild ih
  | duplicator h hchildren _ _ ih ih' => exact .duplicator (outline_eq h) hchildren ih ih'
  | redirect h htarget _ ih => exact .redirect (outline_eq h) htarget ih

theorem lt_of_reaches (h : t.Stands plan inboxes ref) {packet wire : Bytes} {mailbox : Mailbox}
    (hreaches : t.Reaches packet mailbox wire) : mailbox < inboxes := by
  induction h generalizing packet with
  | channel _ _ hinbox =>
    obtain ⟨rfl, -⟩ := hreaches
    exact hinbox
  | duplicator _ _ _ _ ih ih' => exact hreaches.elim ih ih'
  | framer _ _ _ _ _ ih | dispatch _ _ _ _ _ ih | user _ _ _ _ _ ih | port _ _ _ _ _ ih
  | redirect _ _ _ ih =>
    rw [Reaches] at hreaches
    exact ih hreaches

/-- Every layer takes a level of calls. -/
theorem exists_levels (h : t.height ≤ levels) : ∃ below, levels = below + 1 := by
  apply Nat.exists_eq_add_one_of_ne_zero
  cases t <;> simp only [height] at h <;> omega

variable (app : App σ)

theorem exists_name (h : t.Stands plan inboxes ref) (hlevels : t.height ≤ levels) :
    ∃ name, Asks plan ((Network.calls app levels).layer ref).name name := by
  obtain ⟨levels, rfl⟩ := exists_levels hlevels
  cases h with
  | channel h => exact ⟨_, Asks.call h rfl (Asks.name h rfl fun _ => rfl)⟩
  | framer h => exact ⟨_, Asks.call h rfl (Asks.name h rfl fun _ => rfl)⟩
  | dispatch h => exact ⟨_, Asks.call h rfl (Asks.name h rfl fun _ => rfl)⟩
  | user h => exact ⟨_, Asks.call h rfl (Asks.name h rfl fun _ => rfl)⟩
  | port h => exact ⟨_, Asks.call h rfl Asks.pure⟩
  | duplicator h => exact ⟨_, Asks.call h rfl (Asks.name h rfl fun _ => rfl)⟩
  | redirect h => exact ⟨_, Asks.call h rfl Asks.pure⟩

theorem asks_capacity (h : t.Stands plan inboxes ref) (hlevels : t.height ≤ levels) :
    Asks plan ((Network.calls app levels).layer ref).capacity t.capacity := by
  induction h generalizing levels with
  | channel h hmax _ =>
    obtain ⟨levels, rfl⟩ := exists_levels hlevels
    refine Asks.call h rfl (Asks.get_bind h rfl fun s hs => ?_)
    rw [capacity, ← hmax, ← hs]
    exact Asks.pure
  | framer h hconfig hlinks hchild _ ih =>
    obtain ⟨levels, rfl⟩ := exists_levels hlevels
    subst hconfig
    have hbelow := ih (Nat.le_of_succ_le_succ hlevels)
    exact Asks.call h rfl (Network.asks_capacity_framer hbelow h hlinks hchild)
  | dispatch h _ hlinks hchild _ ih =>
    obtain ⟨levels, rfl⟩ := exists_levels hlevels
    have hbelow := ih (Nat.le_of_succ_le_succ hlevels)
    exact Asks.call h rfl (Network.asks_capacity_dispatch hbelow h hlinks hchild)
  | user h _ hlinks hchild _ ih =>
    obtain ⟨levels, rfl⟩ := exists_levels hlevels
    have hbelow := ih (Nat.le_of_succ_le_succ hlevels)
    exact Asks.call h rfl (Network.asks_capacity_user hbelow h hlinks hchild)
  | port h htransport hlinks hchild _ ih =>
    obtain ⟨levels, rfl⟩ := exists_levels hlevels
    have hbelow := ih (Nat.le_of_succ_le_succ hlevels)
    exact Asks.call h rfl (Network.asks_capacity_transport hbelow htransport hlinks hchild)
  | duplicator h hchildren _ _ ih ih' =>
    obtain ⟨levels, rfl⟩ := exists_levels hlevels
    have hboth := Nat.max_le.mp (Nat.le_of_succ_le_succ hlevels)
    exact Asks.call h rfl
      (Network.asks_capacity_duplicator (ih hboth.1) (ih' hboth.2) h hchildren)
  | redirect h htarget _ ih =>
    obtain ⟨levels, rfl⟩ := exists_levels hlevels
    have hbelow := ih (Nat.le_of_succ_le_succ hlevels)
    exact Asks.call h rfl (Network.asks_capacity_redirect hbelow h htarget)

/-- If a body leaves room for its frame as a framing layer counts it, there is
room for the frame. -/
theorem length_frame_le {config : Frame.Config} {below : Tower} {body : Bytes} (hbody : body ≠ [])
    (hroom : body.length ≤ (Tower.framer config below).capacity) :
    body.length ≤ (Codec.ofConfig config).maxSize ∧
      ((Codec.ofConfig config).frame body).length ≤ below.capacity := by
  have hpos := List.length_pos_iff.mpr hbody
  simp only [capacity] at hroom
  have hlimit : body.length ≤ (Codec.ofConfig config).maxSize := by omega
  have hoverhead := config.mode.overhead_le hlimit
  refine ⟨hlimit, ?_⟩
  rw [Codec.length_frame _ hbody]
  show body.length + config.mode.overhead body.length ≤ below.capacity
  omega

/-- A packet that there is room for passes to one of the links. -/
theorem carries (h : t.Stands plan inboxes ref) (hlevels : t.height ≤ levels) (packet : Bytes)
    (c : Contents σ) :
    Carries plan (((Network.calls app levels).layer ref).send packet) c packet.length
      (packet ≠ [] ∧ packet.length ≤ t.capacity ∧ t.Binds packet) (t.Reaches packet) := by
  induction h generalizing levels packet c with
  | channel h hmax _ =>
    obtain ⟨levels, rfl⟩ := exists_levels hlevels
    subst hmax
    exact Carries.call h rfl
      ((Network.carries_channel h packet).imp (fun hp => hp.2.1) fun _ _ _ => id)
  | @framer ref child f links config below h hconfig hlinks hchild hbelow ih =>
    obtain ⟨levels, rfl⟩ := exists_levels hlevels
    subst hconfig
    have hheight := Nat.le_of_succ_le_succ hlevels
    obtain ⟨name, hname⟩ := hbelow.exists_name app hheight
    refine Carries.call h rfl ((Network.carries_framer h hlinks hchild hname
      (ih hheight (f.codec.frame packet) c)).imp ?_ fun _ _ _ => id)
    rintro ⟨hne, hroom, hbinds⟩
    obtain ⟨hlimit, hframe⟩ := length_frame_le hne hroom
    exact ⟨hne, hlimit, List.cons_ne_nil _ _, hframe, hbinds⟩
  | dispatch h htable hlinks hchild _ ih =>
    obtain ⟨levels, rfl⟩ := exists_levels hlevels
    subst htable
    have hbelow := ih (Nat.le_of_succ_le_succ hlevels) packet c
    refine Carries.call h rfl ((Network.carries_dispatch h hlinks hchild hbelow).imp ?_
      fun _ _ _ => id)
    rintro ⟨hne, hroom, hbinds, hrest⟩
    exact ⟨hbinds, hne, hroom, hrest⟩
  | @user ref child u links tag below h htag hlinks hchild _ ih =>
    obtain ⟨levels, rfl⟩ := exists_levels hlevels
    subst htag
    have hbelow := ih (Nat.le_of_succ_le_succ hlevels) (u.user :: packet) c
    refine Carries.call h rfl ((Network.carries_user h hlinks hchild hbelow).imp ?_
      fun _ _ _ => id)
    rintro ⟨hne, hroom, hbinds⟩
    refine ⟨List.cons_ne_nil _ _, ?_, hbinds⟩
    have hpos := List.length_pos_iff.mpr hne
    rw [capacity] at hroom
    rw [List.length_cons]
    omega
  | @port ref transport child number t links below h htransport hlinks hchild _ ih =>
    obtain ⟨levels, rfl⟩ := exists_levels hlevels
    have hbelow := ih (Nat.le_of_succ_le_succ hlevels) (Tag.port :: number :: packet) c
    refine Carries.call h rfl ((Network.carries_port htransport hlinks hchild hbelow).imp ?_
      fun _ _ _ => id)
    rintro ⟨hne, hroom, hbinds⟩
    refine ⟨List.cons_ne_nil _ _, ?_, hbinds⟩
    have hpos := List.length_pos_iff.mpr hne
    rw [capacity, Addressing.portHeader] at hroom
    simp only [List.length_cons]
    omega
  | @duplicator ref first second firstBranch secondBranch d left right h hchildren _ _ ih ih' =>
    obtain ⟨levels, rfl⟩ := exists_levels hlevels
    have hboth := Nat.max_le.mp (Nat.le_of_succ_le_succ hlevels)
    refine Carries.call h rfl ((Network.carries_duplicator h hchildren (ih hboth.1 packet)
      (ih' hboth.2 packet)).imp ?_ fun _ mailbox wire harrives => ?_)
    · rintro ⟨hne, hroom, hbinds⟩
      have hside : packet.length ≤ left.capacity ∨ packet.length ≤ right.capacity := by
        rw [capacity] at hroom
        omega
      rcases hside with hroom | hroom
      · exact .inl ⟨hne, hroom, hbinds.1 hroom⟩
      · exact .inr ⟨hne, hroom, hbinds.2 hroom⟩
    · exact harrives.imp And.right And.right
  | @redirect ref target r below h htarget hbelow ih =>
    obtain ⟨levels, rfl⟩ := exists_levels hlevels
    have hheight := Nat.le_of_succ_le_succ hlevels
    have hroom := hbelow.asks_capacity app hheight
    refine Carries.call h rfl ((Network.carries_redirect h htarget hroom fun part =>
      ih hheight part c).imp ?_ fun _ _ _ => id)
    rintro ⟨hne, hroom, hbinds⟩
    exact ⟨hroom, hne, hroom, hbinds⟩

end Stands

/-! ### The promise -/

variable {σ : Type}

/-- The capacity that the layer on top of a tower answers is a promise about
packets that are offered to it. Asking for it, and offering a packet that is
refused for its length, leaves the network as it is. -/
structure Honest (app : App σ) (levels : Nat) (n : Network σ) (t : Tower) (top : Ref) : Prop where
  capacity : ((Network.calls app levels).layer top).capacity n = some (t.capacity, n)
  taken : ∀ packet, packet ≠ [] → packet.length ≤ t.capacity → t.Binds packet →
    ∃ n' mailbox wire writes,
      (((Network.calls app levels).layer top).offer packet).run n =
        some (.ok packet.length, n') ∧
      n'.mailbox mailbox = n.mailbox mailbox ++ writes ∧ wire ∈ writes ∧
      t.Reaches packet mailbox wire
  busy : t.capacity = 0 → ∀ packet, packet ≠ [] →
    ∃ name, ((Network.calls app levels).layer top).name n = some (name, n) ∧
      (((Network.calls app levels).layer top).offer packet).run n = some (.error (.busy name), n)
  tooLarge : 0 < t.capacity → ∀ packet, t.capacity < packet.length →
    (((Network.calls app levels).layer top).offer packet).run n =
      some (.error (.packetTooLarge packet.length t.capacity), n)

/-- The capacity of every tower that stands in a network is honest. -/
theorem Stands.honest {n : Network σ} {t : Tower} {top : Ref} {levels : Nat}
    (h : t.Stands n.object? n.mailboxes.size top) (hlevels : t.height ≤ levels)
    (hholders : ∀ ref slot, n.slot? ref = some slot → 0 < slot.holders) (app : App σ) :
    Honest app levels n t top := by
  have hplan := h.outline
  have hcapacity : Asks n.outline ((Network.calls app levels).layer top).capacity t.capacity :=
    hplan.asks_capacity app hlevels
  refine ⟨hcapacity.run hholders, fun packet hne hroom hbinds => ?_, fun hzero packet hne => ?_,
    fun hpos packet hlong => ?_⟩
  · obtain ⟨answer, writes, hsend, -, hpass⟩ := hplan.carries app hlevels packet n.contents
    obtain ⟨rfl, mailbox, wire, hmem, hreaches⟩ := hpass ⟨hne, hroom, hbinds⟩
    obtain ⟨n', hrun, -, hcontents⟩ :=
      (Network.yields_offer hcapacity hne hroom hsend).run hholders rfl rfl
    refine ⟨n', mailbox, wire, Network.writesTo mailbox writes, hrun, ?_,
      Network.mem_writesTo hmem, hreaches⟩
    have hinbox : mailbox < n.contents.mailboxes.size := h.lt_of_reaches hreaches
    have hmailbox := Contents.mailbox_put hinbox writes
    rw [← hcontents] at hmailbox
    exact hmailbox
  · obtain ⟨name, hname⟩ := hplan.exists_name app hlevels
    exact ⟨name, hname.run hholders,
      (Network.asks_offer_busy hcapacity hne hzero hname).run hholders⟩
  · have hne : packet ≠ [] := List.length_pos_iff.mp (Nat.lt_trans hpos hlong)
    exact (Network.asks_offer_tooLarge hcapacity hne hpos hlong).run hholders

/-! ### A small tower -/

namespace Small

def node (name : String) (child : Option Ref) : Node Ref :=
  { name, links := some { child, parent := none } }

/-- The table of a switch that ports are bound in. -/
def table : BindTable Ref := { bindings := [{ route := .number Tag.port, handler := .layer 7 }] }

/-- A port over short frames that go to a link with room for 32 bytes and,
through a redirect, to one with room for 16. -/
def objects : List Object :=
  [.loopback { node := node "loopback" none, maxPacket := 32 } 0 1,
    .loopback { node := node "loopback" none, maxPacket := 16 } 2 3,
    .redirect { target := some 1, fragment := true },
    .branch { duplicator := 5, side := .first }, .branch { duplicator := 5, side := .second },
    .duplicator { node := node "dup" none, children := some (0, 2) } 3 4,
    .framer { node := node "frame" (some 5), config := .short, lastRx := 0 },
    .transport { node := node "transport" (some 8), ports := { bindings := [] } },
    .dispatch { node := node "dispatch" (some 6), table },
    .port 7 5]

def tower : Tower :=
  .port 5 (.dispatch table (.framer .short (.duplicator (.channel 32 1) (.redirect (.channel 16 3)))))

def network : Network Log where
  slots := (objects.map fun object => some { object, holders := 1 }).toArray
  mailboxes := #[[], [], [], []]
  app := []

theorem stands : tower.Stands network.object? network.mailboxes.size 9 := by
  have hfirst : Stands network.object? 4 (.channel 32 1) 0 := .channel rfl rfl (by decide)
  have hsecond : Stands network.object? 4 (.channel 16 3) 1 := .channel rfl rfl (by decide)
  have hboth : Stands network.object? 4 _ 5 :=
    .duplicator rfl rfl hfirst (.redirect rfl rfl hsecond)
  exact .port rfl rfl rfl rfl (.dispatch rfl rfl rfl rfl (.framer rfl rfl rfl rfl hboth))

theorem holders {ref : Ref} {slot : Slot} (h : network.slot? ref = some slot) :
    0 < slot.holders := by
  rw [Network.slot?, Option.join_eq_some_iff] at h
  obtain ⟨object, -, hobject⟩ := List.mem_map.mp (List.mem_toArray.mp (Array.mem_of_getElem? h))
  rw [← Option.some.inj hobject]
  exact Nat.one_pos

theorem honest_tower : tower.Stands network.object? network.mailboxes.size 9 ∧ tower.height ≤ 6 ∧
    (∀ ref slot, network.slot? ref = some slot → 0 < slot.holders) ∧ tower.capacity = 26 ∧
    tower.Binds [0x68, 0x69] ∧
    Honest (listening fun _ => .ok 0) 6 network tower 9 := by
  have hbinds : tower.Binds [0x68, 0x69] :=
    ⟨⟨_, _, rfl, rfl⟩, fun _ => trivial, fun _ => trivial⟩
  exact ⟨stands, by decide, fun _ _ => holders, rfl, hbinds,
    stands.honest (by decide) (fun _ _ => holders) _⟩

/-- The frame of a packet of twenty bytes goes to the first link; the second
one has no room for the end of it. -/
example :
    ((((Network.calls (listening fun _ => .ok 0) 6).layer 9).offer
        (List.replicate 20 0x68)).run network).map
      (fun p => (p.1.toOption, (p.2.mailbox 1).map List.length, (p.2.mailbox 3).map List.length)) =
    some (some 20, [26], [16]) := by
  decide +kernel

end Small

end Tower

end LinkStack
