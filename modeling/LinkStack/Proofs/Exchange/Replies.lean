import Mathlib.Data.List.Nodup
import Mathlib.Data.List.Perm.Subperm
import LinkStack.Proofs.Exchange.Ample
import LinkStack.Proofs.Exchange.Queries

/-!
A request and its reply.

One layer asks for messages, or sends them in order to have them echoed, and the other
layer answers. The same packet is a request, arguments, a reply or an echo, depending on
what its receiver waits for. Every handler's call is put on record (`Service`), and the
record shows that each message is asked for, supplied and replied to once, with the bytes
that were supplied (`Exchanged`).
-/

namespace LinkStack.Exchange

open LinkStack.Catalog (Table Message)

variable {η E : Type}

/-! ### The record of the handlers -/

/-- A call of a handler: by which layer, for which message at which priority, and what it
was given and answered. -/
structure Service (η : Type) where
  who : Peer
  number : Option Nat
  priority : Priority
  handler : η
  input : Option Bytes
  output : Option Bytes
  deriving DecidableEq, Repr

/-- Handlers that do not call the layer, and whose calls are put on record. -/
def Handlers.recorded (who : Peer) (handle : η → Option Bytes → StateM E (Option Bytes)) :
    Handlers η (E × List (Service η)) := fun handler input s =>
  let (output, around) := handle handler input s.around.1
  let service : Service η :=
    { who, number := s.layer.running, priority := s.layer.handlerPriority, handler, input, output }
  (output, s.meet (around, s.around.2 ++ [service]) (.called s.layer.running handler input))

/-- What one side asks for: a message, and the arguments that it sends along to have them
echoed. -/
structure Request (η : Type) where
  number : Nat
  asker : η
  written : Option Bytes
  deriving DecidableEq, Repr

structure Answer (η : Type) extends Request η where
  supplier : η
  supplied : Bytes
  deriving DecidableEq, Repr

/-- A request, its answer, and what the handler that was given the answer said to it. -/
structure Reply (η : Type) extends Answer η where
  said : Option Bytes
  deriving DecidableEq, Repr

def Request.packet (r : Request η) : Bytes := Exchange.packet r.number (r.written.getD [])

def Answer.packet (a : Answer η) : Bytes := Exchange.packet a.number a.supplied

/-- The handler supplies the arguments that are sent along. -/
def Request.writing (r : Request η) : List (Service η) :=
  r.written.toList.map fun args =>
    { who := .left, number := some r.number, priority := .updateArgs, handler := r.asker,
      input := none, output := some args }

/-- The handler of the other side is given them, and supplies the answer. -/
def Answer.supplying (a : Answer η) : Service η where
  who := .right
  number := some a.number
  priority := .highest
  handler := a.supplier
  input := a.written
  output := some a.supplied

/-- The handler is given the answer, as a reply. -/
def Reply.replying (r : Reply η) : Service η where
  who := .left
  number := some r.number
  priority := .queryWait
  handler := r.asker
  input := some r.supplied
  output := r.said

/-! ### The exchange -/

namespace Dialogue

variable (w : Surroundings η E)

/-- A packet is fed to a layer, which then sends what is queued. -/
def feed (who : Peer) (d : Dialogue η E) (packet : Bytes) : Dialogue η E :=
  (d.perform w who (.recv packet)).perform w who .schedule

/-- One layer queues messages and sends what is queued. What it sends is fed to the other
layer, packet by packet, and what that one sends is fed back. -/
def converse (numbers : List Nat) (priority : Priority) (d : Dialogue η E) : Dialogue η E :=
  let asked := (d.performAll w .left (numbers.map (.post · priority))).perform w .left .schedule
  let answered := (asked.sent .left).foldl (feed w .right) asked
  (answered.sent .right).foldl (feed w .left) answered

end Dialogue

/-- The two layers over children with room, and with handlers whose calls are recorded. -/
def recording (room : Nat) (limit : Peer → Nat)
    (handle : Peer → η → Option Bytes → StateM E (Option Bytes)) :
    Surroundings η (E × List (Service η)) where
  neighbours _ := .ample room
  limit := limit
  handlers who := .recorded who (handle who)

/-- A layer that has nothing to do and waits for nothing. -/
structure Calm (table : Table η) (config : Config) (g : Messenger Neighbour η) : Prop where
  reached : ∃ (E : Type) (n : Neighbours E) (limit : Nat) (s : Stage η E),
    Reached n limit table config s ∧ s.layer = g
  queued : g.queued = 0
  unlocked : ∀ number, g.isLocked number = false
  inbox : g.inbox = none
  running : g.running = none

/-- The handler of a message always answers as many bytes as the message has. -/
structure Provides (table : Table η) (handle : η → Option Bytes → StateM E (Option Bytes))
    (number : Nat) (handler : η) (size : Nat) : Prop where
  message : ∃ message, table.get? number = some message ∧ message.handler = some handler ∧
    message.size = size
  answers : ∀ input around, ∃ args around',
    handle handler input around = (some args, around') ∧ args.length = size

/-- The handler of the message asks, and sends arguments along if they are to be echoed. -/
structure Request.Fits (table : Table η) (priority : Priority) (r : Request η) : Prop where
  message : ∃ message, table.get? r.number = some message ∧ message.handler = some r.asker ∧
    ∀ args, r.written = some args → args.length = message.size
  written : r.written.isSome ↔ priority = .updateArgs

/-- The handlers are those of the message in the two catalogs, and what they supply has the
size of its arguments. -/
structure Reply.Fits (tables : Peer → Table η) (priority : Priority) (r : Reply η) : Prop where
  request : r.toRequest.Fits (tables .left) priority
  supplier : ∃ message, (tables .right).get? r.number = some message ∧
    message.handler = some r.supplier ∧ r.supplied.length = message.size

/-- Every message was asked for once, supplied once and replied to once, with what was
supplied; nothing is queued, locked or sent any more. -/
structure Exchanged (tables : Peer → Table η) (w : Surroundings η (E × List (Service η)))
    (numbers : List Nat) (priority : Priority) (d : Dialogue η (E × List (Service η))) : Prop where
  replies : ∃ replies : List (Reply η), (replies.map (·.number)).Nodup ∧
    (∀ number, number ∈ replies.map (·.number) ↔ number ∈ numbers) ∧
    (∀ reply ∈ replies, reply.Fits tables priority) ∧
    d.around.2 = replies.flatMap (·.writing) ++ replies.map (·.supplying) ++
      replies.map Reply.replying
  unlocked : ∀ who number, (d.layer who).isLocked number = false
  queued : ∀ who, (d.layer who).queued = 0
  /-- However often the layers are told to send, they send nothing and call no handler. -/
  silent : ∀ peers : List Peer,
    let d' := peers.foldl (fun d who => d.perform w who .schedule) d
    d'.sent = d.sent ∧ d'.around = d.around

open Messenger

/-! ### One packet -/

section Packets

variable {w : Surroundings η E} {who : Peer} {d : Dialogue η E} {table : Table η} {config : Config}
  {parent : Option Neighbour} {room : Nat} {entry : Entry} {inbox : Option Held}
  {locked locked' : Nat → Prop} {around : E} {notices : List (Notice η)}

/-- A layer is fed a packet that queues one message, and the message has its turn. -/
theorem changes_feed {flags : UInt8} {data : Bytes} (hw : w.neighbours who = .ample room)
    (hroom : room ≠ 0) (hnode : (d.layer who).node = (begun table config parent).node)
    (htaken : Poised (begun table config parent) (d.now who) [entry] inbox locked
      ((d.layer who).taken (Tag.message :: flags :: data) flags data))
    (htimeout : (∃ m, locked m) → 0 < config.queryTimeout)
    (hvisited : ∀ g, Poised (begun table config parent) (d.now who) [] inbox locked g →
      ∃ g', Visited room (w.limit who) (w.handlers who) (d.now who) entry g d.around g' around
          notices ∧
        Poised (begun table config parent) (d.now who) [] none locked' g') :
    ∃ g', Dialogue.Changes who d g' around (notices.filterMap Notice.packet?)
        (d.feed w who (Tag.message :: flags :: data)) ∧
      Poised (begun table config parent) (d.now who) [] none locked' g' := by
  have hlinks : (d.layer who).node.links = some ⟨some .child, parent⟩ := congrArg Node.links hnode
  have hd₁ := Dialogue.changes_recv hw hlinks flags data
  rw [Dialogue.feed]
  generalize d.perform w who (.recv (Tag.message :: flags :: data)) = d₁ at hd₁ ⊢
  have hnow₁ : (d₁.stage who).now = d.now who := congrFun hd₁.now who
  have haround₁ : (d₁.stage who).around = d.around := hd₁.around
  have htaken₁ : Poised (begun table config parent) (d₁.stage who).now [entry] inbox locked
      (d₁.stage who).layer := by
    rw [hnow₁]
    change Poised _ _ _ _ _ (d₁.layer who)
    rw [hd₁.layer]
    exact htaken
  rw [← hnow₁, ← haround₁] at hvisited
  obtain ⟨s₂, hs₂, hnow₂, hpoised, haround₂, hseen₂⟩ :=
    htaken₁.schedule_singleton hroom rfl htimeout hvisited
  have hd₂ := Dialogue.changes_perform (w := w) (d := d₁) who .schedule
    (by rw [Dialogue.performed, hw]; exact hs₂) hnow₂
  rw [handed, hseen₂, haround₂] at hd₂
  exact ⟨s₂.layer, hd₁.trans hd₂, hnow₁ ▸ hpoised⟩

theorem answers_recorded {handle : η → Option Bytes → StateM E (Option Bytes)} {handler : η}
    {input output : Option Bytes} {around : E × List (Service η)} {around' : E}
    (hanswer : handle handler input around.1 = (output, around')) (g : Messenger Neighbour η)
    (number : Nat) (priority : Priority) :
    Answers (.recorded who handle) (g.during number priority) around handler input output
      (around', around.2 ++ [⟨who, some number, priority, handler, input, output⟩]) := by
  rintro s hlayer rfl
  rw [Handlers.recorded, hanswer, hlayer]
  rfl

end Packets

section Phases

variable {tables : Peer → Table η} {config : Peer → Config} {parent : Peer → Option Neighbour}
  {room : Nat} {limit : Peer → Nat} {handle : Peer → η → Option Bytes → StateM E (Option Bytes)}
  {d : Dialogue η (E × List (Service η))} {locked : Nat → Prop}

/-- How a layer of the dialogue stands when nothing is queued. -/
abbrev AtRest (tables : Peer → Table η) (config : Peer → Config) (parent : Peer → Option Neighbour)
    (who : Peer) (locked : Nat → Prop) (d : Dialogue η E) : Prop :=
  Poised (begun (tables who) (config who) (parent who)) (d.now who) [] none locked (d.layer who)

/-- A request queues its message, with the arguments that it brings. -/
theorem poised_request {request : Request η} {message : Message η}
    (h : AtRest tables config parent .right (fun _ => False) d)
    (hsize : (tables .right).size ≤ Catalog.maxMessages)
    (hmessage : (tables .right).get? request.number = some message) (hpos : 1 ≤ message.size)
    (hwritten : ∀ args, request.written = some args → args.length = message.size) :
    Poised (begun (tables .right) (config .right) (parent .right)) (d.now .right)
      [⟨.highest, request.number⟩] (request.written.map (Held.mk request.number)) (fun _ => False)
      ((d.layer .right).taken request.packet (.ofNat request.number)
        (request.written.getD [])) := by
  have hlt := lt_size_of_get? hmessage
  have hflag := lt_descriptorFlag hsize hlt
  have hplain := (toNat_flags hflag).1
  have hasked := (asked_flags hflag).1
  cases hargs : request.written with
  | none =>
      rw [← hplain] at hflag
      have hqueued := h.asked hsize hflag (hasked.symm ▸ hlt) id request.packet
      rwa [hasked] at hqueued
  | some args =>
      have hdata : args ≠ [] := by
        rintro rfl
        rw [← hwritten [] hargs] at hpos
        simp at hpos
      rw [← hasked] at hmessage
      obtain ⟨priority, hpriority, hqueued⟩ :=
        h.taken hsize hmessage hdata (hwritten args hargs) request.packet
      have hunlocked : ¬ (d.layer .right).isLocked request.number :=
        fun hlocked => (h.locked _).mp hlocked
      rw [hplain, hasked, if_neg (Nat.not_le.mpr hflag), if_neg hunlocked] at hpriority
      rw [hpriority, hasked] at hqueued
      exact hqueued

variable (limit) in
/-- The message that was asked for is supplied. -/
theorem visited_answer {g₀ g : Messenger Neighbour η} {now : Tick} {request : Request η}
    {message : Message η} {supplier : η} {supplied : Bytes} {around : E × List (Service η)}
    {around' : E}
    (h : Poised g₀ now [] (request.written.map (Held.mk request.number)) (fun _ => False) g)
    (hmessage : g₀.table.get? request.number = some message)
    (hhandler : message.handler = some supplier) (hroom : header + message.size ≤ room)
    (hanswer : handle .right supplier request.written around.1 = (some supplied, around'))
    (hlength : supplied.length = message.size) :
    ∃ g', Visited room (limit .right) (.recorded .right (handle .right)) now
        ⟨.highest, request.number⟩ g around g' (around', around.2 ++ [⟨.right, some request.number,
          .highest, supplier, request.written, some supplied⟩])
        [.called (some request.number) supplier request.written,
          .handed (packet request.number supplied)] ∧
      Poised g₀ now [] none (fun _ => False) g' := by
  have hheld : ∀ held, request.written.map (Held.mk request.number) = some held →
      held.number = request.number := by
    intro held hwritten
    obtain ⟨args, -, rfl⟩ := Option.map_eq_some_iff.mp hwritten
    rfl
  have hinput : (request.written.map (Held.mk request.number)).map Held.data =
      request.written := by
    cases request.written <;> rfl
  have hargs : Entry.IsArgs ⟨.highest, request.number⟩ ∧ Priority.highest ≠ .unlockArgs := by
    simp only [Entry.IsArgs]
    decide
  obtain ⟨g', hvisits, hpoised⟩ := h.visited_args (limit .right) ⟨.highest, request.number⟩ hheld
    hmessage hargs.1 hargs.2 hhandler hroom
    (hinput.symm ▸ answers_recorded hanswer g request.number .highest) hlength
  rw [hinput] at hvisits
  exact ⟨g', hvisits, hpoised.congr_locked (by simp [Priority.highest, Priority.updateArgs])⟩

variable (room limit handle) in
/-- A request is answered. -/
theorem feed_request {request : Request η} {supplier : η} {size : Nat}
    (h : AtRest tables config parent .right (fun _ => False) d)
    (hsize : (tables .right).size ≤ Catalog.maxMessages)
    (hprovides : Provides (tables .right) (handle .right) request.number supplier size)
    (hpos : 1 ≤ size) (hroom : header + size ≤ room)
    (hwritten : ∀ args, request.written = some args → args.length = size) :
    ∃ answer : Answer η, answer.toRequest = request ∧ answer.supplier = supplier ∧
      answer.supplied.length = size ∧
      ∃ g' around', Dialogue.Changes .right d g' around' [answer.packet]
          (d.feed (recording room limit handle) .right request.packet) ∧
        Poised (begun (tables .right) (config .right) (parent .right)) (d.now .right) [] none
          (fun _ => False) g' ∧
        around'.2 = d.around.2 ++ [answer.supplying] := by
  obtain ⟨⟨message, hmessage, hhandler, rfl⟩, hanswers⟩ := hprovides
  obtain ⟨supplied, around', hanswer, hlength⟩ := hanswers request.written d.around.1
  refine ⟨{ request with supplier, supplied }, rfl, rfl, hlength, ?_⟩
  have hpositive : room ≠ 0 := by
    rw [header] at hroom
    omega
  obtain ⟨g', hchanges, hpoised⟩ := changes_feed (w := recording room limit handle) rfl hpositive
    h.node (poised_request h hsize hmessage hpos hwritten)
    (fun hlocked => hlocked.elim fun _ => False.elim)
    fun g hg => visited_answer limit hg hmessage hhandler hroom hanswer hlength
  exact ⟨g', _, hchanges, hpoised, rfl⟩

variable (limit handle) in
/-- An answer is given to the handler that waits for it. -/
theorem feed_answer {answer : Answer η} {message : Message η}
    (h : AtRest tables config parent .left locked d)
    (hsize : (tables .left).size ≤ Catalog.maxMessages) (hroom : room ≠ 0)
    (htimeout : 0 < (config .left).queryTimeout) (hlocked : locked answer.number)
    (hmessage : (tables .left).get? answer.number = some message)
    (hhandler : message.handler = some answer.asker) (hdata : answer.supplied ≠ [])
    (hlength : answer.supplied.length = message.size) :
    ∃ reply : Reply η, reply.toAnswer = answer ∧
      ∃ g' around', Dialogue.Changes .left d g' around' []
          (d.feed (recording room limit handle) .left answer.packet) ∧
        Poised (begun (tables .left) (config .left) (parent .left)) (d.now .left) [] none
          (fun m => locked m ∧ m ≠ answer.number) g' ∧
        around'.2 = d.around.2 ++ [reply.replying] := by
  have hflag := lt_descriptorFlag hsize (lt_size_of_get? hmessage)
  have hasked := (asked_flags hflag).1
  have hmessage' : (tables .left).get? (asked (.ofNat answer.number)) = some message :=
    hasked.symm ▸ hmessage
  obtain ⟨priority, hpriority, htaken⟩ := h.taken hsize hmessage' hdata hlength answer.packet
  have hwaiting : (d.layer .left).isLocked answer.number := (h.locked _).mpr hlocked
  rw [(toNat_flags hflag).1, hasked, if_neg (Nat.not_le.mpr hflag), if_pos hwaiting] at hpriority
  rw [hpriority, hasked] at htaken
  obtain ⟨said, around', hanswer⟩ : ∃ said around',
      handle .left answer.asker (some answer.supplied) d.around.1 = (said, around') :=
    ⟨_, _, rfl⟩
  refine ⟨{ answer with said }, rfl, ?_⟩
  obtain ⟨g', hchanges, hpoised⟩ := changes_feed (w := recording room limit handle) rfl hroom
    h.node htaken (fun _ => htimeout) fun g hg =>
      hg.visited_reply room (limit .left) ⟨.queryWait, answer.number⟩ hmessage rfl hhandler
        (answers_recorded hanswer (g.unlock answer.number) answer.number .queryWait)
  exact ⟨g', _, hchanges, hpoised, rfl⟩

theorem AtRest.of_changes {who : Peer} {g : Messenger Neighbour η} {around : E}
    {packets : List Bytes} {d d' : Dialogue η E} (hchanges : d.Changes who g around packets d')
    (h : Poised (begun (tables who) (config who) (parent who)) (d.now who) [] none locked g) :
    AtRest tables config parent who locked d' := by
  rw [AtRest, hchanges.now, hchanges.layer]
  exact h

variable (room limit handle) in
/-- Requests are answered one after the other. -/
theorem feed_requests {requests : List (Request η)}
    (h : AtRest tables config parent .right (fun _ => False) d)
    (hsize : (tables .right).size ≤ Catalog.maxMessages)
    (hrequests : ∀ request ∈ requests, ∃ supplier size,
      Provides (tables .right) (handle .right) request.number supplier size ∧ 1 ≤ size ∧
      header + size ≤ room ∧ ∀ args, request.written = some args → args.length = size) :
    ∃ answers : List (Answer η), answers.map Answer.toRequest = requests ∧
      (∀ answer ∈ answers, Provides (tables .right) (handle .right) answer.number answer.supplier
        answer.supplied.length ∧ 1 ≤ answer.supplied.length) ∧
      ∃ g' around', Dialogue.Changes .right d g' around' (answers.map Answer.packet)
          ((requests.map Request.packet).foldl
            (Dialogue.feed (recording room limit handle) .right) d) ∧
        Poised (begun (tables .right) (config .right) (parent .right)) (d.now .right) [] none
          (fun _ => False) g' ∧
        around'.2 = d.around.2 ++ answers.map Answer.supplying := by
  induction requests generalizing d with
  | nil =>
      refine ⟨[], rfl, by simp, d.layer .right, d.around, ⟨rfl, fun _ _ => rfl, fun _ _ => rfl, rfl,
        rfl, (List.append_nil _).symm⟩, h, (List.append_nil _).symm⟩
  | cons request requests ih =>
      rw [List.forall_mem_cons] at hrequests
      obtain ⟨⟨supplier, size, hprovides, hpos, hroom, hwritten⟩, hrest⟩ := hrequests
      obtain ⟨answer, rfl, rfl, rfl, g₁, around₁, hchanges₁, hpoised₁, hrecord₁⟩ :=
        feed_request room limit handle h hsize hprovides hpos hroom hwritten
      obtain ⟨answers, rfl, hanswers, g₂, around₂, hchanges₂, hpoised₂, hrecord₂⟩ :=
        ih (.of_changes hchanges₁ hpoised₁) hrest
      refine ⟨answer :: answers, rfl, List.forall_mem_cons.mpr ⟨⟨hprovides, hpos⟩, hanswers⟩, g₂,
        around₂, hchanges₁.trans hchanges₂, ?_, ?_⟩
      · rw [← hchanges₁.now]
        exact hpoised₂
      · rw [hrecord₂, hchanges₁.around, hrecord₁]
        simp

variable (limit handle) in
/-- Answers are given to the handlers that wait for them, one after the other. -/
theorem feed_answers {answers : List (Answer η)}
    (h : AtRest tables config parent .left locked d)
    (hsize : (tables .left).size ≤ Catalog.maxMessages) (hroom : room ≠ 0)
    (htimeout : 0 < (config .left).queryTimeout) (hnodup : (answers.map (·.number)).Nodup)
    (hanswers : ∀ answer ∈ answers, locked answer.number ∧ ∃ message,
      (tables .left).get? answer.number = some message ∧ message.handler = some answer.asker ∧
      answer.supplied ≠ [] ∧ answer.supplied.length = message.size) :
    ∃ replies : List (Reply η), replies.map Reply.toAnswer = answers ∧
      ∃ g' around', Dialogue.Changes .left d g' around' []
          ((answers.map Answer.packet).foldl
            (Dialogue.feed (recording room limit handle) .left) d) ∧
        Poised (begun (tables .left) (config .left) (parent .left)) (d.now .left) [] none
          (fun m => locked m ∧ m ∉ answers.map (·.number)) g' ∧
        around'.2 = d.around.2 ++ replies.map Reply.replying := by
  induction answers generalizing d locked with
  | nil =>
      exact ⟨[], rfl, d.layer .left, d.around, ⟨rfl, fun _ _ => rfl, fun _ _ => rfl, rfl, rfl,
        (List.append_nil _).symm⟩, h.congr_locked (by simp), (List.append_nil _).symm⟩
  | cons answer answers ih =>
      rw [List.forall_mem_cons] at hanswers
      rw [List.map_cons, List.nodup_cons] at hnodup
      obtain ⟨⟨hlocked, message, hmessage, hhandler, hdata, hlength⟩, hrest⟩ := hanswers
      obtain ⟨reply, rfl, g₁, around₁, hchanges₁, hpoised₁, hrecord₁⟩ :=
        feed_answer limit handle h hsize hroom htimeout hlocked hmessage hhandler hdata hlength
      have hrest' : ∀ answer' ∈ answers, (locked answer'.number ∧ answer'.number ≠ reply.number) ∧
          ∃ message, (tables .left).get? answer'.number = some message ∧
            message.handler = some answer'.asker ∧ answer'.supplied ≠ [] ∧
            answer'.supplied.length = message.size := by
        intro answer' hmem
        obtain ⟨hlocked', hfits⟩ := hrest answer' hmem
        refine ⟨⟨hlocked', fun hsame => hnodup.1 ?_⟩, hfits⟩
        exact hsame ▸ List.mem_map_of_mem hmem
      obtain ⟨replies, rfl, g₂, around₂, hchanges₂, hpoised₂, hrecord₂⟩ :=
        ih (.of_changes hchanges₁ hpoised₁) hnodup.2 hrest'
      refine ⟨reply :: replies, rfl, g₂, around₂, hchanges₁.trans hchanges₂, ?_, ?_⟩
      · rw [← hchanges₁.now]
        exact hpoised₂.congr_locked fun m => by simp [and_assoc]
      · rw [hrecord₂, hchanges₁.around, hrecord₁]
        simp

variable (limit) in
/-- A message asks. -/
theorem visited_request {entry : Entry} {rest : List Entry} {g : Messenger Neighbour η} {now : Tick}
    {asker : η} {size : Nat}
    (h : Poised (begun (tables .left) (config .left) (parent .left)) now rest none locked g)
    (hpriority : entry.priority = .queryArgs ∨ entry.priority = .updateArgs)
    (hprovides : Provides (tables .left) (handle .left) entry.number asker size)
    (hroom : header + size ≤ room) (around : E × List (Service η)) :
    ∃ request : Request η, request.number = entry.number ∧
      request.Fits (tables .left) entry.priority ∧ ∃ g' around' notices,
        Visited room (limit .left) (.recorded .left (handle .left)) now entry g around g' around'
          notices ∧
        Poised (begun (tables .left) (config .left) (parent .left)) now rest none
          (fun m => locked m ∨ m = entry.number) g' ∧
        around'.2 = around.2 ++ request.writing ∧
        notices.filterMap Notice.packet? = [request.packet] := by
  obtain ⟨⟨message, hmessage, hhandler, rfl⟩, hanswers⟩ := hprovides
  rcases hpriority with hpriority | hpriority
  · obtain ⟨g', hvisits, hpoised⟩ := h.visited_query room (limit .left)
      (.recorded .left (handle .left)) around hmessage hpriority (by omega)
    refine ⟨⟨entry.number, asker, none⟩, rfl, ⟨⟨message, hmessage, hhandler, nofun⟩, ?_⟩, g',
      around, _, hvisits, hpoised, (List.append_nil _).symm, rfl⟩
    rw [hpriority]
    exact iff_of_false nofun (by decide)
  · obtain ⟨args, around', hanswer, hlength⟩ := hanswers none around.1
    have hargs : entry.IsArgs ∧ entry.priority ≠ .unlockArgs := by
      rw [Entry.IsArgs, hpriority]
      decide
    obtain ⟨g', hvisits, hpoised⟩ := h.visited_args (limit .left) entry nofun hmessage hargs.1
      hargs.2 hhandler hroom (answers_recorded hanswer g entry.number entry.priority) hlength
    refine ⟨⟨entry.number, asker, some args⟩, rfl, ⟨⟨message, hmessage, hhandler, ?_⟩, ?_⟩, g', _,
      _, hvisits, hpoised.congr_locked (by simp [hpriority]), ?_, rfl⟩
    · rintro _ ⟨⟩
      exact hlength
    · simp [hpriority]
    · simp [Request.writing, hpriority]

/-- The state of a layer that is sending requests: those made so far, and the entries that
are left. -/
structure Asking (table : Table η) (g₀ : Messenger Neighbour η) (now : Tick) (order : List Entry)
    (priority : Priority) (record : List (Service η)) (requests : List (Request η))
    (rest : List Entry) (g : Messenger Neighbour η) (around : E × List (Service η))
    (notices : List (Notice η)) : Prop where
  numbers : order.map Entry.number = requests.map Request.number ++ rest.map Entry.number
  left : ∀ entry ∈ rest, entry ∈ order
  fits : ∀ request ∈ requests, request.Fits table priority
  poised : Poised g₀ now rest none (fun m => m ∈ requests.map Request.number) g
  recorded : around.2 = record ++ requests.flatMap Request.writing
  sent : notices.filterMap Notice.packet? = requests.map Request.packet

variable (limit) in
/-- All that is queued asks. -/
theorem schedule_requests {order : List Entry} {priority : Priority}
    {s : Stage η (E × List (Service η))}
    (h : Poised (begun (tables .left) (config .left) (parent .left)) s.now order none
      (fun _ => False) s.layer)
    (hnew : seen s.history = []) (hpriority : priority = .queryArgs ∨ priority = .updateArgs)
    (horder : ∀ entry ∈ order, entry.priority = priority ∧ ∃ asker size,
      Provides (tables .left) (handle .left) entry.number asker size ∧ header + size ≤ room)
    (hlength : order.length ≤ (tables .left).size) (hroom : room ≠ 0) :
    ∃ s' requests, ((schedule (place (.ample room) (limit .left))
        (Handlers.recorded .left (handle .left))).run s).2 = s' ∧ s'.now = s.now ∧
      Asking (tables .left) (begun (tables .left) (config .left) (parent .left)) s.now order
        priority s.around.2 requests [] s'.layer s'.around (seen s'.history) := by
  have hdrains : Drains room (limit .left) (.recorded .left (handle .left)) s.now
      fun k g around notices => ∃ requests rest, rest.length = k ∧
        Asking (tables .left) (begun (tables .left) (config .left) (parent .left)) s.now order
          priority s.around.2 requests rest g around notices := by
    constructor
    · rintro g around notices ⟨requests, rest, hrest, hasking⟩
      obtain rfl := List.length_eq_zero_iff.mp hrest
      exact hasking.poised.pop_nil
    · rintro k g around notices ⟨requests, _ | ⟨entry, rest⟩, hrest, hasking⟩
      · simp at hrest
      obtain ⟨queue, hpop, hpopped⟩ := hasking.poised.pop
      obtain ⟨rfl, asker, size, hprovides, hspace⟩ := horder entry (hasking.left entry (by simp))
      obtain ⟨request, hnumber, hfits, g', around', more, hvisits, hpoised, hrecord, hsent⟩ :=
        visited_request limit hpopped hpriority hprovides hspace around
      refine ⟨entry, queue, g', around', more, hpop, hvisits, requests ++ [request], rest,
        Nat.succ.inj hrest, ?_⟩
      refine ⟨?_, fun e hmem => hasking.left e (List.mem_cons_of_mem _ hmem), ?_, ?_, ?_, ?_⟩
      · rw [hasking.numbers]
        simp [hnumber]
      · rw [List.forall_mem_append, List.forall_mem_singleton]
        exact ⟨hasking.fits, hfits⟩
      · exact hpoised.congr_locked (by simp [hnumber])
      · rw [hrecord, hasking.recorded]
        simp
      · rw [List.filterMap_append, hasking.sent, hsent]
        simp
  have hsize : order.length ≤ (Priority.max + 1) * s.layer.table.size := by
    rw [h.table, Priority.max]
    exact Nat.le_trans hlength (Nat.le_mul_of_pos_left _ (by decide))
  obtain ⟨s', hs', hnow, requests, rest, hrest, hasking⟩ := hdrains.schedule (k := order.length)
    hroom (h.node ▸ rfl) hsize ⟨[], order, rfl, rfl, fun _ hmem => hmem, by simp, by
      rw [h.expire fun hlocked => hlocked.elim fun _ => False.elim]
      exact h.congr_locked (by simp), (List.append_nil _).symm, by simp [hnew]⟩
  obtain rfl := List.length_eq_zero_iff.mp hrest
  exact ⟨s', requests, hs', hnow, hasking⟩

/-- What is queued at one priority, message by message. -/
theorem numbers_order {g : Messenger Neighbour η} {numbers : List Nat} {priority : Priority}
    (htidy : g.Tidy) (hpriority : priority ≠ .clear)
    (hlevel : ∀ m, g.queue.level m = if m ∈ numbers then priority else .clear) :
    (∀ entry ∈ g.queue.order, entry.priority = priority) ∧
    (g.queue.order.map Entry.number).Nodup ∧
    ∀ m, m ∈ g.queue.order.map Entry.number ↔ m ∈ numbers := by
  have hentry : ∀ entry ∈ g.queue.order, entry.priority = priority ∧ entry.number ∈ numbers := by
    intro entry hmem
    obtain ⟨hqueued, hsame⟩ := (htidy.queue.mem_iff entry).mp hmem
    rw [hlevel] at hsame
    split at hsame
    · next hnumber => exact ⟨hsame.symm, hnumber⟩
    · exact absurd hsame.symm hqueued
  refine ⟨fun entry hmem => (hentry entry hmem).1, ?_, fun m => ⟨fun hmem => ?_, fun hmem => ?_⟩⟩
  · refine htidy.queue.nodup.map_on fun a ha b hb hnumber => ?_
    obtain ⟨ha, -⟩ := hentry a ha
    obtain ⟨hb, -⟩ := hentry b hb
    cases a
    cases b
    simp_all
  · obtain ⟨entry, hin, rfl⟩ := List.mem_map.mp hmem
    exact (hentry entry hin).2
  · refine List.mem_map.mpr ((htidy.queue.exists_mem_iff m).mpr ?_)
    rwa [hlevel, if_pos hmem]

theorem length_le_of_numbers {order : List Entry} {size : Nat}
    (hnodup : (order.map Entry.number).Nodup) (hbelow : ∀ m ∈ order.map Entry.number, m < size) :
    order.length ≤ size := by
  have hsub : order.map Entry.number ⊆ List.range size := fun m hm =>
    List.mem_range.mpr (hbelow m hm)
  have hle := (hnodup.subperm hsub).length_le
  rwa [List.length_map, List.length_range] at hle

variable (limit) in
/-- The messages are queued and ask. -/
theorem ask {numbers : List Nat} {priority : Priority}
    (h : AtRest tables config parent .left (fun _ => False) d)
    (hpriority : priority = .queryArgs ∨ priority = .updateArgs)
    (hnumbers : ∀ number ∈ numbers, ∃ asker size,
      Provides (tables .left) (handle .left) number asker size ∧ header + size ≤ room)
    (hroom : room ≠ 0) :
    ∃ (requests : List (Request η)) (g' : Messenger Neighbour η) (around' : E × List (Service η)),
      (requests.map Request.number).Nodup ∧
      (∀ number, number ∈ requests.map Request.number ↔ number ∈ numbers) ∧
      (∀ request ∈ requests, request.Fits (tables .left) priority) ∧
      Dialogue.Changes .left d g' around' (requests.map Request.packet)
        ((d.performAll (recording room limit handle) .left
          (numbers.map (.post · priority))).perform (recording room limit handle) .left .schedule) ∧
      Poised (begun (tables .left) (config .left) (parent .left)) (d.now .left) [] none
        (fun m => m ∈ requests.map Request.number) g' ∧
      around'.2 = d.around.2 ++ requests.flatMap Request.writing := by
  have hrange : priority ≠ .clear ∧ priority ≤ Priority.max := by
    rcases hpriority with rfl | rfl <;> decide
  have hbelow : ∀ number ∈ numbers, number < (tables .left).size := by
    intro number hmem
    obtain ⟨asker, size, ⟨⟨message, hmessage, -⟩, -⟩, -⟩ := hnumbers number hmem
    exact lt_size_of_get? hmessage
  have hrest : Poised (begun (tables .left) (config .left) (parent .left)) (d.now .left)
      (d.layer .left).queue.order none (fun _ => False) (d.layer .left) := by
    rw [h.order]
    exact h
  obtain ⟨g, hposts, hpoised, hlevel⟩ := hrest.posts numbers
    (fun number hmem => ⟨hbelow number hmem, id⟩) hrange.1 hrange.2 fun m => .inl (h.level m)
  have hqueued := Dialogue.changes_posts (w := recording room limit handle) hposts
  generalize d.performAll (recording room limit handle) .left (numbers.map (.post · priority)) = d₁
    at hqueued ⊢
  simp only [h.level] at hlevel
  obtain ⟨hpriorities, hnodup, hmem⟩ := numbers_order hpoised.tidy hrange.1 hlevel
  have hlength : g.queue.order.length ≤ (tables .left).size :=
    length_le_of_numbers hnodup fun m hm => hbelow m ((hmem m).mp hm)
  have hpoised₁ : Poised (begun (tables .left) (config .left) (parent .left))
      (d₁.stage .left).now g.queue.order none (fun _ => False) (d₁.stage .left).layer := by
    change Poised _ (d₁.now .left) _ _ _ (d₁.layer .left)
    rw [hqueued.now, hqueued.layer]
    exact hpoised
  have horder : ∀ entry ∈ g.queue.order, entry.priority = priority ∧ ∃ asker size,
      Provides (tables .left) (handle .left) entry.number asker size ∧ header + size ≤ room :=
    fun entry hin => ⟨hpriorities entry hin, hnumbers _ ((hmem _).mp (List.mem_map_of_mem hin))⟩
  obtain ⟨s, requests, hs, hnow, hasking⟩ :=
    schedule_requests limit hpoised₁ rfl hpriority horder hlength hroom
  have hsent := Dialogue.changes_perform (w := recording room limit handle) (d := d₁) .left
    .schedule hs hnow
  have hnumbers' : requests.map Request.number = g.queue.order.map Entry.number := by
    rw [hasking.numbers, List.map_nil, List.append_nil]
  rw [handed, hasking.sent] at hsent
  refine ⟨requests, s.layer, s.around, hnumbers' ▸ hnodup, fun m => hnumbers' ▸ hmem m,
    hasking.fits, hqueued.trans hsent, ?_, ?_⟩
  · have hpoised' := hasking.poised
    change Poised _ (d₁.now .left) _ _ _ _ at hpoised'
    rwa [hqueued.now] at hpoised'
  · rw [hasking.recorded]
    change d₁.around.2 ++ _ = _
    rw [hqueued.around]

theorem Calm.atRest {table : Table η} {config : Config} {g : Messenger Neighbour η}
    (h : Calm table config g) : ∃ parent, ∀ now,
      Poised (begun table config parent) now [] none (fun _ => False) g := by
  obtain ⟨E, n, limit, s, ⟨past, parent, around, now, huses, rfl⟩, rfl⟩ := h.reached
  have hstands := keeps_of_uses table config parent huses
    ⟨begun table config parent, around, now, []⟩ (stands_begun table config parent)
  refine ⟨parent, fun now => ⟨hstands.node, hstands.table, hstands.config, hstands.tidy,
    List.eq_nil_of_length_eq_zero h.queued, h.inbox, h.running, fun m => ?_,
    fun m lock hlock => ?_⟩⟩
  · simp [h.unlocked m]
  · have hlocked := h.unlocked m
    rw [isLocked, hlock] at hlocked
    simp at hlocked

/-- Layers with nothing to do stay as they are. -/
theorem silent_of_atRest (hroom : room ≠ 0)
    (h : ∀ who, AtRest tables config parent who (fun _ => False) d) (peers : List Peer) :
    let d' := peers.foldl (fun d who => d.perform (recording room limit handle) who .schedule) d
    d'.sent = d.sent ∧ d'.around = d.around := by
  induction peers generalizing d with
  | nil => exact ⟨rfl, rfl⟩
  | cons who peers ih =>
      obtain ⟨s, hs, hnow, hlayer, haround, hseen⟩ := Poised.schedule_nil (s := d.stage who)
        (limit who) (.recorded who (handle who)) (h who) hroom rfl
        fun hlocked => hlocked.elim fun _ => False.elim
      have hchanges := Dialogue.changes_perform (w := recording room limit handle) (d := d) who
        .schedule hs hnow
      rw [handed, hseen, hlayer, haround] at hchanges
      have hrest : ∀ m, AtRest tables config parent m (fun _ => False)
          (d.perform (recording room limit handle) who .schedule) := by
        intro m
        by_cases hm : m = who
        · subst hm
          exact .of_changes hchanges (h m)
        · rw [AtRest, hchanges.now, hchanges.layer_of_ne m hm]
          exact h m
      obtain ⟨hsent, haround⟩ := ih hrest
      refine ⟨hsent.trans ?_, haround.trans hchanges.around⟩
      funext m
      by_cases hm : m = who
      · subst hm
        exact hchanges.sent.trans (List.append_nil _)
      · exact hchanges.sent_of_ne hm

end Phases

theorem size_eq_of_get? {table table' : Table η} {number : Nat} {message message' : Message η}
    (hsizes : table.messages.map (·.size) = table'.messages.map (·.size))
    (hmessage : table.get? number = some message) (hmessage' : table'.get? number = some message') :
    message.size = message'.size := by
  have hsame := congrArg (·[number]?) hsizes
  rw [Table.get?] at hmessage hmessage'
  simpa [hmessage, hmessage'] using hsame

section SameSizes

variable {tables : Peer → Table η} {handle : Peer → η → Option Bytes → StateM E (Option Bytes)}
  {room number size : Nat} {handler : η}
  (hsizes : (tables .left).messages.map (·.size) = (tables .right).messages.map (·.size))

include hsizes

/-- There is room for the arguments of the messages of either catalog. -/
theorem Provides.space (hroom : ∀ message ∈ (tables .left).messages, header + message.size ≤ room)
    {who : Peer} (h : Provides (tables who) (handle who) number handler size) :
    header + size ≤ room := by
  obtain ⟨⟨message, hmessage, -, rfl⟩, -⟩ := h
  have hmem : message ∈ (tables who).messages := List.mem_of_getElem? hmessage
  cases who with
  | left => exact hroom message hmem
  | right =>
      have hin : message.size ∈ (tables .left).messages.map (·.size) :=
        hsizes ▸ List.mem_map_of_mem hmem
      obtain ⟨message', hmem', hsame⟩ := List.mem_map.mp hin
      exact hsame ▸ hroom message' hmem'

/-- What is sent along with a request has the size of what is supplied. -/
theorem Request.Fits.length_eq {request : Request η} {priority : Priority} {args : Bytes}
    (hfits : request.Fits (tables .left) priority)
    (h : Provides (tables .right) (handle .right) request.number handler size)
    (hargs : request.written = some args) : args.length = size := by
  obtain ⟨message, hmessage, -, hwritten⟩ := hfits.message
  obtain ⟨message', hmessage', -, rfl⟩ := h.message
  exact (hwritten args hargs).trans (size_eq_of_get? hsizes hmessage hmessage')

/-- The handler that waits for an answer is given arguments of the size that its catalog has
for them. -/
theorem Answer.awaited {answer : Answer η} {priority : Priority}
    (hfits : answer.toRequest.Fits (tables .left) priority)
    (h : Provides (tables .right) (handle .right) answer.number answer.supplier
      answer.supplied.length) :
    ∃ message, (tables .left).get? answer.number = some message ∧
      message.handler = some answer.asker ∧ answer.supplied.length = message.size := by
  obtain ⟨message, hmessage, hhandler, -⟩ := hfits.message
  obtain ⟨message', hmessage', -, hlength⟩ := h.message
  exact ⟨message, hmessage, hhandler, hlength ▸ (size_eq_of_get? hsizes hmessage hmessage').symm⟩

end SameSizes

/-- Two layers with catalogs of the same sizes exchange what one of them asks for or sends
to be echoed. -/
theorem exchanged_converse {tables : Peer → Table η} {config : Peer → Config}
    {handle : Peer → η → Option Bytes → StateM E (Option Bytes)} {room : Nat} {numbers : List Nat}
    {priority : Priority} (limit : Peer → Nat) (hsize : (tables .left).size ≤ Catalog.maxMessages)
    (hsizes : (tables .left).messages.map (·.size) = (tables .right).messages.map (·.size))
    (hroom : ∀ message ∈ (tables .left).messages, header + message.size ≤ room)
    (htimeout : 0 < (config .left).queryTimeout) (hnumbers : numbers ≠ [])
    (hpriority : priority = .queryArgs ∨ priority = .updateArgs)
    (hprovides : ∀ number ∈ numbers, ∀ who, ∃ handler size, 1 ≤ size ∧
      Provides (tables who) (handle who) number handler size)
    {layer : Peer → Messenger Neighbour η}
    (hcalm : ∀ who, Calm (tables who) (config who) (layer who))
    (now : Peer → Tick) (around : E) :
    Exchanged tables (recording room limit handle) numbers priority
      (.converse (recording room limit handle) numbers priority
        { layer, now, around := (around, []) }) := by
  obtain ⟨parent, hrest⟩ := Classical.skolem.mp fun who => (hcalm who).atRest
  have hsize' : (tables .right).size ≤ Catalog.maxMessages := by
    have hlength := congrArg List.length hsizes
    rw [List.length_map, List.length_map] at hlength
    rwa [Table.size, ← hlength]
  have hpositive : room ≠ 0 := by
    obtain ⟨number, hmem⟩ := List.exists_mem_of_ne_nil numbers hnumbers
    obtain ⟨handler, size, -, hsupplies⟩ := hprovides number hmem .left
    have hle := hsupplies.space hsizes hroom
    rw [header] at hle
    omega
  -- one layer asks
  let d : Dialogue η (E × List (Service η)) := { layer, now, around := (around, []) }
  obtain ⟨requests, g₁, around₁, hnodup, hmem, hfits, hd₁, hg₁, hrecord₁⟩ :=
    ask limit (d := d) (hrest .left (now .left)) hpriority (fun number hmem => by
      obtain ⟨asker, size, -, hsupplies⟩ := hprovides number hmem .left
      exact ⟨asker, size, hsupplies, hsupplies.space hsizes hroom⟩) hpositive
  rw [Dialogue.converse]
  change Exchanged _ _ _ _ (List.foldl _ (List.foldl _ (Dialogue.perform _ _ _
    (Dialogue.performAll _ _ _ d)) _) _)
  generalize (d.performAll (recording room limit handle) .left
    (numbers.map (.post · priority))).perform (recording room limit handle) .left .schedule = d₁
    at hd₁ ⊢
  rw [show d₁.sent .left = requests.map Request.packet from hd₁.sent]
  -- the other one answers
  have hright₁ : AtRest tables config parent .right (fun _ => False) d₁ := by
    rw [AtRest, hd₁.now, hd₁.layer_of_ne _ (by decide)]
    exact hrest .right (now .right)
  obtain ⟨answers, rfl, hanswers, g₂, around₂, hd₂, hg₂, hrecord₂⟩ :=
    feed_requests room limit handle hright₁ hsize' fun request hrequest => by
      obtain ⟨supplier, size, hpos, hsupplies⟩ :=
        hprovides request.number ((hmem _).mp (List.mem_map_of_mem hrequest)) .right
      exact ⟨supplier, size, hsupplies, hpos, hsupplies.space hsizes hroom,
        fun args => (hfits request hrequest).length_eq hsizes hsupplies⟩
  generalize List.foldl _ d₁ _ = d₂ at hd₂ ⊢
  have hsent₂ : d₂.sent .right = answers.map Answer.packet := by
    rw [hd₂.sent, hd₁.sent_of_ne (by decide)]
    rfl
  rw [hsent₂]
  rw [List.map_map] at hnodup hmem hg₁
  -- and the answers are given to those who wait for them
  have hleft₂ : AtRest tables config parent .left (fun m => m ∈ answers.map (·.number)) d₂ := by
    rw [AtRest, hd₂.now, hd₂.layer_of_ne _ (by decide), hd₁.now, hd₁.layer]
    exact hg₁
  obtain ⟨replies, rfl, g₃, around₃, hd₃, hg₃, hrecord₃⟩ :=
    feed_answers limit handle hleft₂ hsize hpositive htimeout hnodup fun answer hanswer => by
      have hin : answer.number ∈ answers.map (·.number) := List.mem_map_of_mem hanswer
      obtain ⟨hanswered, hpos⟩ := hanswers answer hanswer
      obtain ⟨message, hmessage, hhandler, hlength⟩ :=
        Answer.awaited hsizes (hfits _ (List.mem_map_of_mem hanswer)) hanswered
      exact ⟨hin, message, hmessage, hhandler, List.ne_nil_of_length_pos hpos, hlength⟩
  generalize List.foldl _ d₂ _ = d₃ at hd₃ ⊢
  have hrest₃ : ∀ who, AtRest tables config parent who (fun _ => False) d₃ := by
    intro who
    cases who with
    | left =>
        refine .of_changes hd₃ (hg₃.congr_locked fun m => ?_)
        simp
    | right =>
        rw [AtRest, hd₃.now, hd₃.layer_of_ne _ (by decide), hd₂.now, hd₂.layer]
        exact hg₂
  refine ⟨⟨replies, ?_, fun m => ?_, fun reply hreply => ?_, ?_⟩, fun who m => ?_, fun who => ?_,
    silent_of_atRest hpositive hrest₃⟩
  · simpa [Function.comp_def] using hnodup
  · simpa [Function.comp_def] using hmem m
  · have hanswer : reply.toAnswer ∈ replies.map Reply.toAnswer := List.mem_map_of_mem hreply
    obtain ⟨message, hmessage, hhandler, hlength⟩ := (hanswers _ hanswer).1.message
    exact ⟨hfits _ (List.mem_map_of_mem hanswer), message, hmessage, hhandler, hlength.symm⟩
  · rw [hd₃.around, hrecord₃, hd₂.around, hrecord₂, hd₁.around, hrecord₁]
    simp [d, Function.comp_def, List.flatMap_map]
  · exact Bool.eq_false_iff.mpr fun hlocked => ((hrest₃ who).locked m).mp hlocked
  · rw [queued, Outbound.size, (hrest₃ who).order]
    rfl

/-- A new layer is calm if its catalog queues nothing by itself. -/
theorem calm_of_queued {table : Table η} {config : Config} {parent : Option Neighbour}
    (h : (begun table config parent).queued = 0) :
    Calm table config (.begun table config parent) where
  reached := ⟨Unit, .ample 256, 0, _, ⟨pure (), parent, (), 0, .pure _, rfl⟩, rfl⟩
  queued := h
  unlocked number := by rw [Messenger.isLocked, Messenger.lock?_begun, Option.isSome_none]
  inbox := rfl
  running := rfl

section TwoMessages

/-- A catalog of two messages. The handler of a message is given by the number of bytes that it
supplies. -/
def twoMessages : Table Nat where
  messages := [
    { descriptor := { source := "a", tokens := [.literal "a"] }, size := 1, handler := some 1,
      priority := 0 },
    { descriptor := { source := "b", tokens := [.literal "b"] }, size := 2, handler := some 2,
      priority := 0 },
    { descriptor := { source := "%!", tokens := [.terminator] }, size := 0, handler := none,
      priority := 0 }]

/-- Each side supplies a byte of its own, as often as a message has room for it. -/
def repeating (who : Peer) (size : Nat) : Option Bytes → StateM Unit (Option Bytes) :=
  fun _ => pure (some (List.replicate size (if who = .left then 0xAA else 0xBB)))

/-- Both messages are to be echoed, and the later one is queued first. -/
def echoes : Dialogue Nat (Unit × List (Service Nat)) :=
  .converse (recording 256 (fun _ => 0) repeating) [1, 0] .updateArgs
    { layer := fun _ => .begun twoMessages {} none, now := fun _ => 7, around := ((), []) }

theorem provides_repeating (who : Peer) {number : Nat} (hmem : number ∈ [1, 0]) :
    ∃ handler size, 1 ≤ size ∧ Provides twoMessages (repeating who) number handler size := by
  refine ⟨number + 1, number + 1, Nat.le_add_left 1 number, ?_,
    fun _ around => ⟨_, around, rfl, List.length_replicate⟩⟩
  rcases List.mem_pair.mp hmem with rfl | rfl <;> exact ⟨_, rfl, rfl, rfl⟩

theorem calm_twoMessages : Calm twoMessages {} (.begun twoMessages {} none) :=
  calm_of_queued (by decide +kernel)

/-- The one with the lower number goes first. Each is echoed with the bytes of the other side. -/
theorem exchanged_twoMessages :
    Exchanged (fun _ => twoMessages) (recording 256 (fun _ => 0) repeating) [1, 0] .updateArgs
      echoes ∧
    echoes.around.2.map (fun s => (s.who, s.input, s.output)) =
      [(.left, none, some [0xAA]), (.left, none, some [0xAA, 0xAA]),
        (.right, some [0xAA], some [0xBB]), (.right, some [0xAA, 0xAA], some [0xBB, 0xBB]),
        (.left, some [0xBB], some [0xAA]), (.left, some [0xBB, 0xBB], some [0xAA, 0xAA])] :=
  have htimeout : 0 < ({} : Config).queryTimeout := by decide
  ⟨exchanged_converse (fun _ => 0) (by decide) rfl (by decide) htimeout (by decide) (.inr rfl)
    (fun _ hmem who => provides_repeating who hmem) (fun _ => calm_twoMessages) (fun _ => 7) (),
    by decide +kernel⟩

end TwoMessages

end LinkStack.Exchange
