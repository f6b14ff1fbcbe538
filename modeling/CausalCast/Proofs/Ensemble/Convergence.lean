import CausalCast.Proofs.Ensemble.Completeness
import CausalCast.Proofs.Link.Progress
import Mathlib.Data.List.ProdSigma
import Mathlib.Tactic.Choose

/-!
# Idleness is within reach

Over faultless wires every reachable ensemble can become idle again without
another origination.  A link is flushed; if data is left in it, its datagram is
taken to the recipient and the acknowledgement back, so that one node learns
that another has seen a message.  There is only so much to learn.
-/

namespace CausalCast

namespace Ensemble

/-- The states that an ensemble can come to without another origination. -/
abbrev Leads : Ensemble → Ensemble → Prop :=
  Relation.ReflTransGen Quiet

section Courses

variable (ensemble : Ensemble) (id : NodeId)

theorem setLink_self :
    { ensemble.setLink id (ensemble.links id) with air := ensemble.air } =
      ensemble := by
  simp [setLink]

theorem setLink_setLink (first second : Link) (air more : List Datagram) :
    { ({ ensemble.setLink id first with air := air } : Ensemble).setLink id
      second with air := more } =
        { ensemble.setLink id second with air := more } := by
  simp [setLink]

theorem links_setLink (link : Link) (air : List Datagram) :
    ({ ensemble.setLink id link with air := air } : Ensemble).links id =
      link := by
  simp [setLink]

theorem leads_of_course (member : ensemble.membership.contains id = true)
    {after : Link} {sent : List Datagram}
    (course : Link.Course (ensemble.links id) after sent) :
    ensemble.Leads
      { ensemble.setLink id after with air := ensemble.air ++ sent } := by
  induction course with
  | start =>
      rw [List.append_nil, setLink_self]
  | @sender link final sent datagrams outcomes _ step induction =>
      apply induction.tail
      rw [← ensemble.links_setLink id link (ensemble.air ++ sent)] at step
      have moved := @Quiet.sender { ensemble.setLink id link with
        air := ensemble.air ++ sent } id outcomes final datagrams member step
      rw [setLink_setLink, List.append_assoc] at moved
      exact moved
  | @retransmitter link final sent _ step induction =>
      apply induction.tail
      rw [← ensemble.links_setLink id link (ensemble.air ++ sent)] at step
      have moved := @Quiet.retransmitter { ensemble.setLink id link with
        air := ensemble.air ++ sent } id final member step
      have same := ensemble.setLink_setLink id link final
        (ensemble.air ++ sent) (ensemble.air ++ sent)
      exact same ▸ moved
  | @tick link sent _ induction =>
      apply induction.tail
      have moved := @Quiet.tick { ensemble.setLink id link with
        air := ensemble.air ++ sent } id member
      have same := ensemble.setLink_setLink id link link.tick
        (ensemble.air ++ sent) (ensemble.air ++ sent)
      rw [links_setLink] at moved
      exact same ▸ moved

end Courses

/-! ## What quiet steps keep -/

/-- An ensemble with faultless wires, all of whose messages fit in
datagrams. -/
structure Healthy (ensemble : Ensemble) : Prop where
  invariant : ensemble.Invariant
  faultless : ∀ id, ensemble.membership.contains id = true →
    (ensemble.links id).station.simulator.Faultless
  fits : ∀ payload ∈ ensemble.messages,
    payload.encodedLength ≤ Payload.maxDatagram

theorem Healthy.quiet {before after : Ensemble} (healthy : before.Healthy)
    (step : Quiet before after) : after.Healthy := by
  refine ⟨healthy.invariant.quiet step, ?_, ?_⟩
  · intro id member
    rw [step.membership_eq] at member
    have faultless := healthy.faultless id member
    have effect := step.effect id
    generalize after.links id = link at effect ⊢
    cases effect with
    | none => exact faultless
    | sender step => exact (Link.model_stepSender step).trans faultless
    | retransmitter step =>
        exact (Link.model_stepRetransmitter step).trans faultless
    | tick => exact faultless
    | arrive => exact faultless
  · rw [messages, step.history_eq]
    exact healthy.fits

/-- No node forgets a witness. -/
theorem Invariant.contains_of_quiet {before after : Ensemble}
    (invariant : before.Invariant) (step : Quiet before after) {id : NodeId}
    (member : before.membership.contains id = true) {sender : NodeId}
    {message : MessageId}
    (known : (before.node id).tracker.contains sender message = true) :
    (after.node id).tracker.contains sender message = true := by
  have proper := (invariant.nodeSound member).proper
  have effect := step.effect id
  unfold node
  generalize after.links id = link at effect ⊢
  cases effect with
  | none => exact known
  | sender step =>
      rw [(Link.senderMove_of_stepSender step).queuesOnly.tracker_eq]
      exact known
  | retransmitter step =>
      rw [(Link.retransmitterMove_of_stepRetransmitter
        step).queuesOnly.tracker_eq]
      exact known
  | tick => exact known
  | arrive aloft =>
      obtain ⟨payload, bytes, fits, vouched⟩ := invariant.air _ aloft
      rw [Link.node_withNode,
        invariant.handleDatagram_eq member bytes fits vouched]
      exact Node.contains_handlePayload proper payload known

/-- What an ensemble keeps on its way without another origination. -/
structure Keeps (before after : Ensemble) : Prop where
  healthy : after.Healthy
  membership_eq : after.membership = before.membership
  graph_eq : after.graph = before.graph
  history_eq : after.history = before.history
  contains : ∀ id, before.membership.contains id = true →
    ∀ sender message,
      (before.node id).tracker.contains sender message = true →
        (after.node id).tracker.contains sender message = true

theorem Healthy.keeps {before after : Ensemble} (healthy : before.Healthy)
    (leads : before.Leads after) : before.Keeps after := by
  induction leads with
  | refl => exact ⟨healthy, rfl, rfl, rfl, fun _ _ _ _ known => known⟩
  | tail _ step induction =>
      refine ⟨induction.healthy.quiet step,
        step.membership_eq.trans induction.membership_eq,
        step.graph_eq.trans induction.graph_eq,
        step.history_eq.trans induction.history_eq, ?_⟩
      intro id member sender message known
      apply induction.healthy.invariant.contains_of_quiet step
      · rw [induction.membership_eq]
        exact member
      · exact induction.contains id member sender message known

theorem Keeps.messages_eq {before after : Ensemble}
    (keeps : before.Keeps after) : after.messages = before.messages := by
  rw [messages, messages, keeps.history_eq]

theorem Keeps.vouched {before after : Ensemble} (keeps : before.Keeps after)
    {id : NodeId} {payload : Payload} (vouched : before.Vouched id payload) :
    after.Vouched id payload := by
  refine ⟨?_, ?_, keeps.contains id vouched.member _ _ vouched.saw⟩
  · rw [keeps.messages_eq]
    exact vouched.genuine
  · rw [keeps.membership_eq]
    exact vouched.member

/-! ## One more thing learned -/

/-- A node does not know yet that another has seen one of the messages. -/
structure Unlearned (ensemble : Ensemble) (id witness : NodeId)
    (message : MessageId) : Prop where
  member : ensemble.membership.contains id = true
  witness_member : ensemble.membership.contains witness = true
  genuine : ∃ payload ∈ ensemble.messages, payload.message = message
  unknown : (ensemble.node id).tracker.contains witness message = false

/-- Between two ensembles a node has learned that another has seen one of the
messages. -/
structure Learned (before after : Ensemble) (id witness : NodeId)
    (message : MessageId) : Prop where
  unlearned : before.Unlearned id witness message
  known : (after.node id).tracker.contains witness message = true

theorem Keeps.unlearned {before after : Ensemble} (keeps : before.Keeps after)
    {id witness : NodeId} {message : MessageId}
    (unlearned : after.Unlearned id witness message) :
    before.Unlearned id witness message := by
  have member : before.membership.contains id = true := by
    rw [← keeps.membership_eq]
    exact unlearned.member
  refine ⟨member, ?_, ?_, ?_⟩
  · rw [← keeps.membership_eq]
    exact unlearned.witness_member
  · rw [← keeps.messages_eq]
    exact unlearned.genuine
  · rw [← Bool.not_eq_true]
    intro known
    have later := keeps.contains id member _ _ known
    rw [unlearned.unknown] at later
    contradiction

theorem LinkSound.unacked_eq_zero_of_flushed {ensemble : Ensemble}
    {id : NodeId} {before link : Link} (sound : ensemble.LinkSound id link)
    {sent : List Datagram} (flushed : Link.Flushed before link sent)
    (empty : link.node.retransmissions.toList = []) :
    link.node.unacked = 0 := by
  rw [sound.counted.unacked_eq, Link.pipeline, flushed.sending_eq,
    Link.inFlight_of_empty flushed.flight_eq, empty, flushed.held_eq]
  rfl

namespace Healthy

variable {ensemble : Ensemble} (healthy : ensemble.Healthy)

include healthy

theorem encodedLength_le {id : NodeId} {payload : Payload}
    (vouched : ensemble.Vouched id payload) :
    payload.encodedLength ≤ Payload.maxDatagram :=
  healthy.fits payload.original vouched.genuine

theorem exists_flushed {id : NodeId}
    (member : ensemble.membership.contains id = true) :
    ∃ after sent, ensemble.Leads after ∧
      Link.Flushed (ensemble.links id) (after.links id) sent ∧
      sent ⊆ after.air ∧
      ∀ other, other ≠ id → after.links other = ensemble.links other := by
  have sound := healthy.invariant.nodeSound member
  obtain ⟨link, sent, flushed⟩ :=
    Link.exists_flushed sound.proper (healthy.faultless id member)
  have flushing := ensemble.leads_of_course id member flushed.course
  refine ⟨_, sent, flushing, ?_, List.subset_append_right _ _, ?_⟩
  · rw [links_setLink]
    exact flushed
  · intro other different
    exact Function.update_of_ne different _ _

theorem exists_arrived {id : NodeId} {address : Address} {payload : Payload}
    (known : ensemble.membership.address? id = some address)
    (aloft : ⟨address, payload.toBytes⟩ ∈ ensemble.air)
    (vouched : ensemble.Vouched payload.sender payload) :
    ∃ after, ensemble.Leads after ∧
      after.node id = (ensemble.node id).handlePayload payload := by
  have member : ensemble.membership.contains id = true := by
    rw [← Membership.address?_isSome, known]
    rfl
  obtain ⟨index, found⟩ := List.mem_iff_getElem?.mp aloft
  have arrival := Quiet.arrive id index found known
  rw [healthy.invariant.handleDatagram_eq member rfl
    (healthy.encodedLength_le vouched) vouched] at arrival
  refine ⟨_, .single arrival, ?_⟩
  rw [node, links_setLink, Link.node_withNode]

/-- Data in the air can be answered: its recipient has seen it then, and an
acknowledgement for its sender is in the air. -/
theorem exists_answered {id : NodeId} {address : Address} {payload : Payload}
    (known : ensemble.membership.address? id = some address)
    (aloft : ⟨address, payload.toBytes⟩ ∈ ensemble.air)
    (vouched : ensemble.Vouched payload.sender payload)
    (data : payload.isAck = false) :
    ∃ after home, ensemble.Leads after ∧ after.Vouched id payload ∧
      after.membership.address? payload.sender = some home ∧
      ⟨home, (payload.toAck.stamped id).toBytes⟩ ∈ after.air := by
  have member : ensemble.membership.contains id = true := by
    rw [← Membership.address?_isSome, known]
    rfl
  have sound := healthy.invariant.nodeSound member
  have valid := sound.problem?_eq_none healthy.invariant.chronicle vouched
  obtain ⟨arrived, arrival, handled⟩ :=
    healthy.exists_arrived known aloft vouched
  have kept := healthy.keeps arrival
  have arrivedMember : arrived.membership.contains id = true := by
    rw [kept.membership_eq]
    exact member
  have arrivedSound := kept.healthy.invariant.nodeSound arrivedMember
  obtain ⟨answer, queued, copy, recipient⟩ :=
    Node.exists_ack_of_handlePayload sound.proper valid data
  rw [← handled] at queued
  obtain ⟨seen, home⟩ :=
    (kept.healthy.invariant.links id arrivedMember).pipeline answer
      (Link.mem_pipeline.mpr (.inl queued))
  obtain ⟨after, sent, flushing, flushed, aloftThen, _⟩ :=
    kept.healthy.exists_flushed arrivedMember
  have final := kept.healthy.keeps flushing
  rcases flushed.gone answer queued with abandoned | left
  · exfalso
    apply Node.departure_ne_abandoned _ _ abandoned
    · change (arrived.node id).membership.contains _ = _
      rw [arrivedSound.membership_eq]
      exact home
    · exact kept.healthy.encodedLength_le seen
  · obtain ⟨address, way, found⟩ := left
    change (arrived.node id).membership.address? _ = _ at way
    change (⟨address, (answer.payload.stamped (arrived.node id).me).toBytes⟩ :
      Datagram) ∈ sent at found
    rw [arrivedSound.membership_eq, recipient, ← final.membership_eq] at way
    rw [arrivedSound.me_eq, copy] at found
    have alike : payload.original = answer.payload.original := by
      rw [copy]
      rfl
    exact ⟨after, address, arrival.trans flushing,
      final.vouched (seen.congr alike), way, aloftThen found⟩

/-- When a link was flushed and data is left in it, its node can learn that the
recipient has seen the message. -/
theorem exists_learned {id : NodeId}
    (member : ensemble.membership.contains id = true) {flushed : Ensemble}
    {sent : List Datagram} (flushing : ensemble.Leads flushed)
    (result : Link.Flushed (ensemble.links id) (flushed.links id) sent)
    (aloft : sent ⊆ flushed.air) {message : Message}
    (waiting : message ∈ (flushed.node id).retransmissions.toList) :
    ∃ after witness identity, ensemble.Leads after ∧
      ensemble.Learned after id witness identity := by
  have sound := healthy.invariant.nodeSound member
  have kept := healthy.keeps flushing
  have flushedMember : flushed.membership.contains id = true := by
    rw [kept.membership_eq]
    exact member
  have link := kept.healthy.invariant.links id flushedMember
  obtain ⟨vouched, recipient⟩ := link.pipeline message
    (Link.mem_pipeline.mpr (.inr (.inr (.inl waiting))))
  have data := link.counted.data message (List.mem_append_left _ waiting)
  obtain ⟨unseen, address, known, left⟩ := result.waiting message waiting
  change (ensemble.node id).membership.address? _ = _ at known
  change (⟨address, (message.payload.stamped (ensemble.node id).me).toBytes⟩ :
    Datagram) ∈ sent at left
  rw [sound.membership_eq, ← kept.membership_eq] at known
  rw [sound.me_eq] at left
  have isData : (message.payload.stamped id).isAck = false := by
    simp only [Message.isData, Bool.not_eq_true'] at data
    exact data
  obtain ⟨answered, home, answering, seen, way, found⟩ :=
    kept.healthy.exists_answered known (aloft left) (vouched.congr rfl) isData
  change answered.membership.address? id = some home at way
  have answeredKept := kept.healthy.keeps answering
  have answeredMember : answered.membership.contains id = true := by
    rw [answeredKept.membership_eq]
    exact flushedMember
  have acknowledged : answered.Vouched message.recipient
      ((message.payload.stamped id).toAck.stamped message.recipient) :=
    seen.congr rfl
  obtain ⟨after, arrival, handled⟩ :=
    answeredKept.healthy.exists_arrived way found acknowledged
  have reader := answeredKept.healthy.invariant.nodeSound answeredMember
  have valid := reader.problem?_eq_none
    answeredKept.healthy.invariant.chronicle acknowledged
  refine ⟨after, message.recipient, message.payload.message,
    (flushing.trans answering).trans arrival, ⟨member, ?_, ?_, unseen⟩, ?_⟩
  · rw [← kept.membership_eq]
    exact recipient
  · rw [← kept.messages_eq]
    exact ⟨message.payload.original, vouched.genuine, rfl⟩
  · rw [handled]
    exact Node.contains_sender_handlePayload reader.proper _ valid

/-- Several nodes can be made idle, unless one of them learns something on the
way. -/
theorem exists_swept (ids : List NodeId)
    (members : ∀ id ∈ ids, ensemble.membership.contains id = true) :
    ∃ after, ensemble.Leads after ∧
      ((∀ id ∈ ids, (after.node id).unacked = 0) ∨
        ∃ id witness message, ensemble.Learned after id witness message) := by
  induction ids with
  | nil => exact ⟨ensemble, .refl, .inl (by simp)⟩
  | cons id rest induction =>
      obtain ⟨middle, path, result⟩ := induction
        (fun other listed => members other (List.mem_cons_of_mem _ listed))
      have kept := healthy.keeps path
      rcases result with idle | learned
      · have member : middle.membership.contains id = true := by
          rw [kept.membership_eq]
          exact members id List.mem_cons_self
        obtain ⟨after, sent, flushing, flushed, aloft, others⟩ :=
          kept.healthy.exists_flushed member
        cases left : (after.node id).retransmissions.toList with
        | nil =>
            refine ⟨after, path.trans flushing, .inl ?_⟩
            have afterKept := kept.healthy.keeps flushing
            intro other listed
            by_cases same : other = id
            · subst same
              have afterMember : after.membership.contains other = true := by
                rw [afterKept.membership_eq]
                exact member
              exact (afterKept.healthy.invariant.links other
                afterMember).unacked_eq_zero_of_flushed flushed left
            · have unmoved : after.node other = middle.node other :=
                congrArg Link.node (others other same)
              rw [unmoved]
              exact idle other ((List.mem_cons.mp listed).resolve_left same)
        | cons message more =>
            obtain ⟨final, witness, identity, later, learned⟩ :=
              kept.healthy.exists_learned member flushing flushed aloft
                (by rw [left]; exact List.mem_cons_self)
            exact ⟨final, path.trans later,
              .inr ⟨id, witness, identity, kept.unlearned learned.unlearned,
                learned.known⟩⟩
      · exact ⟨middle, path, .inr learned⟩

end Healthy

/-- Whatever there is left to learn, a healthy ensemble can become idle: either
all nodes become idle in turn, or one of them learns something first. -/
theorem Healthy.exists_idle_of_covers {ensemble : Ensemble}
    (healthy : ensemble.Healthy) (todo : List (NodeId × NodeId × MessageId))
    (covers : ∀ id witness message, ensemble.Unlearned id witness message →
      (id, witness, message) ∈ todo) :
    ∃ after, ensemble.Leads after ∧
      ∀ id, ensemble.membership.contains id = true →
        (after.node id).unacked = 0 := by
  induction length : todo.length using Nat.strongRecOn
    generalizing ensemble todo with
  | ind count induction =>
      obtain ⟨middle, path, result⟩ := healthy.exists_swept
        (ensemble.membership.members.map Member.id) (by
          intro id listed
          obtain ⟨member, inMembers, rfl⟩ := List.mem_map.mp listed
          exact Membership.contains_iff.mpr ⟨member, inMembers, rfl⟩)
      rcases result with idle | ⟨id, witness, message, learned⟩
      · refine ⟨middle, path, ?_⟩
        intro id member
        obtain ⟨listed, inMembers, rfl⟩ := Membership.contains_iff.mp member
        exact idle listed.id (List.mem_map_of_mem inMembers)
      · have kept := healthy.keeps path
        have listed := covers id witness message learned.unlearned
        have fewer : (todo.filter (· ≠ (id, witness, message))).length <
            count := by
          rw [← length]
          apply List.length_filter_lt_length_iff_exists.mpr
          exact ⟨_, listed, by simp⟩
        have coversRest : ∀ id' witness' message',
            middle.Unlearned id' witness' message' →
              (id', witness', message') ∈
                todo.filter (· ≠ (id, witness, message)) := by
          intro id' witness' message' unlearned
          apply List.mem_filter.mpr
          refine ⟨covers _ _ _ (kept.unlearned unlearned), ?_⟩
          rw [decide_eq_true_iff]
          intro same
          obtain ⟨rfl, rest⟩ := Prod.mk.inj same
          obtain ⟨rfl, rfl⟩ := Prod.mk.inj rest
          have known := learned.known
          rw [unlearned.unknown] at known
          contradiction
        obtain ⟨after, later, idle⟩ :=
          induction _ fewer kept.healthy _ coversRest rfl
        refine ⟨after, path.trans later, ?_⟩
        intro other member
        apply idle
        rw [kept.membership_eq]
        exact member

/-- A healthy ensemble can become idle without another origination. -/
theorem Healthy.exists_idle {ensemble : Ensemble} (healthy : ensemble.Healthy) :
    ∃ after, ensemble.Leads after ∧
      ∀ id, ensemble.membership.contains id = true →
        (after.node id).unacked = 0 := by
  have ids : ∀ id, ensemble.membership.contains id = true →
      id ∈ ensemble.membership.members.map Member.id := by
    intro id member
    obtain ⟨listed, inMembers, rfl⟩ := Membership.contains_iff.mp member
    exact List.mem_map_of_mem inMembers
  apply healthy.exists_idle_of_covers
    ((ensemble.membership.members.map Member.id).product
      ((ensemble.membership.members.map Member.id).product
        (ensemble.messages.map Payload.message)))
  intro id witness message unlearned
  apply List.mem_product.mpr
  refine ⟨ids id unlearned.member, List.mem_product.mpr ⟨?_, ?_⟩⟩
  · exact ids witness unlearned.witness_member
  · obtain ⟨payload, listed, rfl⟩ := unlearned.genuine
    exact List.mem_map_of_mem listed

/-! ## Originating and becoming idle -/

theorem Reachable.leads {before after : Ensemble} (reachable : before.Reachable)
    (leads : before.Leads after) : after.Reachable := by
  induction leads with
  | refl => exact reachable
  | tail _ step induction => exact induction.step (.quiet step)

section Originations

variable {ensemble : Ensemble} {id : NodeId}

theorem Healthy.originated (healthy : ensemble.Healthy)
    (member : ensemble.membership.contains id = true)
    {uid : UInt32} {content : List UInt8}
    (next : uid.toNat = ensemble.history.countP (·.origin = id) + 1)
    (room : uid ≠ lastUid)
    (fits : Payload.headerLength + content.length +
      ensemble.membership.clockLength * Payload.entryLength ≤
        Payload.maxDatagram) :
    (ensemble.originated id uid content).Healthy := by
  have sound := healthy.invariant.nodeSound member
  refine ⟨healthy.invariant.originate member next room, ?_, ?_⟩
  · intro other otherMember
    have faultless := healthy.faultless other otherMember
    by_cases same : other = id
    · subst same
      simpa [Ensemble.originated, setLink, Link.withNode] using faultless
    · simpa [Ensemble.originated, setLink, same] using faultless
  · intro payload listed
    simp only [messages, Ensemble.originated, List.map_append,
      List.mem_append] at listed
    rcases listed with old | new
    · exact healthy.fits payload old
    · have length := (sound.follows member content next room).length_clock
      rw [List.mem_singleton.mp new, Payload.encodedLength, length]
      exact fits

/-- A member of a healthy ensemble can originate its next message, and then
all can become idle. -/
theorem Healthy.exists_idle_after_originate (healthy : ensemble.Healthy)
    (reachable : ensemble.Reachable)
    (member : ensemble.membership.contains id = true)
    (uid : UInt32) (content : List UInt8)
    (next : uid.toNat = ensemble.history.countP (·.origin = id) + 1)
    (room : uid ≠ lastUid)
    (fits : Payload.headerLength + content.length +
      ensemble.membership.clockLength * Payload.entryLength ≤
        Payload.maxDatagram) :
    ∃ after, (ensemble.originated id uid content).Keeps after ∧
      after.Reachable ∧
      ∀ other, after.membership.contains other = true →
        (after.node other).unacked = 0 := by
  have proper := (healthy.invariant.nodeSound member).proper
  have made : (ensemble.node id).originate uid content =
      (((ensemble.node id).originate uid content).1,
        .ok ((ensemble.node id).firstCopy uid content)) := by
    rw [Node.originate_eq proper]
  have step : Step ensemble (ensemble.originated id uid content) :=
    .originate id uid content member next room made
  have originated := healthy.originated member next room fits
  obtain ⟨after, leads, idle⟩ := originated.exists_idle
  have keeps := originated.keeps leads
  refine ⟨after, keeps, (reachable.step step).leads leads, ?_⟩
  rw [keeps.membership_eq]
  exact idle

theorem Healthy.encodable (healthy : ensemble.Healthy) :
    ∀ entry ∈ ensemble.history,
      entry.payload.encodedLength ≤ Payload.maxDatagram := by
  intro entry entered
  exact healthy.fits _ (List.mem_map_of_mem entered)

theorem Healthy.informed_of_idle (healthy : ensemble.Healthy)
    (idle : ∀ id, ensemble.membership.contains id = true →
      (ensemble.node id).unacked = 0) : ensemble.Informed :=
  healthy.invariant.informed_of_idle idle healthy.encodable

end Originations

theorem exists_initial {membership : Membership} {graph : CausalityGraph}
    {edges : List (NodeId × List NodeId)}
    (built : CausalityGraph.ofEdges membership.clockLength edges =
      .ok graph) :
    ∃ ensemble : Ensemble, ensemble.Initial ∧ ensemble.Healthy ∧
      ensemble.membership = membership ∧ ensemble.graph = graph := by
  have create : ∀ id, membership.contains id = true →
      ∃ node, Node.create id membership graph (.broadcast 1) {} =
        .ok node := by
    intro id member
    have length := (CausalityGraph.coherent_ofEdges built).2
    simp [Node.create, member, length]
  obtain ⟨listed, inMembers⟩ :=
    List.exists_mem_of_ne_nil _ membership.inhabited
  obtain ⟨node, _⟩ :=
    create listed.id (Membership.contains_iff.mpr ⟨listed, inMembers, rfl⟩)
  have : Nonempty Node := ⟨node⟩
  choose! fresh created using create
  have initial : Initial ⟨membership, graph,
      fun id => Link.idle (Station.new (fresh id)), [], []⟩ := by
    refine ⟨⟨edges, built⟩, ?_, fun _ _ => rfl, fun _ _ => rfl, rfl, rfl⟩
    intro id member
    exact ⟨1, {}, created id member⟩
  refine ⟨_, initial, ⟨invariant_of_initial initial, ?_, ?_⟩, rfl, rfl⟩
  · exact fun _ _ => rfl
  · simp [messages]

/-- Of two nodes, the second of which depends on the first, each can originate
a message in turn, the second after it has delivered the first one's. -/
theorem exists_reachable_pair :
    ∃ ensemble : Ensemble, ensemble.Reachable ∧ ensemble.Healthy ∧
      ensemble.membership = .pair ∧ 1 ∈ ensemble.graph.dependencies 2 ∧
      (∀ id, ensemble.membership.contains id = true →
        (ensemble.node id).unacked = 0) ∧
      ∃ first second cause, ensemble.history = [first, second] ∧
        first.payload.message = ⟨1, 1⟩ ∧ second.payload.message = ⟨2, 1⟩ ∧
        second.origin = 2 ∧ cause ∈ second.delivered ∧
        cause.message = ⟨1, 1⟩ := by
  obtain ⟨graph, built, depends⟩ : ∃ graph, CausalityGraph.ofEdges
      Membership.pair.clockLength [(2, [1])] = .ok graph ∧
        1 ∈ graph.dependencies 2 := ⟨_, rfl, by decide⟩
  obtain ⟨fresh, initial, healthy, membership, same⟩ := exists_initial built
  have member : fresh.membership.contains 1 = true := by
    rw [membership]
    rfl
  have me := (healthy.invariant.nodeSound member).me_eq
  obtain ⟨middle, kept, middleReachable, middleIdle⟩ :=
    healthy.exists_idle_after_originate (.initial initial) member 1 [49]
      (by rw [initial.history_eq]; rfl) (by decide) (by rw [membership]; decide)
  have middleMembership : middle.membership = .pair :=
    kept.membership_eq.trans membership
  have middleHistory : middle.history = [⟨1, (fresh.node 1).firstCopy 1 [49],
      (fresh.node 1).delivered⟩] := by
    rw [kept.history_eq]
    simp [Ensemble.originated, initial.history_eq]
  have other : middle.membership.contains 2 = true := by
    rw [middleMembership]
    rfl
  have otherMe := (kept.healthy.invariant.nodeSound other).me_eq
  obtain ⟨cause, delivered, identity⟩ :=
    kept.healthy.invariant.exists_delivered
      (kept.healthy.informed_of_idle middleIdle) other
      (List.append_nil _).symm ((fresh.node 1).firstCopy 1 [49])
      (by simp [middleHistory])
  obtain ⟨final, finalKept, reachable, idle⟩ :=
    kept.healthy.exists_idle_after_originate middleReachable other 1 [50]
      (by rw [middleHistory]; rfl) (by decide)
      (by rw [middleMembership]; decide)
  refine ⟨final, reachable, finalKept.healthy,
    finalKept.membership_eq.trans middleMembership, ?_, idle,
    ⟨1, (fresh.node 1).firstCopy 1 [49], (fresh.node 1).delivered⟩,
    ⟨2, (middle.node 2).firstCopy 1 [50], (middle.node 2).delivered⟩, cause,
    ?_, ?_, ?_, rfl, delivered, ?_⟩
  · rw [finalKept.graph_eq]
    change 1 ∈ middle.graph.dependencies 2
    rw [kept.graph_eq]
    change 1 ∈ fresh.graph.dependencies 2
    rw [same]
    exact depends
  · rw [finalKept.history_eq]
    simp only [Ensemble.originated, middleHistory]
    rfl
  · rw [Node.message_firstCopy, me]
  · rw [Node.message_firstCopy, otherMe]
  · rw [identity, Node.message_firstCopy, me]

end Ensemble

end CausalCast
