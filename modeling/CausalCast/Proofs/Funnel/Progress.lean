import CausalCast.Proofs.Funnel.Runs
import CausalCast.Proofs.Link.Progress

/-!
# What a funnel can always do

Over faultless wires whatever waits in a sending queue can be brought to the
node that it is meant for, and the receiver's acknowledgement of data back to
the owner.  A node that knows all its messages to be received can let go of
them.  Nothing is produced on the way.
-/

namespace CausalCast

namespace Funnel

/-! ## What is kept -/

/-- Two funnels with one thing to do. -/
structure SameTask (before after : Funnel) : Prop where
  membership_eq : after.membership = before.membership
  receiver_eq : after.receiver = before.receiver
  messages_eq : after.messages = before.messages

theorem SameTask.trans {first second third : Funnel}
    (left : SameTask first second) (right : SameTask second third) :
    SameTask first third :=
  ⟨right.membership_eq.trans left.membership_eq,
    right.receiver_eq.trans left.receiver_eq,
    right.messages_eq.trans left.messages_eq⟩

/-- What steps that produce nothing leave as it is, and what nodes do not
forget. -/
structure Keeps (before after : Funnel) : Prop extends
    SameTask before after where
  enqueued_eq : ∀ id, (after.node id).enqueued = (before.node id).enqueued
  contains : ∀ id sender message,
    (before.node id).tracker.contains sender message = true →
      (after.node id).tracker.contains sender message = true

theorem Keeps.refl (funnel : Funnel) : Keeps funnel funnel :=
  ⟨⟨rfl, rfl, rfl⟩, fun _ => rfl, fun _ _ _ known => known⟩

theorem Keeps.trans {first second third : Funnel}
    (left : Keeps first second) (right : Keeps second third) :
    Keeps first third := by
  constructor
  · exact left.toSameTask.trans right.toSameTask
  · intro id
    exact (right.enqueued_eq id).trans (left.enqueued_eq id)
  · intro id sender message known
    exact right.contains _ _ _ (left.contains id sender message known)

theorem Keeps.of_update {before : Funnel} {id : NodeId} {link : Link}
    (enqueued : link.node.enqueued = (before.node id).enqueued)
    (contains : ∀ sender message,
      (before.node id).tracker.contains sender message = true →
        link.node.tracker.contains sender message = true)
    (air : List Consignment) : Keeps before (before.update id link air) := by
  constructor
  · exact ⟨rfl, rfl, rfl⟩
  · intro other
    rcases before.node_update_or id link air other with
      ⟨rfl, moved⟩ | ⟨_, still⟩
    · rw [moved]
      exact enqueued
    · rw [still]
  · intro other
    rcases before.node_update_or id link air other with
      ⟨rfl, moved⟩ | ⟨_, still⟩
    · rw [moved]
      exact contains
    · rw [still]
      exact fun _ _ known => known

theorem Keeps.sent {before after : Funnel} (keeps : Keeps before after)
    {message : MessageId} (sent : after.Sent message) :
    before.Sent message := by
  refine ⟨?_, ?_, sent.positive, ?_⟩
  · rw [← keeps.membership_eq]
    exact sent.member
  · rw [← keeps.receiver_eq]
    exact sent.other
  · rw [← keeps.enqueued_eq]
    exact sent.bound

/-- A node knows all that it has sent to be received. -/
def Informed (funnel : Funnel) (id : NodeId) : Prop :=
  ∀ message, funnel.Sent message → message.owner = id →
    (funnel.node id).tracker.contains funnel.receiver message = true

theorem Keeps.informed {before after : Funnel} (keeps : Keeps before after)
    {id : NodeId} (informed : before.Informed id) : after.Informed id := by
  intro message sent own
  rw [keeps.receiver_eq]
  exact keeps.contains _ _ _ (informed message (keeps.sent sent) own)

/-- Among what is in the air are some datagrams, whoever they are meant for. -/
def Carries (air : List Consignment) (datagrams : List Datagram) : Prop :=
  ∀ datagram ∈ datagrams, ∃ consignment ∈ air, consignment.datagram = datagram

theorem reachable_of_course {funnel : Funnel} (reachable : funnel.Reachable)
    {id : NodeId} (member : funnel.membership.contains id = true) {after : Link}
    {sent : List Datagram}
    (course : Link.Course (funnel.links id) after sent) :
    ∃ air, Carries air sent ∧ (funnel.update id after air).Reachable := by
  induction course with
  | start =>
      refine ⟨funnel.air, by simp [Carries], ?_⟩
      rw [update_self]
      exact reachable
  | @sender link final sent datagrams outcomes _ step induction =>
      obtain ⟨air, carries, reachable⟩ := induction
      rw [← funnel.links_update_self id link air] at step
      have moved := reachable.step (.sender id outcomes member step)
      rw [update_update, links_update_self] at moved
      refine ⟨_, ?_, moved⟩
      intro datagram left
      rcases List.mem_append.mp left with old | new
      · obtain ⟨consignment, aloft, same⟩ := carries datagram old
        exact ⟨consignment, List.mem_append_left _ aloft, same⟩
      · rw [links_update_self] at step
        obtain ⟨flight, flying, _⟩ :=
          (Link.senderMove_of_stepSender step).flight_of_left new
        refine ⟨⟨flight.message.recipient, datagram⟩, ?_, rfl⟩
        apply List.mem_append_right
        simp [Link.consign, Link.inFlight_of_flying flying, new]
  | @retransmitter link final sent _ step induction =>
      obtain ⟨air, carries, reachable⟩ := induction
      rw [← funnel.links_update_self id link air] at step
      have moved := reachable.step (.retransmitter id member step)
      rw [update_update] at moved
      exact ⟨air, carries, moved⟩
  | @tick link sent _ induction =>
      obtain ⟨air, carries, reachable⟩ := induction
      have moved := reachable.step (.tick id member)
      rw [update_update, links_update_self] at moved
      exact ⟨air, carries, moved⟩

/-- A reachable funnel with faultless wires, in which nobody has sent more than
there is to send, and all messages fit in datagrams. -/
structure Healthy (funnel : Funnel) : Prop where
  reachable : funnel.Reachable
  faultless : ∀ id, funnel.membership.contains id = true →
    (funnel.links id).station.simulator.Faultless
  bounded : ∀ id, funnel.membership.contains id = true →
    id ≠ funnel.receiver → (funnel.node id).enqueued ≤ funnel.messages
  fits : ∀ message, message.uid ≤ funnel.messages →
    (funnel.firstCopy message).encodedLength ≤ Payload.maxDatagram

namespace Healthy

variable {funnel : Funnel} (healthy : funnel.Healthy)

include healthy

theorem invariant : funnel.Invariant :=
  invariant_of_reachable healthy.reachable

theorem encodedLength_le {payload : Payload}
    (genuine : funnel.Genuine payload) :
    payload.encodedLength ≤ Payload.maxDatagram := by
  have sent := genuine.sent
  have fits := healthy.fits payload.message
    (Nat.le_trans sent.bound (healthy.bounded _ sent.member sent.other))
  rw [← genuine.original_eq] at fits
  exact fits

theorem update {id : NodeId} (member : funnel.membership.contains id = true)
    {link : Link} {air : List Consignment}
    (reachable : (funnel.update id link air).Reachable)
    (faultless : (funnel.links id).station.simulator.Faultless →
      link.station.simulator.Faultless)
    (bounded : id ≠ funnel.receiver →
      link.node.enqueued ≤ funnel.messages) :
    (funnel.update id link air).Healthy := by
  refine ⟨reachable, ?_, ?_, healthy.fits⟩
  · intro other otherMember
    rcases funnel.links_update_or id link air other with
      ⟨rfl, moved⟩ | ⟨_, still⟩
    · rw [moved]
      exact faultless (healthy.faultless other member)
    · rw [still]
      exact healthy.faultless other otherMember
  · intro other otherMember different
    rcases funnel.node_update_or id link air other with
      ⟨rfl, moved⟩ | ⟨_, still⟩
    · rw [moved]
      exact bounded different
    · rw [still]
      exact healthy.bounded other otherMember different

theorem exists_flushed {id : NodeId}
    (member : funnel.membership.contains id = true) :
    ∃ link sent air, Link.Flushed (funnel.links id) link sent ∧
      Carries air sent ∧ (funnel.update id link air).Healthy ∧
      Keeps funnel (funnel.update id link air) := by
  obtain ⟨_, sound⟩ := healthy.invariant.links id member
  obtain ⟨link, sent, flushed⟩ :=
    Link.exists_flushed sound.node.proper (healthy.faultless id member)
  obtain ⟨air, carries, reachable⟩ :=
    reachable_of_course healthy.reachable member flushed.course
  have only := flushed.course.queuesOnly
  refine ⟨link, sent, air, flushed, carries,
    healthy.update member reachable flushed.course.faultless ?_,
    .of_update only.enqueued_eq ?_ air⟩
  · rw [only.enqueued_eq]
    exact healthy.bounded id member
  · rw [only.tracker_eq]
    exact fun _ _ known => known

theorem exists_arrived {consignment : Consignment}
    (aloft : consignment ∈ funnel.air) {payload : Payload}
    (bytes : consignment.datagram.bytes = payload.toBytes)
    (genuine : funnel.Genuine payload) :
    ∃ after, Keeps funnel after ∧ after.Healthy ∧
      after.node consignment.recipient =
        (funnel.node consignment.recipient).handlePayload payload := by
  obtain ⟨index, found⟩ := List.mem_iff_getElem?.mp aloft
  have borne := healthy.invariant.air consignment aloft
  have member := borne.member
  have proper := (healthy.invariant.nodeSound member).proper
  have step := healthy.reachable.step
    (.arrive consignment.recipient index found ⟨borne.addressed, .inr rfl⟩)
  rw [bytes, healthy.invariant.handleDatagram_eq member
    (healthy.encodedLength_le genuine) genuine] at step
  have enqueued : ((funnel.node consignment.recipient).handlePayload
      payload).enqueued = (funnel.node consignment.recipient).enqueued := by
    rw [(Node.queuesOnly_handlePayload proper payload).enqueued_eq,
      (Node.learns_heard _ payload).node_eq]
  refine ⟨_, .of_update ?_ ?_ _, healthy.update member step id ?_, ?_⟩
  · exact enqueued
  · intro sender message known
    exact Node.contains_handlePayload proper payload known
  · rw [Link.node_withNode, enqueued]
    exact healthy.bounded _ member
  · rw [node_update_self, Link.node_withNode]

theorem posted_of_aloft {consignment : Consignment}
    (aloft : consignment ∈ funnel.air) {payload : Payload}
    (bytes : consignment.datagram.bytes = payload.toBytes)
    (length : payload.clock.length = funnel.membership.clockLength) :
    funnel.Posted payload.sender payload consignment.recipient := by
  obtain ⟨borne, read, _, posted⟩ :=
    (healthy.invariant.air consignment aloft).posted
  obtain rfl : payload = borne := by
    apply Payload.toBytes_injective
    · rw [length, posted.genuine.length_clock]
    · rw [← bytes, read]
  exact posted

/-- What waits in a sending queue can be brought to its recipient, which then
knows the sender as a witness, and answers if it is data. -/
theorem exists_handled {id : NodeId}
    (member : funnel.membership.contains id = true) {message : Message}
    (queued : message ∈ (funnel.node id).sending.toList) :
    ∃ after, Keeps funnel after ∧ after.Healthy ∧
      (after.node message.recipient).tracker.contains id
        message.payload.message = true ∧
      (message.isData = true →
        ∃ answer ∈ (after.node message.recipient).sending.toList,
          answer.payload = (message.payload.stamped id).toAck ∧
            answer.recipient = id) := by
  obtain ⟨_, sound⟩ := healthy.invariant.links id member
  have posted := sound.pipeline message (Link.mem_pipeline.mpr (.inl queued))
  have recipientMember :=
    posted.recipient_member healthy.invariant.receiver_member
  have me : (funnel.node id).me = id := sound.node.me_eq
  obtain ⟨link, sent, air, flushed, carries, flushedHealthy, flushing⟩ :=
    healthy.exists_flushed member
  obtain ⟨address, _, left⟩ : (funnel.node id).Sent message sent := by
    rcases flushed.gone message queued with abandoned | left
    · exfalso
      apply Node.departure_ne_abandoned _ _ abandoned
      · rw [sound.node.membership_eq]
        exact recipientMember
      · exact healthy.encodedLength_le posted.genuine
    · exact left
  rw [me] at left
  obtain ⟨consignment, aloft, same⟩ := carries _ left
  have bytes : consignment.datagram.bytes =
      (message.payload.stamped id).toBytes := by
    rw [same]
  have arriving := flushedHealthy.posted_of_aloft aloft bytes
    posted.genuine.length_clock
  have meant : consignment.recipient = message.recipient := by
    rw [arriving.recipient_eq, posted.recipient_eq]
    rfl
  obtain ⟨after, arrival, afterHealthy, handled⟩ :=
    flushedHealthy.exists_arrived aloft bytes arriving.genuine
  rw [meant] at handled
  have recipientSound :=
    flushedHealthy.invariant.nodeSound recipientMember
  have valid := recipientSound.problem?_eq_none member arriving.genuine
  refine ⟨after, flushing.trans arrival, afterHealthy, ?_, ?_⟩
  · rw [handled]
    exact Node.contains_sender_handlePayload recipientSound.proper _ valid
  · intro data
    rw [Message.isData, Bool.not_eq_true'] at data
    rw [handled]
    exact Node.exists_ack_of_handlePayload recipientSound.proper valid data

/-- What a node has to send it can come to know as received. -/
theorem exists_acknowledged {id : NodeId}
    (member : funnel.membership.contains id = true) {message : Message}
    (queued : message ∈ (funnel.node id).sending.toList)
    (data : message.isData = true) :
    ∃ after, Keeps funnel after ∧ after.Healthy ∧
      (after.node id).tracker.contains funnel.receiver
        message.payload.message = true := by
  have target := (healthy.invariant.data_of_mem_pipeline member
    (Link.mem_pipeline.mpr (.inl queued)) data).2.2
  obtain ⟨handled, kept, handledHealthy, _, answers⟩ :=
    healthy.exists_handled member queued
  obtain ⟨answer, answering, copy, back⟩ := answers data
  have answerer : handled.membership.contains message.recipient = true := by
    rw [target, kept.membership_eq]
    exact healthy.invariant.receiver_member
  obtain ⟨after, later, afterHealthy, known, _⟩ :=
    handledHealthy.exists_handled answerer answering
  refine ⟨after, kept.trans later, afterHealthy, ?_⟩
  rw [back, copy, target] at known
  exact known

/-- A node that knows all that it has sent to be received can let go of it,
while all others do nothing. -/
theorem exists_idle {id : NodeId}
    (member : funnel.membership.contains id = true)
    (informed : funnel.Informed id) :
    ∃ after, Keeps funnel after ∧ after.Healthy ∧
      (after.node id).unacked = 0 ∧
      ∀ other, other ≠ id → after.node other = funnel.node other := by
  obtain ⟨link, sent, air, flushed, _, flushedHealthy, kept⟩ :=
    healthy.exists_flushed member
  refine ⟨_, kept, flushedHealthy, ?_, fun other different =>
    node_update_of_ne _ _ _ _ different⟩
  apply flushedHealthy.invariant.unacked_eq_zero member
  intro message listed data
  obtain ⟨wasSent, own, target⟩ :=
    flushedHealthy.invariant.data_of_mem_pipeline member listed data
  rw [links_update_self, Link.pipeline, flushed.sending_eq,
    Link.inFlight_of_empty flushed.flight_eq, flushed.held_eq] at listed
  have waiting : message ∈ link.node.retransmissions.toList := by
    simpa using listed
  have unknown := (flushed.waiting message waiting).1
  have received := informed _ (kept.sent wasSent) own
  rw [Node.isAcknowledged, target] at unknown
  exact Bool.false_ne_true (unknown.symm.trans received)

end Healthy

end Funnel

end CausalCast
