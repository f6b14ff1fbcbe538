import CausalCast.Proofs.Funnel.Progress
import Mathlib.Algebra.Order.BigOperators.Group.List
import Mathlib.Algebra.Order.Ring.Nat
import Mathlib.Tactic.Choose

/-!
# Every funnel can settle

Over faultless wires the nodes of a fresh funnel can send all their messages,
one after the other, each being acknowledged before the next is sent.  In the
end every node knows all that it has sent to be received, and lets go of it.
-/

namespace CausalCast

namespace Funnel

/-- All messages have been sent, and all that was sent is acknowledged. -/
structure Settled (funnel : Funnel) : Prop where
  enqueued_eq : ∀ id, funnel.membership.contains id = true →
    id ≠ funnel.receiver → (funnel.node id).enqueued = funnel.messages
  unacked_eq : ∀ id, funnel.membership.contains id = true →
    (funnel.node id).unacked = 0

/-- A node has sent one more message than before. -/
structure Advances (before after : Funnel) (id : NodeId) : Prop extends
    SameTask before after where
  next : (after.node id).enqueued.toNat = (before.node id).enqueued.toNat + 1
  others : ∀ other, other ≠ id →
    (after.node other).enqueued = (before.node other).enqueued

namespace Advances

variable {before middle after : Funnel} {id : NodeId}

theorem of_update {link : Link} (air : List Consignment)
    (next : link.node.enqueued.toNat =
      (before.node id).enqueued.toNat + 1) :
    Advances before (before.update id link air) id := by
  refine ⟨⟨rfl, rfl, rfl⟩, ?_, ?_⟩
  · rw [node_update_self]
    exact next
  · intro other different
    rw [node_update_of_ne _ _ _ _ different]

theorem keeps (advances : Advances before middle id)
    (keeps : Keeps middle after) : Advances before after id := by
  refine ⟨advances.toSameTask.trans keeps.toSameTask, ?_, ?_⟩
  · rw [keeps.enqueued_eq]
    exact advances.next
  · intro other different
    rw [keeps.enqueued_eq]
    exact advances.others other different

theorem sent (advances : Advances before after id) {message : MessageId}
    (sent : after.Sent message) :
    message = ⟨id, (after.node id).enqueued⟩ ∨ before.Sent message := by
  have member := sent.member
  have other := sent.other
  have bound := sent.bound
  rw [advances.membership_eq] at member
  rw [advances.receiver_eq] at other
  by_cases own : message.owner = id
  · rw [own, advances.next] at bound
    by_cases earlier :
        message.uid.toNat ≤ (before.node message.owner).enqueued.toNat
    · exact .inr ⟨member, other, sent.positive, earlier⟩
    · left
      rw [own] at earlier
      have latest : message.uid = (after.node id).enqueued := by
        apply UInt32.toNat_inj.mp
        rw [advances.next]
        omega
      rw [← latest, ← own]
  · rw [advances.others _ own] at bound
    exact .inr ⟨member, other, sent.positive, bound⟩

end Advances

/-! ## Sending -/

namespace Healthy

variable {funnel : Funnel} (healthy : funnel.Healthy)

include healthy

theorem exists_produced {id : NodeId}
    (member : funnel.membership.contains id = true)
    (other : id ≠ funnel.receiver)
    (more : (funnel.node id).enqueued < funnel.messages) :
    ∃ after, Advances funnel after id ∧ after.Healthy ∧
      (∀ id, (after.node id).tracker = (funnel.node id).tracker) ∧
      ∃ message ∈ (after.node id).sending.toList, message.isData = true ∧
        message.payload.message = ⟨id, (after.node id).enqueued⟩ := by
  have invariant := healthy.invariant
  have opened : (funnel.node id).sending.hasConsumer = true :=
    (invariant.nodeSound member).proper.sendingOpen
  have room : (funnel.node id).enqueued.toNat < funnel.messages.toNat := more
  generalize latest : (funnel.node id).enqueued + 1 = uid
  have next : uid.toNat = (funnel.node id).enqueued.toNat + 1 := by
    rw [← latest, UInt32.toNat_add]
    exact Nat.mod_eq_of_lt (Nat.lt_of_le_of_lt room funnel.messages.toNat_lt)
  have due : uid.toNat ≤ (funnel.node id).production.count := by
    rw [invariant.production_eq member, if_neg (Ne.symm other), next]
    exact room
  have step := healthy.reachable.step
    (.produce id uid member next due (invariant.produceOne_eq member uid))
  have counted : ((funnel.node id).produced (Node.numberedContent uid)
      (funnel.parcel ⟨id, uid⟩)).enqueued = uid :=
    (Node.enqueued_produced opened _ _).trans latest
  have afterHealthy := healthy.update member step (fun same => same) (by
    intro _
    rw [Link.node_withNode, counted]
    exact UInt32.le_iff_toNat_le.mpr (next ▸ room))
  refine ⟨_, .of_update _ ?_, afterHealthy, ?_, ?_⟩
  · rw [Link.node_withNode, counted]
    exact next
  · exact funnel.tracker_update _ _ _ (Node.tracker_produced opened _ _)
  · rw [node_update_self, Link.node_withNode, counted]
    obtain ⟨message, queued, copy⟩ := Node.exists_queued_of_produced opened
      (Node.numberedContent uid) (funnel.parcel ⟨id, uid⟩)
    refine ⟨message, queued, ?_, ?_⟩
    · rw [Message.isData, copy]
      rfl
    · rw [copy]
      rfl

theorem exists_informed (informed : ∀ id, funnel.Informed id) {id : NodeId}
    (member : funnel.membership.contains id = true)
    (other : id ≠ funnel.receiver)
    (more : (funnel.node id).enqueued < funnel.messages) :
    ∃ after, Advances funnel after id ∧ after.Healthy ∧
      ∀ id, after.Informed id := by
  obtain ⟨produced, advances, producedHealthy, tracker, message, queued, data,
    identity⟩ := healthy.exists_produced member other more
  have producer : produced.membership.contains id = true := by
    rw [advances.membership_eq]
    exact member
  obtain ⟨after, kept, afterHealthy, known⟩ :=
    producedHealthy.exists_acknowledged producer queued data
  refine ⟨after, advances.keeps kept, afterHealthy, ?_⟩
  rintro _ earlier sent rfl
  rw [kept.receiver_eq]
  rcases advances.sent (kept.sent sent) with latest | before
  · rw [latest]
    rw [identity] at known
    exact known
  · apply kept.contains
    rw [tracker, advances.receiver_eq]
    exact informed _ earlier before rfl

end Healthy

/-- How many messages the nodes have yet to send. -/
def outstanding (funnel : Funnel) : Nat :=
  (funnel.membership.members.map fun member =>
    funnel.messages.toNat - (funnel.node member.id).enqueued.toNat).sum

theorem Advances.outstanding_lt {before after : Funnel} {id : NodeId}
    (advances : Advances before after id)
    (member : before.membership.contains id = true)
    (more : (before.node id).enqueued < before.messages) :
    after.outstanding < before.outstanding := by
  have room : (before.node id).enqueued.toNat < before.messages.toNat := more
  have next := advances.next
  obtain ⟨listed, inMembers, rfl⟩ := Membership.contains_iff.mp member
  rw [outstanding, outstanding, advances.membership_eq,
    advances.messages_eq]
  apply List.sum_lt_sum
  · intro other _
    by_cases same : other.id = listed.id
    · rw [same]
      omega
    · rw [advances.others _ same]
  · exact ⟨listed, inMembers, by omega⟩

/-- The nodes of an informed funnel can send all their messages. -/
theorem Healthy.exists_all_sent {funnel : Funnel} (healthy : funnel.Healthy)
    (informed : ∀ id, funnel.Informed id) :
    ∃ after, SameTask funnel after ∧ after.Healthy ∧
      (∀ id, after.Informed id) ∧
      ∀ id, after.membership.contains id = true → id ≠ after.receiver →
        (after.node id).enqueued = after.messages := by
  induction left : funnel.outstanding using Nat.strongRecOn
    generalizing funnel with
  | ind count induction =>
      by_cases unsent : ∃ id, funnel.membership.contains id = true ∧
        id ≠ funnel.receiver ∧ (funnel.node id).enqueued < funnel.messages
      · obtain ⟨id, member, other, more⟩ := unsent
        obtain ⟨middle, advances, middleHealthy, middleInformed⟩ :=
          healthy.exists_informed informed member other more
        have fewer := advances.outstanding_lt member more
        obtain ⟨after, task, result⟩ := induction _ (left ▸ fewer)
          middleHealthy middleInformed rfl
        exact ⟨after, advances.toSameTask.trans task, result⟩
      · refine ⟨funnel, ⟨rfl, rfl, rfl⟩, healthy, informed, ?_⟩
        intro id member other
        apply UInt32.le_antisymm (healthy.bounded id member other)
        apply UInt32.not_lt.mp
        intro more
        exact unsent ⟨id, member, other, more⟩

/-! ## Letting go -/

/-- The nodes of an informed funnel can let go of all that they have sent. -/
theorem Healthy.exists_all_idle {funnel : Funnel} (healthy : funnel.Healthy)
    (informed : ∀ id, funnel.Informed id) (ids : List NodeId)
    (members : ∀ id ∈ ids, funnel.membership.contains id = true) :
    ∃ after, Keeps funnel after ∧ after.Healthy ∧
      ∀ id ∈ ids, (after.node id).unacked = 0 := by
  induction ids with
  | nil => exact ⟨funnel, .refl funnel, healthy, by simp⟩
  | cons id rest induction =>
      obtain ⟨middle, kept, middleHealthy, idle⟩ :=
        induction fun other listed =>
          members other (List.mem_cons_of_mem id listed)
      have member : middle.membership.contains id = true := by
        rw [kept.membership_eq]
        exact members id List.mem_cons_self
      obtain ⟨after, later, afterHealthy, done, unmoved⟩ :=
        middleHealthy.exists_idle member (kept.informed (informed id))
      refine ⟨after, kept.trans later, afterHealthy, ?_⟩
      intro other listed
      by_cases same : other = id
      · rw [same]
        exact done
      · rw [unmoved other same]
        exact idle other ((List.mem_cons.mp listed).resolve_left same)

theorem exists_initial {membership : Membership} {receiver : NodeId}
    (member : membership.contains receiver = true) (messages : UInt32) :
    ∃ funnel : Funnel, funnel.Initial ∧ funnel.membership = membership ∧
      funnel.receiver = receiver ∧ funnel.messages = messages ∧
      ∀ id, (funnel.links id).station.simulator.Faultless := by
  have create : ∀ id, membership.contains id = true →
      ∃ node, Node.create id membership (.empty membership.clockLength)
        (.pointToPoint receiver messages) {} = .ok node := by
    intro id listed
    simp [Node.create, listed]
  obtain ⟨node, _⟩ := create receiver member
  have : Nonempty Node := ⟨node⟩
  choose! fresh created using create
  refine ⟨⟨membership, receiver, messages,
    fun id => Link.idle (Station.new (fresh id)), []⟩, ?_, rfl, rfl, rfl,
    fun _ => rfl⟩
  exact ⟨member, fun id listed => ⟨_, _, created id listed⟩,
    fun _ _ => rfl, fun _ _ => rfl, rfl⟩

/-- For every membership, receiver and number of messages, if the messages fit
in datagrams, there is a run at whose end all of them are sent and
acknowledged. -/
theorem exists_settled {membership : Membership} {receiver : NodeId}
    (member : membership.contains receiver = true) (messages : UInt32)
    (fits : ∀ owner uid, uid ≤ messages →
      (Payload.data owner uid (Node.numberedContent uid)
        membership.clockLength).encodedLength ≤ Payload.maxDatagram) :
    ∃ funnel : Funnel, funnel.Reachable ∧ funnel.Settled ∧
      funnel.membership = membership ∧ funnel.receiver = receiver ∧
      funnel.messages = messages := by
  obtain ⟨fresh, initial, rfl, rfl, rfl, faultless⟩ :=
    exists_initial member messages
  have nothing : ∀ id, fresh.membership.contains id = true →
      (fresh.node id).enqueued = 0 := by
    intro id listed
    obtain ⟨graph, settings, created⟩ := initial.created id listed
    have atRest : (fresh.links id).Fresh := ⟨id, _, graph, _, settings,
      created, initial.flight_eq id listed, initial.held_eq id listed⟩
    exact atRest.at_rest.2.2
  have healthy : fresh.Healthy := by
    refine ⟨.initial initial, fun id _ => faultless id, ?_, fun message =>
      fits message.owner message.uid⟩
    intro id listed _
    rw [nothing id listed]
    exact UInt32.zero_le
  have informed : ∀ id, fresh.Informed id := by
    intro id message sent _
    have bound := sent.bound
    rw [nothing _ sent.member] at bound
    exact absurd (Nat.le_trans sent.positive bound) (by decide)
  obtain ⟨sent, task, sentHealthy, sentInformed, all⟩ :=
    healthy.exists_all_sent informed
  obtain ⟨after, kept, afterHealthy, idle⟩ := sentHealthy.exists_all_idle
    sentInformed (sent.membership.members.map Member.id) (by
      intro id listed
      obtain ⟨member, inMembers, rfl⟩ := List.mem_map.mp listed
      exact Membership.contains_iff.mpr ⟨member, inMembers, rfl⟩)
  have same := task.trans kept.toSameTask
  refine ⟨after, afterHealthy.reachable, ⟨?_, ?_⟩, same.membership_eq,
    same.receiver_eq, same.messages_eq⟩
  · intro id listed other
    rw [kept.membership_eq] at listed
    rw [kept.receiver_eq] at other
    rw [kept.enqueued_eq, kept.messages_eq]
    exact all id listed other
  · intro id listed
    rw [kept.membership_eq] at listed
    obtain ⟨member, inMembers, rfl⟩ := Membership.contains_iff.mp listed
    exact idle _ (List.mem_map_of_mem inMembers)

end Funnel

end CausalCast
