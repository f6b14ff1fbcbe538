import CausalCast.Proofs.Funnel.Completion

/-!
# Delivery in a funnel

The receiver delivers a message at most once, only when its owner has sent it,
and with the content that the owner gave it; no other node delivers anything,
and none passes on what it did not make.  When all have sent their messages
and no link has data that is not acknowledged, the receiver has delivered every
message: a link lets go of data only when its recipient is known to have seen
it, and the receiver delivers what it sees.
-/

namespace CausalCast

namespace Funnel

def delivered (funnel : Funnel) : List Payload :=
  (funnel.node funnel.receiver).delivered

namespace Invariant

variable {funnel : Funnel} (invariant : funnel.Invariant)

include invariant

theorem collector : funnel.Collector (funnel.node funnel.receiver) :=
  (invariant.nodeSound invariant.receiver_member).collector rfl

/-- A node without unacknowledged data knows that the receiver has seen all
that it has sent. -/
theorem contains_of_unacked_eq_zero {message : MessageId}
    (sent : funnel.Sent message)
    (fits : (funnel.firstCopy message).encodedLength ≤ Payload.maxDatagram)
    (idle : (funnel.node message.owner).unacked = 0) :
    (funnel.node message.owner).tracker.contains funnel.receiver message =
      true := by
  obtain ⟨ledger, sound⟩ := invariant.links message.owner sent.member
  have noParcels : (funnel.links message.owner).parcels
      (funnel.links message.owner).pipeline = [] :=
    sound.counted.parcels_eq_nil idle
  have settled : funnel.parcel message ∈ ledger.settled := by
    have handed := sound.handed message.uid sent.positive sent.bound fits
    have places := sound.conserves.conserved.mem_iff.mp handed
    rw [noParcels, List.nil_append] at places
    exact places
  exact sound.conserves.seen _ settled

/-- What a sender knows to be received has been delivered. -/
theorem exists_delivered {message : MessageId} (sent : funnel.Sent message)
    (known : (funnel.node message.owner).tracker.contains funnel.receiver
      message = true) :
    ∃ payload ∈ funnel.delivered, payload.message = message := by
  have contributor :=
    (invariant.nodeSound sent.member).contributor sent.other
  obtain ⟨_, received⟩ := contributor.witness _ message known
  exact (invariant.collector.delivered_iff message).mpr received

end Invariant

/-- Exactly once: in every reachable funnel the receiver has delivered each
message at most once, and only messages that were sent, with their contents;
no other node has delivered anything, and data is under way from its owner
only.  Once all is sent and acknowledged, the receiver has delivered all
messages of all other nodes. -/
theorem delivered_exactly_once {funnel : Funnel}
    (reachable : funnel.Reachable) :
    (funnel.delivered.map Payload.message).Nodup ∧
      (∀ payload ∈ funnel.delivered, funnel.Sent payload.message ∧
        payload.content = Node.numberedContent payload.uid) ∧
      (∀ id, funnel.membership.contains id = true → id ≠ funnel.receiver →
        (funnel.node id).delivered = []) ∧
      (∀ id, funnel.membership.contains id = true →
        ∀ message ∈ (funnel.links id).pipeline, message.isData = true →
          message.payload.owner = id ∧
            message.recipient = funnel.receiver) ∧
      (funnel.Settled →
        (∀ message, funnel.Sent message →
          (funnel.firstCopy message).encodedLength ≤ Payload.maxDatagram) →
        ∀ message : MessageId,
          (∃ payload ∈ funnel.delivered, payload.message = message) ↔
            funnel.membership.contains message.owner = true ∧
              message.owner ≠ funnel.receiver ∧
              1 ≤ message.uid.toNat ∧ message.uid ≤ funnel.messages) := by
  have invariant := invariant_of_reachable reachable
  have collector := invariant.collector
  refine ⟨collector.nodup, ?_, ?_, ?_, ?_⟩
  · intro payload listed
    have genuine := collector.genuine payload listed
    have contents := congrArg Payload.content genuine.original_eq
    exact ⟨genuine.sent, contents⟩
  · intro id member different
    exact ((invariant.nodeSound member).contributor different).delivered_eq
  · intro id member message listed data
    exact (invariant.data_of_mem_pipeline member listed data).2
  · intro settled encodable message
    constructor
    · rintro ⟨payload, listed, rfl⟩
      have sent := (collector.genuine payload listed).sent
      have bound := sent.bound
      rw [settled.enqueued_eq _ sent.member sent.other] at bound
      exact ⟨sent.member, sent.other, sent.positive, bound⟩
    · rintro ⟨member, other, positive, bound⟩
      have sent : funnel.Sent message := by
        refine ⟨member, other, positive, ?_⟩
        rw [settled.enqueued_eq _ member other]
        exact bound
      apply invariant.exists_delivered sent
      exact invariant.contains_of_unacked_eq_zero sent (encodable message sent)
        (settled.unacked_eq _ member)

/-- One of two nodes sends two messages to the other, and both are delivered
and acknowledged. -/
theorem delivered_exactly_once_of_pair :
    ∃ funnel : Funnel, funnel.Reachable ∧ funnel.Settled ∧
      funnel.membership = .pair ∧ funnel.receiver = 2 ∧ funnel.messages = 2 ∧
      (∀ message, funnel.Sent message →
        (funnel.firstCopy message).encodedLength ≤ Payload.maxDatagram) ∧
      (funnel.delivered.map Payload.message).Perm [⟨1, 1⟩, ⟨1, 2⟩] := by
  have small : ∀ uid : UInt32, uid ≤ 2 → uid = 0 ∨ uid = 1 ∨ uid = 2 := by
    intro uid bound
    have bound : uid.toNat ≤ 2 := bound
    simp only [← UInt32.toNat_inj]
    change uid.toNat = 0 ∨ uid.toNat = 1 ∨ uid.toNat = 2
    omega
  have fits : ∀ owner uid, uid ≤ (2 : UInt32) →
      (Payload.data owner uid (Node.numberedContent uid)
        Membership.pair.clockLength).encodedLength ≤
          Payload.maxDatagram := by
    intro owner uid bound
    rcases small uid bound with rfl | rfl | rfl
    all_goals exact Nat.le_of_ble_eq_true rfl
  have member : Membership.pair.contains 2 = true := rfl
  obtain ⟨funnel, reachable, settled, membership, receiver, messages⟩ :=
    exists_settled member 2 fits
  have encodable : ∀ message, funnel.Sent message →
      (funnel.firstCopy message).encodedLength ≤ Payload.maxDatagram := by
    intro message sent
    have bound : message.uid ≤ 2 := by
      rw [← messages, ← settled.enqueued_eq _ sent.member sent.other]
      exact sent.bound
    rw [firstCopy, membership]
    exact fits message.owner message.uid bound
  obtain ⟨once, _, _, _, all⟩ := delivered_exactly_once reachable
  refine ⟨funnel, reachable, settled, membership, receiver, messages,
    encodable, ?_⟩
  rw [List.perm_ext_iff_of_nodup once (by decide)]
  intro message
  rw [List.mem_map, all settled encodable, membership, receiver, messages]
  constructor
  · rintro ⟨member, other, positive, bound⟩
    have owner : message.owner = 1 :=
      (Membership.eq_of_contains_pair member).resolve_right other
    obtain ⟨_, uid⟩ := message
    obtain rfl := owner
    rcases small uid bound with rfl | rfl | rfl
    · exact absurd positive (by decide)
    · exact List.mem_cons_self
    · exact List.mem_cons_of_mem _ List.mem_cons_self
  · intro listed
    simp only [List.mem_cons, List.not_mem_nil, or_false] at listed
    rcases listed with rfl | rfl
    all_goals decide

end Funnel

end CausalCast
