import CausalCast.Proofs.Funnel.Invariant

/-!
# Every step of a funnel keeps its invariant

A node that produces a message counts it as sent in the same step in which its
link is handed the copy; a node that the network hands a datagram learns of a
message at the same time as it answers.  So in each step what the nodes know
grows first, and the link that moves is in order among what is known then.
-/

namespace CausalCast

namespace Funnel

theorem invariant_of_initial {funnel : Funnel} (initial : funnel.Initial) :
    funnel.Invariant := by
  refine ⟨initial.receiver_member, ?_, ?_⟩
  · intro id member
    obtain ⟨_, _, created⟩ := initial.created id member
    exact ⟨_, .of_create created (initial.flight_eq id member)
      (initial.held_eq id member)⟩
  · simp [initial.air_eq]

theorem Grows.of_update {before : Funnel} {id : NodeId} {link : Link}
    {air : List Consignment}
    (enqueued : (before.node id).enqueued.toNat ≤ link.node.enqueued.toNat)
    (kept : ∀ sender message,
      (before.node id).tracker.contains sender message = true →
        link.node.tracker.contains sender message = true) :
    Grows before (before.update id link air) := by
  refine ⟨rfl, rfl, rfl, ?_, ?_⟩
  · intro other
    rcases before.node_update_or id link air other with
      ⟨rfl, moved⟩ | ⟨_, still⟩
    · rw [moved]
      exact enqueued
    · apply Nat.le_of_eq
      rw [still]
  · intro message received
    change ((before.update id link air).node before.receiver).tracker.contains
      message.owner message = true
    rcases before.node_update_or id link air before.receiver with
      ⟨rfl, moved⟩ | ⟨_, still⟩
    · rw [moved]
      exact kept _ _ received
    · rw [still]
      exact received

theorem Grows.of_queuesOnly {before : Funnel} {id : NodeId} {link : Link}
    (only : Node.QueuesOnly (before.node id) link.node)
    (air : List Consignment) : Grows before (before.update id link air) := by
  apply Grows.of_update
  · apply Nat.le_of_eq
    rw [only.enqueued_eq]
  · intro sender message known
    rw [only.tracker_eq]
    exact known

namespace Invariant

variable {before : Funnel} (invariant : before.Invariant)

include invariant

/-- A step keeps the invariant if the link that it changes is in order
afterwards, and what is new in the air is borne by it. -/
theorem update {id : NodeId} {link : Link} {air : List Consignment}
    (grows : Grows before (before.update id link air))
    (moved : ∃ ledger,
      (before.update id link air).LinkSound id link ledger)
    (borne : ∀ consignment ∈ air, consignment ∈ before.air ∨
      (before.update id link air).Borne consignment) :
    (before.update id link air).Invariant := by
  refine ⟨invariant.receiver_member, ?_, ?_⟩
  · intro other member
    rcases before.links_update_or id link air other with
      ⟨rfl, same⟩ | ⟨_, still⟩
    · rw [same]
      exact moved
    · obtain ⟨ledger, sound⟩ := invariant.links other member
      rw [still]
      exact ⟨ledger, sound.grow grows⟩
  · intro consignment aloft
    rcases borne consignment aloft with old | new
    · exact (invariant.air consignment old).grow grows
    · exact new

theorem withAir {air : List Consignment} (subset : air ⊆ before.air) :
    Invariant { before with air := air } := by
  have grows : Grows before { before with air := air } :=
    ⟨rfl, rfl, rfl, fun _ => Nat.le_refl _, fun _ received => received⟩
  refine ⟨invariant.receiver_member, ?_, ?_⟩
  · intro id member
    obtain ⟨ledger, sound⟩ := invariant.links id member
    exact ⟨ledger, sound.grow grows⟩
  · intro consignment aloft
    exact (invariant.air consignment (subset aloft)).grow grows

theorem handleDatagram_eq {id : NodeId}
    (member : before.membership.contains id = true) {payload : Payload}
    (fits : payload.encodedLength ≤ Payload.maxDatagram)
    (genuine : before.Genuine payload) :
    (before.node id).handleDatagram payload.toBytes =
      (before.node id).handlePayload payload := by
  apply Node.handleDatagram_toBytes _ fits
  rw [Node.clockLength, (invariant.nodeSound member).membership_eq]
  exact genuine.length_clock

/-- Handling what was posted to a node keeps the invariant. -/
theorem handle {id : NodeId}
    (member : before.membership.contains id = true) {payload : Payload}
    (posted : before.Posted payload.sender payload id)
    {air : List Consignment} (subset : air ⊆ before.air) :
    (before.update id ((before.links id).withNode
      ((before.node id).handlePayload payload)) air).Invariant := by
  obtain ⟨ledger, sound⟩ := invariant.links id member
  have proper := sound.node.proper
  have only : Node.QueuesOnly ((before.node id).heard payload)
      ((before.node id).handlePayload payload) :=
    Node.queuesOnly_handlePayload proper payload
  have grows : Grows before (before.update id ((before.links id).withNode
      ((before.node id).handlePayload payload)) air) := by
    apply Grows.of_update
    · have enqueued : ((before.node id).heard payload).enqueued =
          (before.node id).enqueued := by
        rw [(Node.learns_heard (before.node id) payload).node_eq]
      apply Nat.le_of_eq
      rw [Link.node_withNode, only.enqueued_eq, enqueued]
    · intro sender message known
      exact Node.contains_handlePayload proper payload known
  have received : payload.isAck = false →
      (before.update id ((before.links id).withNode
        ((before.node id).handlePayload payload)) air).Received
          payload.message := by
    intro data
    cases posted with
    | ack _ _ _ kind =>
        rw [data] at kind
        contradiction
    | data genuine own _ target =>
        have sender : before.membership.contains payload.sender = true := by
          rw [← own]
          exact genuine.sent.member
        have known := Node.contains_sender_handlePayload proper payload
          (sound.node.problem?_eq_none sender genuine)
        change ((before.update id _ air).node before.receiver).tracker.contains
          payload.owner payload.message = true
        rw [← target, node_update_self, own]
        exact known
  refine invariant.update grows ?_ (fun _ aloft => .inl (subset aloft))
  exact (sound.grow grows).handle invariant.receiver_member received
    (posted.grow grows)

theorem production_eq {id : NodeId}
    (member : before.membership.contains id = true) :
    (before.node id).production = .messagesTo before.receiver
      (if before.receiver = id then 0 else before.messages) := by
  have sound := invariant.nodeSound member
  rw [Node.production, sound.workload_eq, sound.me_eq]
  dsimp only
  split <;> rfl

theorem produceOne_eq {id : NodeId}
    (member : before.membership.contains id = true) (uid : UInt32) :
    (before.node id).produceOne (before.node id).production uid =
      ((before.node id).produced (Node.numberedContent uid)
        (before.parcel ⟨id, uid⟩), none) := by
  have sound := invariant.nodeSound member
  rw [invariant.production_eq member,
    Node.produceOne_messagesTo sound.proper.sendingOpen, Node.clockLength,
    sound.membership_eq, sound.me_eq]
  rfl

/-- Producing the next message keeps the invariant. -/
theorem produce {id : NodeId} {uid : UInt32}
    (member : before.membership.contains id = true)
    (next : uid.toNat = (before.node id).enqueued.toNat + 1)
    (due : uid.toNat ≤ (before.node id).production.count) :
    (before.update id ((before.links id).withNode
      ((before.node id).produced (Node.numberedContent uid)
        (before.parcel ⟨id, uid⟩))) before.air).Invariant := by
  obtain ⟨ledger, sound⟩ := invariant.links id member
  have proper : (before.node id).Proper := sound.node.proper
  have other : id ≠ before.receiver := by
    rintro rfl
    rw [invariant.production_eq member, if_pos rfl, next] at due
    exact Nat.not_succ_le_zero _ due
  have latest : (before.node id).enqueued + 1 = uid := by
    apply UInt32.toNat_inj.mp
    rw [next, UInt32.toNat_add]
    exact Nat.mod_eq_of_lt (next ▸ uid.toNat_lt)
  have enqueued : ((before.node id).produced (Node.numberedContent uid)
      (before.parcel ⟨id, uid⟩)).enqueued = uid :=
    (Node.enqueued_produced proper.sendingOpen _ _).trans latest
  have grows : Grows before (before.update id ((before.links id).withNode
      ((before.node id).produced (Node.numberedContent uid)
        (before.parcel ⟨id, uid⟩))) before.air) := by
    apply Grows.of_update
    · rw [Link.node_withNode, enqueued, next]
      exact Nat.le_succ _
    · intro sender message known
      rw [Link.node_withNode, Node.tracker_produced proper.sendingOpen]
      exact known
  refine invariant.update grows ?_ (fun _ old => .inl old)
  have grown := sound.grow grows
  rw [← grows.parcel_eq]
  refine grown.produce ⟨member, other, ?_, ?_⟩ invariant.receiver_member latest
    next
  · change 1 ≤ uid.toNat
    omega
  · apply Nat.le_of_eq
    rw [node_update_self, Link.node_withNode, enqueued]

theorem step {after : Funnel} (step : Step before after) :
    after.Invariant := by
  cases step with
  | produce id uid member next due made =>
      rw [invariant.produceOne_eq member] at made
      obtain rfl := (Prod.mk.inj made).1
      exact invariant.produce member next due
  | @sender id outcomes link datagrams member step =>
      have move := Link.senderMove_of_stepSender step
      have grows := Grows.of_queuesOnly move.queuesOnly
        (before.air ++ (before.links id).consign datagrams)
      obtain ⟨ledger, sound⟩ := invariant.links id member
      have grown := sound.grow grows
      apply invariant.update grows ⟨ledger, grown.sender move⟩
      intro consignment aloft
      rcases List.mem_append.mp aloft with old | new
      · exact .inl old
      · exact .inr (grown.borne move new)
  | @retransmitter id link member step =>
      have move := Link.retransmitterMove_of_stepRetransmitter step
      have grows := Grows.of_queuesOnly move.queuesOnly before.air
      obtain ⟨ledger, sound⟩ := invariant.links id member
      exact invariant.update grows
        ⟨_, (sound.grow grows).retransmitter move⟩ (fun _ old => .inl old)
  | tick id member =>
      have only : Node.QueuesOnly (before.node id) (before.links id).tick.node :=
        (before.node id).queuesOnly_tick
      have grows := Grows.of_queuesOnly only before.air
      obtain ⟨ledger, sound⟩ := invariant.links id member
      exact invariant.update grows ⟨ledger, (sound.grow grows).tick⟩
        (fun _ old => .inl old)
  | lose index => exact invariant.withAir List.eraseIdx_subset
  | copy aloft =>
      apply invariant.withAir
      apply List.append_subset.mpr
      exact ⟨List.Subset.refl _, List.cons_subset.mpr ⟨aloft, List.nil_subset _⟩⟩
  | @arrive id index consignment found reaches =>
      have borne := invariant.air consignment (List.mem_of_getElem? found)
      obtain rfl := borne.recipient_eq reaches
      obtain ⟨payload, bytes, fits, posted⟩ := borne.posted
      rw [bytes, invariant.handleDatagram_eq borne.member fits posted.genuine]
      exact invariant.handle borne.member posted List.eraseIdx_subset

end Invariant

theorem invariant_of_reachable {funnel : Funnel}
    (reachable : funnel.Reachable) : funnel.Invariant := by
  induction reachable with
  | initial initial => exact invariant_of_initial initial
  | step _ step induction => exact induction.step step

end Funnel

end CausalCast
