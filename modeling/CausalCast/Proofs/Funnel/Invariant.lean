import CausalCast.Proofs.Funnel.Soundness
import CausalCast.Proofs.Node.Handling

/-!
# The invariant of a funnel

In every reachable funnel each node keeps to its part, and whatever is under
way, in a pipeline or in the air, was posted by the node that sends it.  By the
ledger of its link a node has handed over a copy of each message that it has
counted as sent.
-/

namespace CausalCast

namespace Funnel

/-- A consignment goes to the address of its recipient, and holds a payload
that the sender may send to it. -/
structure Borne (funnel : Funnel) (consignment : Consignment) : Prop where
  addressed : funnel.membership.address? consignment.recipient =
    some consignment.datagram.destination
  posted : ∃ payload : Payload,
    consignment.datagram.bytes = payload.toBytes ∧
      payload.encodedLength ≤ Payload.maxDatagram ∧
      funnel.Posted payload.sender payload consignment.recipient

/-- The link of a node is in order, and so is the ledger that goes with it. -/
structure LinkSound (funnel : Funnel) (id : NodeId) (link : Link)
    (ledger : Ledger) : Prop where
  node : funnel.NodeSound id link.node
  airworthy : link.Airworthy
  counted : link.Counted
  conserves : Link.Conserves link ledger
  pipeline : ∀ message ∈ link.pipeline,
    funnel.Posted id message.payload message.recipient
  handed : ∀ uid : UInt32, 1 ≤ uid.toNat →
    uid.toNat ≤ link.node.enqueued.toNat →
      (funnel.firstCopy ⟨id, uid⟩).encodedLength ≤ Payload.maxDatagram →
        funnel.parcel ⟨id, uid⟩ ∈ ledger.handed

/-- What holds of every reachable funnel. -/
structure Invariant (funnel : Funnel) : Prop where
  receiver_member : funnel.membership.contains funnel.receiver = true
  links : ∀ id, funnel.membership.contains id = true →
    ∃ ledger, funnel.LinkSound id (funnel.links id) ledger
  air : ∀ consignment ∈ funnel.air, funnel.Borne consignment

theorem Invariant.nodeSound {funnel : Funnel} (invariant : funnel.Invariant)
    {id : NodeId} (member : funnel.membership.contains id = true) :
    funnel.NodeSound id (funnel.node id) := by
  obtain ⟨_, sound⟩ := invariant.links id member
  exact sound.node

theorem Invariant.data_of_mem_pipeline {funnel : Funnel}
    (invariant : funnel.Invariant) {id : NodeId}
    (member : funnel.membership.contains id = true) {message : Message}
    (listed : message ∈ (funnel.links id).pipeline)
    (data : message.isData = true) :
    funnel.Sent message.payload.message ∧ message.payload.owner = id ∧
      message.recipient = funnel.receiver := by
  obtain ⟨_, sound⟩ := invariant.links id member
  cases sound.pipeline message listed with
  | data genuine own _ target => exact ⟨genuine.sent, own, target⟩
  | ack _ _ _ kind =>
      simp [Message.isData, kind] at data

theorem Invariant.unacked_eq_zero {funnel : Funnel}
    (invariant : funnel.Invariant) {id : NodeId}
    (member : funnel.membership.contains id = true)
    (noData : ∀ message ∈ (funnel.links id).pipeline,
      ¬message.isData = true) : (funnel.node id).unacked = 0 := by
  obtain ⟨_, sound⟩ := invariant.links id member
  rw [node, sound.counted.unacked_eq, List.countP_eq_zero]
  exact noData

theorem Borne.recipient_eq {funnel : Funnel} {consignment : Consignment}
    (borne : funnel.Borne consignment) {id : NodeId}
    (reaches : funnel.Reaches consignment id) : id = consignment.recipient := by
  rcases reaches.known with apart | same
  · exact Membership.address?_injective apart reaches.addressed borne.addressed
  · exact same

theorem Borne.member {funnel : Funnel} {consignment : Consignment}
    (borne : funnel.Borne consignment) :
    funnel.membership.contains consignment.recipient = true := by
  rw [← Membership.address?_isSome, borne.addressed]
  rfl

theorem Borne.grow {before after : Funnel} {consignment : Consignment}
    (borne : before.Borne consignment) (grows : Grows before after) :
    after.Borne consignment := by
  obtain ⟨payload, bytes, fits, posted⟩ := borne.posted
  refine ⟨?_, payload, bytes, fits, posted.grow grows⟩
  rw [grows.membership_eq]
  exact borne.addressed

namespace LinkSound

variable {funnel : Funnel} {id : NodeId} {link : Link} {ledger : Ledger}

theorem grow {before after : Funnel}
    (sound : before.LinkSound id link ledger) (grows : Grows before after) :
    after.LinkSound id link ledger := by
  refine ⟨sound.node.grow grows, sound.airworthy, sound.counted,
    sound.conserves, ?_, ?_⟩
  · intro message member
    exact (sound.pipeline message member).grow grows
  · simp only [grows.firstCopy_eq, grows.parcel_eq]
    exact sound.handed

theorem of_create {graph : CausalityGraph} {settings : LinkSettings}
    (created : Node.create id funnel.membership graph
      (.pointToPoint funnel.receiver funnel.messages) settings =
        .ok link.node)
    (noFlight : link.flight = none) (noHeld : link.held = none) :
    funnel.LinkSound id link .empty := by
  have fresh : link.Fresh :=
    ⟨id, _, graph, _, settings, created, noFlight, noHeld⟩
  obtain ⟨nothing, _, none⟩ := fresh.at_rest
  refine ⟨.of_create created, fresh.airworthy, fresh.counted,
    Link.conserves_of_fresh fresh, ?_, ?_⟩
  · simp [nothing]
  · intro uid positive bound
    rw [none] at bound
    exact absurd (Nat.le_trans positive bound) (by decide)

/-! ## The loops -/

theorem sender {after : Link} {datagrams : List Datagram}
    (sound : funnel.LinkSound id link ledger)
    (move : link.SenderMove after datagrams) :
    funnel.LinkSound id after ledger := by
  refine ⟨sound.node.queuesOnly move.queuesOnly, move.airworthy,
    sound.counted.sender move, sound.conserves.sender move, ?_, ?_⟩
  · intro message member
    obtain ⟨old, listed, alike⟩ := move.alike_of_mem member
    exact (sound.pipeline old listed).congr alike
  · rw [move.queuesOnly.enqueued_eq]
    exact sound.handed

theorem borne {after : Link} {datagrams : List Datagram}
    (sound : funnel.LinkSound id link ledger)
    (move : link.SenderMove after datagrams) {consignment : Consignment}
    (leaves : consignment ∈ link.consign datagrams) :
    funnel.Borne consignment := by
  simp only [Link.consign, List.mem_flatMap, List.mem_map] at leaves
  obtain ⟨message, inHand, datagram, listed, rfl⟩ := leaves
  obtain ⟨flight, flying, rfl⟩ := move.flight_of_left listed
  rw [Link.inFlight_of_flying flying, List.mem_singleton] at inHand
  subst inHand
  have carries := sound.airworthy flight flying
  refine ⟨?_, flight.message.payload, carries.bytes_eq, carries.fits, ?_⟩
  · rw [← sound.node.membership_eq]
    exact carries.destination_eq
  · rw [carries.sender_eq, sound.node.me_eq]
    exact sound.pipeline flight.message (Link.mem_pipeline_of_flying flying)

theorem retransmitter {after : Link}
    (sound : funnel.LinkSound id link ledger)
    (move : link.RetransmitterMove after) :
    funnel.LinkSound id after (ledger.settle link) := by
  refine ⟨sound.node.queuesOnly move.queuesOnly,
    move.airworthy sound.airworthy, sound.counted.retransmitter move,
    sound.conserves.retransmitter move, ?_, ?_⟩
  · intro message member
    exact sound.pipeline message (move.mem_of_mem member)
  · rw [move.queuesOnly.enqueued_eq]
    exact sound.handed

theorem tick (sound : funnel.LinkSound id link ledger) :
    funnel.LinkSound id link.tick ledger :=
  ⟨sound.node.queuesOnly link.node.queuesOnly_tick,
    sound.airworthy.withNode rfl rfl,
    ⟨sound.counted.unacked_eq, sound.counted.data⟩, sound.conserves.tick,
    sound.pipeline, sound.handed⟩

/-! ## Handling and producing -/

theorem learnAndSend (sound : funnel.LinkSound id link ledger)
    {learned : Node} {parcels : List Parcel}
    (learns : Node.Learns link.node learned)
    (node : funnel.NodeSound id learned)
    (posted : ∀ parcel ∈ parcels,
      funnel.Posted id parcel.payload parcel.recipient) :
    funnel.LinkSound id (link.withNode (learned.sendAll parcels))
      (ledger.hand (link.withNode learned) parcels) := by
  have opened := node.proper.sendingOpen
  have only := Node.queuesOnly_sendAll opened parcels
  refine ⟨node.queuesOnly only, ?_, (sound.counted.learn learns).sendAll opened
    parcels, (sound.conserves.learn learns).sendAll parcels, ?_, ?_⟩
  · apply sound.airworthy.withNode
    · rw [only.me_eq, node.me_eq, sound.node.me_eq]
    · rw [only.membership_eq, node.membership_eq, sound.node.membership_eq]
  · intro message member
    rcases Link.mem_pipeline_sendAll learns opened member with old | new
    · exact sound.pipeline message old
    · exact posted message.parcel new
  · have enqueued : learned.enqueued = link.node.enqueued := by
      rw [learns.node_eq]
    rw [Link.node_withNode, only.enqueued_eq, enqueued]
    intro uid positive bound fits
    exact List.mem_append_left _ (sound.handed uid positive bound fits)

theorem handle (sound : funnel.LinkSound id link ledger) {payload : Payload}
    (receiver : funnel.membership.contains funnel.receiver = true)
    (received : payload.isAck = false → funnel.Received payload.message)
    (posted : funnel.Posted payload.sender payload id) :
    ∃ after, funnel.LinkSound id
      (link.withNode (link.node.handlePayload payload)) after := by
  have quiet : link.node.workload.isBroadcast = false := by
    rw [sound.node.workload_eq]
    rfl
  rw [Node.handlePayload_eq sound.node.proper]
  cases posted with
  | data genuine own kind target =>
      have sender : funnel.membership.contains payload.sender = true := by
        rw [← own]
        exact genuine.sent.member
      have valid := sound.node.problem?_eq_none sender genuine
      have heard : link.node.heard payload =
          link.node.witnessed payload.owner payload := by
        simp [Node.heard, valid, quiet, own]
      have replies : link.node.replies payload =
          [⟨payload.toAck, payload.owner⟩] := by
        simp [Node.replies, valid, quiet, kind, own]
      rw [heard, replies]
      refine ⟨_, sound.learnAndSend (Node.learns_witnessed _ _ _)
        (sound.node.witnessedData target genuine kind) ?_⟩
      intro parcel listed
      obtain rfl := List.mem_singleton.mp listed
      exact .ack (genuine.congr rfl) (received kind) target rfl rfl
  | ack genuine known collector kind target =>
      have valid := sound.node.problem?_eq_none receiver genuine
      rw [← collector] at valid
      have heard : link.node.heard payload =
          link.node.witnessed funnel.receiver payload := by
        rw [(Node.heard_of_ack valid kind).1, collector]
      have different : id ≠ funnel.receiver := by
        rw [target]
        exact genuine.sent.other
      rw [heard, (Node.heard_of_ack valid kind).2]
      refine ⟨_, sound.learnAndSend (Node.learns_witnessed _ _ _)
        (sound.node.witnessedAck different genuine known kind) ?_⟩
      simp

theorem countEnqueued (sound : funnel.LinkSound id link ledger)
    {uid : UInt32} (latest : link.node.enqueued + 1 = uid)
    (next : uid.toNat = link.node.enqueued.toNat + 1)
    (handed : (funnel.firstCopy ⟨id, uid⟩).encodedLength ≤
      Payload.maxDatagram → funnel.parcel ⟨id, uid⟩ ∈ ledger.handed) :
    funnel.LinkSound id (link.withNode link.node.countEnqueued) ledger := by
  have node := sound.node.countEnqueued
  refine ⟨node, sound.airworthy.withNode rfl rfl,
    ⟨sound.counted.unacked_eq, sound.counted.data⟩,
    ⟨node.proper, sound.conserves.conserved, sound.conserves.seen⟩,
    sound.pipeline, ?_⟩
  intro other positive bound fits
  change other.toNat ≤ (link.node.enqueued + 1).toNat at bound
  rw [latest, next] at bound
  by_cases earlier : other.toNat ≤ link.node.enqueued.toNat
  · exact sound.handed other positive earlier fits
  · obtain rfl : other = uid := by
      apply UInt32.toNat_inj.mp
      omega
    exact handed fits

theorem produce (sound : funnel.LinkSound id link ledger) {uid : UInt32}
    (sent : funnel.Sent ⟨id, uid⟩)
    (receiver : funnel.membership.contains funnel.receiver = true)
    (latest : link.node.enqueued + 1 = uid)
    (next : uid.toNat = link.node.enqueued.toNat + 1) :
    ∃ after, funnel.LinkSound id (link.withNode (link.node.produced
      (Node.numberedContent uid) (funnel.parcel ⟨id, uid⟩))) after := by
  have learns :=
    Node.learns_announce link.node (Node.numberedContent uid)
  have opened := (learns.proper sound.node.proper).sendingOpen
  have only := Node.queuesOnly_sendAll opened [funnel.parcel ⟨id, uid⟩]
  have posted : ∀ parcel ∈ [funnel.parcel ⟨id, uid⟩],
      funnel.Posted id parcel.payload parcel.recipient := by
    intro parcel listed
    obtain rfl := List.mem_singleton.mp listed
    exact .data ⟨sent, rfl⟩ rfl rfl rfl
  have handed := sound.learnAndSend learns (sound.node.announce _) posted
  have counted : (link.node.produced (Node.numberedContent uid)
      (funnel.parcel ⟨id, uid⟩)).enqueued = uid :=
    (Node.enqueued_produced sound.node.proper.sendingOpen _ _).trans latest
  refine ⟨_, handed.countEnqueued counted ?_ ?_⟩
  · rw [Link.node_withNode, only.enqueued_eq]
    exact next
  · intro fits
    apply List.mem_append_right
    apply Parcel.mem_deliverable List.mem_cons_self rfl _ fits
    change link.node.membership.contains funnel.receiver = true
    rw [sound.node.membership_eq]
    exact receiver

end LinkSound

end Funnel

end CausalCast
