import CausalCast.Proofs.Ensemble.Soundness
import CausalCast.Proofs.Link.Traffic

/-!
# The invariant of an ensemble

In every reachable ensemble the history is a chronicle, every node is sound,
and whatever is under way, in a pipeline or in the air, is vouched for by the
node that sends it.  The ledgers of the links say more: a node that has seen a
message has handed a copy for each other node to its link.

Each step changes one link, so the proof has two parts.  What the ensemble
knows grows, which keeps everything that does not move in order; and the link
that moves is in order with respect to what is known afterwards.
-/

namespace CausalCast

namespace Ensemble

/-- A datagram is a copy of an originated message, sent by a member that has
seen it. -/
def Borne (ensemble : Ensemble) (datagram : Datagram) : Prop :=
  ∃ payload : Payload, datagram.bytes = payload.toBytes ∧
    payload.encodedLength ≤ Payload.maxDatagram ∧
    ensemble.Vouched payload.sender payload

/-- Some parcels hold a copy of a message for each other node, unless the
message does not fit in a datagram. -/
def Spread (ensemble : Ensemble) (id : NodeId) (message : MessageId)
    (parcels : List Parcel) : Prop :=
  ∃ payload ∈ ensemble.messages, payload.message = message ∧
    (payload.encodedLength ≤ Payload.maxDatagram →
      ∀ peer ∈ ensemble.membership.peerIds id,
        (⟨payload, peer⟩ : Parcel) ∈ parcels)

/-- By its ledger a link was handed the relays of each message that its node
has seen. -/
structure Relayed (ensemble : Ensemble) (id : NodeId) (link : Link)
    (ledger : Ledger) : Prop where
  conserves : Link.Conserves link ledger
  handed : ∀ message, link.node.tracker.contains id message = true →
    ensemble.Spread id message ledger.handed

/-- The link of a member is in order. -/
structure LinkSound (ensemble : Ensemble) (id : NodeId) (link : Link) :
    Prop where
  node : ensemble.NodeSound id link.node
  airworthy : link.Airworthy
  counted : link.Counted
  pipeline : ∀ message ∈ link.pipeline,
    ensemble.Vouched id message.payload ∧
      ensemble.membership.contains message.recipient = true
  relayed : ∃ ledger, ensemble.Relayed id link ledger

/-- What holds of every reachable ensemble. -/
structure Invariant (ensemble : Ensemble) : Prop where
  chronicle : Chronicle ensemble.membership ensemble.history
  owned : ∀ payload ∈ ensemble.messages,
    ensemble.Vouched payload.owner payload
  links : ∀ id, ensemble.membership.contains id = true →
    ensemble.LinkSound id (ensemble.links id)
  air : ∀ datagram ∈ ensemble.air, ensemble.Borne datagram

theorem Invariant.nodeSound {ensemble : Ensemble}
    (invariant : ensemble.Invariant) {id : NodeId}
    (member : ensemble.membership.contains id = true) :
    ensemble.NodeSound id (ensemble.node id) :=
  (invariant.links id member).node

theorem Borne.grow {before after : Ensemble} {datagram : Datagram}
    (borne : before.Borne datagram) (grows : Grows before after) :
    after.Borne datagram := by
  obtain ⟨payload, bytes, fits, vouched⟩ := borne
  exact ⟨payload, bytes, fits, vouched.grow grows⟩

theorem Spread.grow {before after : Ensemble} {id : NodeId}
    {message : MessageId} {parcels : List Parcel}
    (spread : before.Spread id message parcels) (grows : Grows before after) :
    after.Spread id message parcels := by
  obtain ⟨payload, member, identity, copies⟩ := spread
  refine ⟨payload, grows.messages _ member, identity, ?_⟩
  rw [grows.membership_eq]
  exact copies

theorem Spread.mono {ensemble : Ensemble} {id : NodeId} {message : MessageId}
    {parcels more : List Parcel} (spread : ensemble.Spread id message parcels)
    (subset : parcels ⊆ more) : ensemble.Spread id message more := by
  obtain ⟨payload, member, identity, copies⟩ := spread
  exact ⟨payload, member, identity,
    fun fits peer listed => subset (copies fits peer listed)⟩

namespace LinkSound

variable {ensemble : Ensemble} {id : NodeId} {link : Link}

theorem grow {before after : Ensemble} (sound : before.LinkSound id link)
    (grows : Grows before after) : after.LinkSound id link := by
  refine ⟨sound.node.grow grows, sound.airworthy, sound.counted, ?_, ?_⟩
  · intro message member
    obtain ⟨vouched, recipient⟩ := sound.pipeline message member
    refine ⟨vouched.grow grows, ?_⟩
    rw [grows.membership_eq]
    exact recipient
  · obtain ⟨ledger, relayed⟩ := sound.relayed
    refine ⟨ledger, relayed.conserves, ?_⟩
    intro message seen
    exact (relayed.handed message seen).grow grows

theorem of_create (coherent : ensemble.graph.Coherent) {workload : Workload}
    (broadcast : workload.isBroadcast = true) {settings : LinkSettings}
    (created : Node.create id ensemble.membership ensemble.graph workload
      settings = .ok link.node)
    (noFlight : link.flight = none) (noHeld : link.held = none) :
    ensemble.LinkSound id link := by
  have fresh : link.Fresh := ⟨id, ensemble.membership, ensemble.graph,
    workload, settings, created, noFlight, noHeld⟩
  refine ⟨NodeSound.of_create coherent broadcast created, fresh.airworthy,
    fresh.counted, ?_, .empty, Link.conserves_of_fresh fresh, ?_⟩
  · simp [fresh.at_rest.1]
  · intro message seen
    unfold Node.create at created
    split at created
    · contradiction
    · split at created
      · contradiction
      · simp [Tracker.contains, Tracker.new, ← Except.ok.inj created] at seen

theorem sender {after : Link} {datagrams : List Datagram}
    (sound : ensemble.LinkSound id link)
    (move : link.SenderMove after datagrams) : ensemble.LinkSound id after := by
  refine ⟨sound.node.queuesOnly move.queuesOnly, move.airworthy,
    sound.counted.sender move, ?_, ?_⟩
  · intro message member
    obtain ⟨old, listed, alike⟩ := move.alike_of_mem member
    obtain ⟨vouched, known⟩ := sound.pipeline old listed
    rw [alike.recipient_eq]
    exact ⟨vouched.congr alike.original_eq, known⟩
  · obtain ⟨ledger, relayed⟩ := sound.relayed
    refine ⟨ledger, relayed.conserves.sender move, ?_⟩
    rw [move.queuesOnly.tracker_eq]
    exact relayed.handed

theorem borne {after : Link} {datagrams : List Datagram}
    (sound : ensemble.LinkSound id link)
    (move : link.SenderMove after datagrams) {datagram : Datagram}
    (leaves : datagram ∈ datagrams) : ensemble.Borne datagram := by
  obtain ⟨flight, flying, rfl⟩ := move.flight_of_left leaves
  have carries := sound.airworthy flight flying
  obtain ⟨vouched, _⟩ :=
    sound.pipeline flight.message (Link.mem_pipeline_of_flying flying)
  refine ⟨flight.message.payload, carries.bytes_eq, carries.fits, ?_⟩
  rw [carries.sender_eq, sound.node.me_eq]
  exact vouched

theorem retransmitter {after : Link} (sound : ensemble.LinkSound id link)
    (move : link.RetransmitterMove after) : ensemble.LinkSound id after := by
  refine ⟨sound.node.queuesOnly move.queuesOnly,
    move.airworthy sound.airworthy, sound.counted.retransmitter move, ?_, ?_⟩
  · intro message member
    exact sound.pipeline message (move.mem_of_mem member)
  · obtain ⟨ledger, relayed⟩ := sound.relayed
    refine ⟨ledger.settle link, relayed.conserves.retransmitter move, ?_⟩
    rw [move.queuesOnly.tracker_eq]
    exact relayed.handed

theorem tick (sound : ensemble.LinkSound id link) :
    ensemble.LinkSound id link.tick := by
  refine ⟨sound.node.queuesOnly link.node.queuesOnly_tick,
    sound.airworthy.withNode rfl rfl,
    ⟨sound.counted.unacked_eq, sound.counted.data⟩, sound.pipeline, ?_⟩
  obtain ⟨ledger, relayed⟩ := sound.relayed
  exact ⟨ledger, relayed.conserves.tick, relayed.handed⟩

/-- A node that learns something and then sends parcels stays in order if it
vouches for the parcels, and if it sends relays of each message that it sees
for the first time. -/
theorem learnAndSend (sound : ensemble.LinkSound id link) {learned : Node}
    {parcels : List Parcel} (learns : Node.Learns link.node learned)
    (node : ensemble.NodeSound id learned)
    (vouched : ∀ parcel ∈ parcels, ensemble.Vouched id parcel.payload ∧
      ensemble.membership.contains parcel.recipient = true)
    (relays : ∀ message, learned.tracker.contains id message = true →
      link.node.tracker.contains id message = true ∨
        ensemble.Spread id message
          (Parcel.deliverable ensemble.membership parcels)) :
    ensemble.LinkSound id (link.withNode (learned.sendAll parcels)) := by
  have opened := node.proper.sendingOpen
  have only := Node.queuesOnly_sendAll opened parcels
  refine ⟨node.queuesOnly only, ?_, ?_, ?_, ?_⟩
  · apply sound.airworthy.withNode
    · rw [only.me_eq, node.me_eq, sound.node.me_eq]
    · rw [only.membership_eq, node.membership_eq, sound.node.membership_eq]
  · exact (sound.counted.learn learns).sendAll opened parcels
  · intro message member
    rcases Link.mem_pipeline_sendAll learns opened member with old | new
    · exact sound.pipeline message old
    · exact vouched message.parcel new
  · obtain ⟨ledger, relayed⟩ := sound.relayed
    refine ⟨ledger.hand (link.withNode learned) parcels,
      (relayed.conserves.learn learns).sendAll parcels, ?_⟩
    intro message seen
    rw [Link.node_withNode, only.tracker_eq] at seen
    simp only [Ledger.hand, Link.node_withNode, node.membership_eq]
    rcases relays message seen with old | new
    · exact (relayed.handed message old).mono (List.subset_append_left _ _)
    · exact new.mono (List.subset_append_right _ _)

end LinkSound

end Ensemble

end CausalCast
