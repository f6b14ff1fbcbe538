import CausalCast.Proofs.Ensemble.Invariant
import CausalCast.Proofs.Node.Handling

/-!
# Handling and originating

What a node does with a payload that is vouched for, and with a message of its
own, keeps its link in order.  In both cases the node learns something and then
sends parcels, and the parcels hold a copy for each other node of whatever it
sees for the first time.
-/

namespace CausalCast

namespace Ensemble

section Relays

variable {ensemble : Ensemble} {id : NodeId} {node : Node} {payload : Payload}

theorem NodeSound.spread_relays (sound : ensemble.NodeSound id node)
    (genuine : payload.original ∈ ensemble.messages)
    (fresh : node.tracker.wasSeen payload = false) :
    ensemble.Spread id payload.message
      (Parcel.deliverable ensemble.membership (node.relays payload)) := by
  refine ⟨payload.original, genuine, rfl, ?_⟩
  intro fits peer listed
  have member := (Membership.mem_peerIds.mp listed).1
  have sent : (⟨node.relayOf payload, peer⟩ : Parcel) ∈ node.relays payload := by
    rw [Node.relays, if_neg (by simp [fresh]), sound.me_eq, sound.membership_eq]
    exact List.mem_map.mpr ⟨peer, listed, rfl⟩
  exact Parcel.mem_deliverable sent rfl member fits

theorem NodeSound.vouched_of_mem_relays (sound : ensemble.NodeSound id node)
    (seen : ensemble.Vouched id payload) {parcel : Parcel}
    (listed : parcel ∈ node.relays payload) :
    ensemble.Vouched id parcel.payload ∧
      ensemble.membership.contains parcel.recipient = true := by
  unfold Node.relays at listed
  split at listed
  · contradiction
  · obtain ⟨peer, known, rfl⟩ := List.mem_map.mp listed
    rw [sound.membership_eq] at known
    exact ⟨seen.congr rfl, (Membership.mem_peerIds.mp known).1⟩

end Relays

namespace LinkSound

variable {ensemble : Ensemble} {id : NodeId} {link : Link} {payload : Payload}
  (sound : ensemble.LinkSound id link)
  (chronicle : Chronicle ensemble.membership ensemble.history)

include sound chronicle

/-- Handling an acknowledgement keeps a link in order.  A node that hears its
own name has seen the message already. -/
theorem handleAck (sent : ensemble.Vouched payload.sender payload)
    (ack : payload.isAck = true)
    (echo : payload.sender = id →
      link.node.tracker.contains id payload.message = true) :
    ensemble.LinkSound id (link.withNode (link.node.handlePayload payload)) := by
  have valid := sound.node.problem?_eq_none chronicle sent
  obtain ⟨heard, replies⟩ := Node.heard_of_ack valid ack
  rw [Node.handlePayload_eq sound.node.proper, heard, replies]
  apply sound.learnAndSend (Node.learns_witnessed _ _ _)
    (sound.node.witnessed chronicle sent)
  · simp
  · intro message seen
    left
    rw [Node.tracker_witnessed, Tracker.contains_record_iff] at seen
    rcases seen with ⟨same, rfl⟩ | old
    · exact echo same.symm
    · exact old

/-- Handling data keeps a link in order: it is acknowledged to its sender, and
relayed if it was not seen before. -/
theorem handleData (sent : ensemble.Vouched payload.sender payload)
    (seen : ensemble.Vouched id payload) (data : payload.isAck = false)
    (echo : payload.sender = id →
      link.node.tracker.contains id payload.message = true) :
    ensemble.LinkSound id (link.withNode (link.node.handlePayload payload)) := by
  have valid := sound.node.problem?_eq_none chronicle sent
  obtain ⟨heard, replies⟩ :=
    Node.heard_of_data valid data sound.node.broadcast
  rw [Node.handlePayload_eq sound.node.proper, heard, replies, sound.node.me_eq]
  have listener := sound.node.witnessed chronicle sent
  have learns := (Node.learns_witnessed link.node payload.sender payload).trans
    (Node.learns_witnessed _ id payload)
  apply sound.learnAndSend learns (listener.witnessed chronicle seen)
  · intro parcel listed
    rcases List.mem_cons.mp listed with rfl | relay
    · exact ⟨seen.congr rfl, sent.member⟩
    · exact listener.vouched_of_mem_relays seen relay
  · intro message marked
    by_cases old : link.node.tracker.contains id message = true
    · exact .inl old
    · right
      rw [Node.tracker_witnessed, Tracker.contains_record_iff,
        Node.tracker_witnessed, Tracker.contains_record_iff] at marked
      have identity : message = payload.message := by
        rcases marked with ⟨_, same⟩ | ⟨_, same⟩ | earlier
        · exact same
        · exact same
        · exact absurd earlier old
      subst identity
      have fresh : (link.node.witnessed payload.sender
          payload).tracker.wasSeen payload = false := by
        rw [Tracker.wasSeen, listener.proper.me_eq, listener.me_eq,
          ← Bool.not_eq_true, Node.tracker_witnessed,
          Tracker.contains_record_iff]
        rintro (⟨same, _⟩ | earlier)
        · exact old (echo same.symm)
        · exact old earlier
      have relayed := listener.spread_relays sent.genuine fresh
      exact relayed.mono (Parcel.deliverable_subset_cons _ _ _)

theorem originate {uid : UInt32} {content : List UInt8}
    (fresh : link.node.tracker.wasSeen (link.node.firstCopy uid content) =
      false)
    (seen : ensemble.Vouched id (link.node.firstCopy uid content)) :
    ensemble.LinkSound id
      (link.withNode (link.node.originate uid content).1) := by
  rw [Node.originate_eq sound.node.proper uid content, sound.node.me_eq]
  have announced := sound.node.announce content
  have learns := (Node.learns_announce link.node content).trans
    (Node.learns_witnessed _ id (link.node.firstCopy uid content))
  apply sound.learnAndSend learns (announced.witnessed chronicle seen)
  · intro parcel relay
    exact sound.node.vouched_of_mem_relays seen relay
  · intro message marked
    rw [Node.tracker_witnessed, Tracker.contains_record_iff] at marked
    rcases marked with ⟨_, rfl⟩ | old
    · right
      exact sound.node.spread_relays seen.genuine fresh
    · exact .inl old

end LinkSound

end Ensemble

end CausalCast
