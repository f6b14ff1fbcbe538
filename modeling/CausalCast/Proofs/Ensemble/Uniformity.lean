import CausalCast.Proofs.Ensemble.Convergence
import Mathlib.Data.List.Perm.Subperm

/-!
# Uniformity

Whatever a node delivers was originated by its owner, content and clock
included, and has been seen by a strict majority of the nodes.  Of what two
nodes have delivered of one owner, one is a prefix of the other.
-/

namespace CausalCast

namespace Ensemble

/-- How many nodes have seen the message of a payload, by their own
trackers. -/
def seenCount (ensemble : Ensemble) (payload : Payload) : Nat :=
  ensemble.membership.members.countP fun member =>
    (ensemble.node member.id).tracker.wasSeen payload

/-- The numbers and contents of what a node has delivered of an owner. -/
def deliveredOf (ensemble : Ensemble) (id owner : NodeId) :
    List (UInt32 × List UInt8) :=
  (stream (ensemble.node id).delivered owner).map fun payload =>
    (payload.uid, payload.content)

namespace Invariant

variable {ensemble : Ensemble} (invariant : ensemble.Invariant)

include invariant

theorem wasSeen_iff {id : NodeId}
    (member : ensemble.membership.contains id = true) (payload : Payload) :
    (ensemble.node id).tracker.wasSeen payload =
      (ensemble.node id).tracker.contains id payload.message := by
  have sound := invariant.nodeSound member
  have me : (ensemble.node id).tracker.me = id :=
    sound.proper.me_eq.trans sound.me_eq
  rw [Tracker.wasSeen, me]

theorem length_witnessesOf_le {id : NodeId}
    (member : ensemble.membership.contains id = true) (payload : Payload) :
    ((ensemble.node id).tracker.witnessesOf payload.message).length ≤
      ensemble.seenCount payload := by
  have sound := invariant.nodeSound member
  have nodup := (ensemble.node id).tracker.nodup_witnessesOf payload.message
  have subset : (ensemble.node id).tracker.witnessesOf payload.message ⊆
      (ensemble.membership.members.filter fun member =>
        (ensemble.node member.id).tracker.wasSeen payload).map Member.id := by
    intro witness listed
    have known := Tracker.mem_witnessesOf.mp listed
    obtain ⟨copy, identity, vouched⟩ := sound.sightings _ _ known
    obtain ⟨listedMember, inMembers, rfl⟩ :=
      Membership.contains_iff.mp vouched.member
    apply List.mem_map_of_mem
    apply List.mem_filter.mpr
    refine ⟨inMembers, ?_⟩
    rw [invariant.wasSeen_iff vouched.member, ← identity]
    exact vouched.saw
  have bound := (nodup.subperm subset).length_le
  rw [List.length_map, ← List.countP_eq_length_filter] at bound
  exact bound

theorem majority_of_delivered {id : NodeId}
    (member : ensemble.membership.contains id = true) {payload : Payload}
    (delivered : payload ∈ (ensemble.node id).delivered) :
    ensemble.membership.size < 2 * ensemble.seenCount payload := by
  have sound := invariant.nodeSound member
  have quorum := sound.sound.isMajority_of_released delivered
  have bound := invariant.length_witnessesOf_le member payload
  have count : (ensemble.node id).tracker.nodeCount =
      ensemble.membership.size := by
    rw [sound.proper.nodeCount_eq, sound.membership_eq]
  simp only [Tracker.isMajority, count, decide_eq_true_eq] at quorum
  omega

theorem exists_origination {payload : Payload}
    (genuine : payload.original ∈ ensemble.messages) :
    ∃ entry ∈ ensemble.history, entry.origin = payload.owner ∧
      entry.payload.uid = payload.uid ∧
      entry.payload.content = payload.content ∧
      entry.payload.clock = payload.clock := by
  obtain ⟨past, entry, later, split, same, follows⟩ :=
    invariant.chronicle.exists_follows genuine
  refine ⟨entry, by simp [split], ?_⟩
  rw [← follows.owner_eq, same]
  exact ⟨rfl, rfl, rfl, rfl⟩

/-- What a node has delivered of an owner is a beginning of what the owner has
originated. -/
theorem deliveredOf_isPrefix {id : NodeId}
    (member : ensemble.membership.contains id = true) (owner : NodeId) :
    ensemble.deliveredOf id owner <+:
      (stream ensemble.messages owner).map fun payload =>
        (payload.uid, payload.content) := by
  have sound := invariant.nodeSound member
  have copies := sound.sound.accounts.numbered.stream_isPrefix
    invariant.chronicle.numbered sound.delivered owner
  have readings := copies.map fun payload => (payload.uid, payload.content)
  rw [List.map_map] at readings
  exact readings

end Invariant

end Ensemble

end CausalCast
