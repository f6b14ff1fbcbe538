import CausalCast.Proofs.Ensemble.Runs
import Mathlib.Data.List.Induction
import Mathlib.Data.List.Perm.Subperm

/-!
# Completeness of delivery

When no link has data that is not acknowledged, every node knows of every node
that it has seen every message.  Then nothing is missing: among the messages
that some node had not delivered there would be an earliest one, in the order
of origination, and that one would be ready, since all that its clock claims
was originated before it.
-/

namespace CausalCast

namespace Ensemble

/-- Every node knows of every node that it has seen every message. -/
def Informed (ensemble : Ensemble) : Prop :=
  ∀ id, ensemble.membership.contains id = true →
    ∀ witness, ensemble.membership.contains witness = true →
      ∀ payload ∈ ensemble.messages,
        (ensemble.node id).tracker.contains witness payload.message = true

namespace Invariant

variable {ensemble : Ensemble} (invariant : ensemble.Invariant)

include invariant

/-- A node without unacknowledged data knows that all have seen what it has
seen. -/
theorem contains_of_unacked_eq_zero {id : NodeId}
    (member : ensemble.membership.contains id = true)
    (idle : (ensemble.node id).unacked = 0)
    (fits : ∀ payload ∈ ensemble.messages,
      payload.encodedLength ≤ Payload.maxDatagram)
    {message : MessageId}
    (seen : (ensemble.node id).tracker.contains id message = true)
    {peer : NodeId} (peerMember : ensemble.membership.contains peer = true) :
    (ensemble.node id).tracker.contains peer message = true := by
  by_cases self : peer = id
  · rw [self]
    exact seen
  · have sound := invariant.links id member
    obtain ⟨ledger, relayed⟩ := sound.relayed
    obtain ⟨payload, genuine, rfl, handed⟩ := relayed.handed message seen
    have listed := handed (fits payload genuine) peer
      (Membership.mem_peerIds.mpr ⟨peerMember, self⟩)
    have empty : (ensemble.links id).parcels (ensemble.links id).pipeline =
        [] :=
      sound.counted.parcels_eq_nil idle
    have settled : (⟨payload, peer⟩ : Parcel) ∈ ledger.settled := by
      have places := relayed.conserves.conserved.mem_iff.mp listed
      rw [empty, List.nil_append] at places
      exact places
    exact relayed.conserves.seen _ settled

theorem informed_of_idle
    (idle : ∀ id, ensemble.membership.contains id = true →
      (ensemble.node id).unacked = 0)
    (encodable : ∀ entry ∈ ensemble.history,
      entry.payload.encodedLength ≤ Payload.maxDatagram) :
    ensemble.Informed := by
  have fits : ∀ payload ∈ ensemble.messages,
      payload.encodedLength ≤ Payload.maxDatagram := by
    intro payload listed
    obtain ⟨entry, entered, rfl⟩ := List.mem_map.mp listed
    exact encodable entry entered
  intro id member witness witnessMember payload genuine
  have owned := invariant.owned payload genuine
  have known := invariant.contains_of_unacked_eq_zero owned.member
    (idle _ owned.member) fits owned.saw member
  have owner := invariant.nodeSound owned.member
  obtain ⟨copy, identity, vouched⟩ := owner.sightings _ _ known
  have seen := vouched.saw
  rw [identity] at seen
  exact invariant.contains_of_unacked_eq_zero member (idle _ member) fits
    seen witnessMember

/-! ## Nothing is missing -/

theorem entry_le {past later : List Origination} {entry : Origination}
    (split : ensemble.history = past ++ entry :: later)
    {released : List Payload} (numbered : Numbered released)
    (covered : ∀ payload ∈ past.map Origination.payload,
      ∃ copy ∈ released, copy.message = payload.message)
    {id : NodeId} (positive : 1 ≤ id.toNat)
    (inRange : id.toNat < ensemble.membership.clockLength) :
    (entry.payload.clock.entry id).toNat ≤ (stream released id).length := by
  have follows := invariant.chronicle.follows_of_split split
  by_cases own : id = entry.origin
  · have messages := invariant.chronicle.numbered
    rw [split, List.map_append, List.map_cons] at messages
    have position := messages.uid_eq
    have lengths := messages.of_append.length_stream_le numbered covered id
    have counted := follows.own_entry
    rw [follows.owner_eq, ← own] at position
    rw [← own] at counted
    omega
  · rw [follows.entry_eq id own positive inRange]
    apply follows.numbered.length_stream_le numbered
    intro cause delivered
    have found := covered _ (follows.genuine cause delivered)
    exact found

theorem isMajority_of_informed (informed : ensemble.Informed) {id : NodeId}
    (member : ensemble.membership.contains id = true) {payload : Payload}
    (genuine : payload ∈ ensemble.messages) :
    (ensemble.node id).tracker.isMajority
      ((ensemble.node id).tracker.witnessesOf payload.message).length =
        true := by
  have sound := invariant.nodeSound member
  have nodup := ensemble.membership.distinct
  have subset : ensemble.membership.members.map Member.id ⊆
      (ensemble.node id).tracker.witnessesOf payload.message := by
    intro witness listed
    obtain ⟨listedMember, inMembers, rfl⟩ := List.mem_map.mp listed
    apply Tracker.mem_witnessesOf.mpr
    apply informed id member _ _ payload genuine
    exact Membership.contains_iff.mpr ⟨listedMember, inMembers, rfl⟩
  have bound := (nodup.subperm subset).length_le
  have positive := List.length_pos_iff.mpr ensemble.membership.inhabited
  have count : (ensemble.node id).tracker.nodeCount =
      ensemble.membership.members.length := by
    rw [sound.proper.nodeCount_eq, sound.membership_eq]
    rfl
  rw [List.length_map] at bound
  simp only [Tracker.isMajority, count, decide_eq_true_eq]
  omega

/-- A message that a node has seen and not released yet is staged there, with
its own clock. -/
theorem exists_staged {id : NodeId}
    (member : ensemble.membership.contains id = true) {payload : Payload}
    (genuine : payload.original ∈ ensemble.messages)
    (seen : (ensemble.node id).tracker.contains id payload.message = true)
    (above : (ensemble.node id).tracker.frontier payload.owner ≤
      payload.uid) :
    ∃ staged, (ensemble.node id).tracker.staged[payload.message]? =
      some staged ∧ staged.clock = payload.clock := by
  have sound := invariant.nodeSound member
  have witnessed : (ensemble.node id).tracker.witnessesOf payload.message ≠
      [] :=
    List.ne_nil_of_mem (Tracker.mem_witnessesOf.mpr seen)
  obtain ⟨staged, found⟩ :=
    (sound.sound.consistent.staged_iff payload.message).mpr ⟨above, witnessed⟩
  have identity := (sound.sound.consistent.copy _ _ found).1
  have copy := invariant.chronicle.original_eq (sound.staged _ _ found) genuine
    identity
  exact ⟨staged, found, (Payload.original_eq_iff.mp copy).2.2⟩

/-- Where all earlier messages are delivered, the next one in the order of
origination cannot be missing: it would be ready, and nothing is. -/
theorem uid_le_of_covered (informed : ensemble.Informed) {id : NodeId}
    (member : ensemble.membership.contains id = true)
    {past later : List Origination} {entry : Origination}
    (split : ensemble.history = past ++ entry :: later)
    (covered : ∀ payload ∈ past.map Origination.payload,
      ∃ copy ∈ (ensemble.node id).delivered,
        copy.message = payload.message) :
    entry.payload.uid.toNat ≤
      (stream (ensemble.node id).delivered entry.origin).length := by
  have sound := invariant.nodeSound member
  have follows := invariant.chronicle.follows_of_split split
  have accounts := sound.sound.accounts
  have consistent := sound.sound.consistent
  have genuine : entry.payload ∈ ensemble.messages := by
    simp [messages, split]
  have ownerNode := sound.isNode_of_member follows.member
  have claims : ∀ dependency, 1 ≤ dependency.toNat →
      dependency.toNat < ensemble.membership.clockLength →
        (entry.payload.clock.entry dependency).toNat ≤
          (stream (ensemble.node id).delivered dependency).length :=
    fun dependency positive inRange =>
      invariant.entry_le split accounts.numbered covered positive inRange
  by_contra missing
  have frontier : (ensemble.node id).tracker.frontier entry.origin =
      entry.payload.uid := by
    have ownerRange := Membership.bounds_of_contains follows.member
    have ownClaim := claims entry.origin ownerRange.1
      (Nat.lt_succ_of_le ownerRange.2)
    have counted := follows.own_entry
    have length := accounts.length_stream entry.origin ownerNode
    have frontierEq := consistent.frontier_eq entry.origin ownerNode
    apply UInt32.toNat_inj.mp
    omega
  have above : (ensemble.node id).tracker.frontier entry.payload.owner ≤
      entry.payload.uid := by
    rw [follows.owner_eq]
    exact UInt32.le_of_eq frontier
  have seen := informed id member id member entry.payload genuine
  obtain ⟨staged, found, clock⟩ := invariant.exists_staged member
    (follows.original_eq.symm ▸ genuine) seen above
  have ready : (ensemble.node id).tracker.ready? entry.origin =
      some staged := by
    have identity : entry.payload.message =
        (ensemble.node id).tracker.frontierMessage entry.origin := by
      rw [Payload.message, Tracker.frontierMessage, follows.owner_eq, frontier]
    apply Tracker.ready?_eq_some_iff.mpr
    rw [← identity]
    refine ⟨found, ownerNode, ?_, ?_⟩
    · rw [consistent.count_eq _ above]
      exact invariant.isMajority_of_informed informed member genuine
    · rw [clock]
      apply sound.sound.isCausallyReady
      rw [sound.clockLength_eq]
      exact claims
  rw [sound.sound.drained entry.origin] at ready
  contradiction

/-- Whatever was originated is delivered, whatever cycles the graph may have,
because a clock claims only what was originated earlier. -/
theorem exists_delivered (informed : ensemble.Informed) {id : NodeId}
    (member : ensemble.membership.contains id = true)
    {past later : List Origination}
    (split : ensemble.history = past ++ later) :
    ∀ payload ∈ past.map Origination.payload,
      ∃ copy ∈ (ensemble.node id).delivered,
        copy.message = payload.message := by
  induction past using List.reverseRecOn generalizing later with
  | nil => simp
  | append_singleton front entry induction =>
      rw [List.append_assoc] at split
      have covered := induction split
      intro payload listed
      rw [List.map_append, List.mem_append] at listed
      rcases listed with old | new
      · exact covered payload old
      · obtain rfl := List.mem_singleton.mp new
        have follows := invariant.chronicle.follows_of_split split
        have identity : entry.payload.message =
            ⟨entry.origin, entry.payload.uid⟩ := by
          rw [Payload.message, follows.owner_eq]
        have numbered := (invariant.nodeSound member).sound.accounts.numbered
        rw [identity]
        apply numbered.exists_message_of_le
        · rw [follows.uid_eq]
          exact Nat.le_add_left 1 _
        · exact invariant.uid_le_of_covered informed member split covered

end Invariant

end Ensemble

end CausalCast
