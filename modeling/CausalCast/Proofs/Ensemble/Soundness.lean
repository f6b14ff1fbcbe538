import CausalCast.Proofs.Ensemble.Chronicle
import CausalCast.Proofs.Tracker.Deliveries

/-!
# What a node may believe

A payload is vouched for by a member that has recorded itself as a witness of
the message, if the payload is a copy of an originated one.  A node is sound if
each witness in its tracker vouches for the message, and if whatever it has
staged or delivered is a copy of an originated payload.  Vouching lasts: no
step takes a message or a witness back.
-/

namespace CausalCast

namespace Ensemble

/-- A member that has seen the message of a payload stands behind this copy of
it. -/
structure Vouched (ensemble : Ensemble) (id : NodeId) (payload : Payload) :
    Prop where
  genuine : payload.original ∈ ensemble.messages
  member : ensemble.membership.contains id = true
  saw : (ensemble.node id).tracker.contains id payload.message = true

/-- Of two ensembles the later knows at least as much. -/
structure Grows (before after : Ensemble) : Prop where
  membership_eq : after.membership = before.membership
  graph_eq : after.graph = before.graph
  messages : ∀ payload ∈ before.messages, payload ∈ after.messages
  saw : ∀ id message, (before.node id).tracker.contains id message = true →
    (after.node id).tracker.contains id message = true

theorem Vouched.congr {ensemble : Ensemble} {id : NodeId}
    {payload other : Payload} (vouched : ensemble.Vouched id payload)
    (alike : other.original = payload.original) : ensemble.Vouched id other := by
  have identity : other.message = payload.message := by
    have same := congrArg Payload.message alike
    exact same
  refine ⟨?_, vouched.member, ?_⟩
  · rw [alike]
    exact vouched.genuine
  · rw [identity]
    exact vouched.saw

theorem Vouched.grow {before after : Ensemble} {id : NodeId}
    {payload : Payload} (vouched : before.Vouched id payload)
    (grows : Grows before after) : after.Vouched id payload := by
  refine ⟨grows.messages _ vouched.genuine, ?_, grows.saw _ _ vouched.saw⟩
  rw [grows.membership_eq]
  exact vouched.member

/-- The node with a given id has its place in the ensemble, and believes and
delivers nothing wrong. -/
structure NodeSound (ensemble : Ensemble) (id : NodeId) (node : Node) :
    Prop where
  proper : node.Proper
  me_eq : node.me = id
  membership_eq : node.membership = ensemble.membership
  broadcast : node.workload.isBroadcast = true
  graph_eq : node.tracker.graph = ensemble.graph
  sound : node.tracker.Sound node.delivered
  sightings : ∀ sender message,
    node.tracker.contains sender message = true →
      ∃ payload, payload.message = message ∧ ensemble.Vouched sender payload
  staged : ∀ (message : MessageId) (payload : Payload),
    node.tracker.staged[message]? = some payload →
      payload.original ∈ ensemble.messages
  delivered : ∀ payload ∈ node.delivered,
    payload.original ∈ ensemble.messages

namespace NodeSound

variable {ensemble : Ensemble} {id : NodeId} {node : Node}

theorem of_create (coherent : ensemble.graph.Coherent) {workload : Workload}
    (broadcast : workload.isBroadcast = true) {settings : LinkSettings}
    (created : Node.create id ensemble.membership ensemble.graph workload
      settings = .ok node) : ensemble.NodeSound id node := by
  have proper := Node.proper_of_create created
  unfold Node.create at created
  split at created
  · contradiction
  · split at created
    · contradiction
    case isFalse length =>
        have covers : ensemble.graph.length = ensemble.membership.size + 1 :=
          Decidable.not_not.mp length
        obtain rfl := Except.ok.inj created
        have policy : Node.policyFor workload = .causal := by
          simp [Node.policyFor, broadcast]
        refine ⟨proper, rfl, rfl, broadcast, rfl, ?_, ?_, ?_, ?_⟩
        · simp only [policy]
          exact Tracker.sound_new coherent covers
        · intro sender message known
          simp [Tracker.contains, Tracker.new] at known
        · intro message payload found
          simp [Tracker.new] at found
        · intro payload member
          simp [Node.delivered, OutputLog.delivered, OutputLog.new] at member

theorem grow {before after : Ensemble} (sound : before.NodeSound id node)
    (grows : Grows before after) : after.NodeSound id node := by
  refine ⟨sound.proper, sound.me_eq, ?_, sound.broadcast, ?_, sound.sound, ?_,
    ?_, ?_⟩
  · rw [grows.membership_eq]
    exact sound.membership_eq
  · rw [grows.graph_eq]
    exact sound.graph_eq
  · intro sender message known
    obtain ⟨payload, identity, vouched⟩ := sound.sightings sender message known
    exact ⟨payload, identity, vouched.grow grows⟩
  · intro message payload found
    exact grows.messages _ (sound.staged message payload found)
  · intro payload member
    exact grows.messages _ (sound.delivered payload member)

theorem queuesOnly (sound : ensemble.NodeSound id node) {after : Node}
    (only : Node.QueuesOnly node after) : ensemble.NodeSound id after := by
  have delivered : after.delivered = node.delivered :=
    congrArg OutputLog.delivered only.output_eq
  refine ⟨only.proper sound.proper, only.me_eq.trans sound.me_eq,
    only.membership_eq.trans sound.membership_eq, ?_, ?_, ?_, ?_, ?_, ?_⟩
  · rw [only.workload_eq]
    exact sound.broadcast
  · rw [only.tracker_eq]
    exact sound.graph_eq
  · rw [only.tracker_eq, delivered]
    exact sound.sound
  · rw [only.tracker_eq]
    exact sound.sightings
  · rw [only.tracker_eq]
    exact sound.staged
  · rw [delivered]
    exact sound.delivered

theorem announce (sound : ensemble.NodeSound id node) (content : List UInt8) :
    ensemble.NodeSound id (node.announce content) := by
  have delivered : (node.announce content).delivered = node.delivered :=
    OutputLog.delivered_emit_broadcast node.output content
  refine ⟨sound.proper.announce content, sound.me_eq, sound.membership_eq,
    sound.broadcast, sound.graph_eq, ?_, sound.sightings, sound.staged, ?_⟩
  · rw [delivered]
    exact sound.sound
  · rw [delivered]
    exact sound.delivered

theorem isNode_of_member (sound : ensemble.NodeSound id node) {other : NodeId}
    (member : ensemble.membership.contains other = true) :
    node.tracker.isNode other = true := by
  have bounds := Membership.bounds_of_contains member
  rw [← sound.membership_eq] at bounds
  simp only [Tracker.isNode, sound.proper.nodeCount_eq, Bool.and_eq_true,
    decide_eq_true_eq]
  exact bounds

theorem clockLength_eq (sound : ensemble.NodeSound id node) :
    node.tracker.clockLength = ensemble.membership.clockLength := by
  rw [Tracker.clockLength, sound.proper.nodeCount_eq, sound.membership_eq]
  rfl

theorem problem?_eq_none (sound : ensemble.NodeSound id node)
    (chronicle : Chronicle ensemble.membership ensemble.history)
    {sender : NodeId} {payload : Payload}
    (vouched : ensemble.Vouched sender payload) :
    node.tracker.problem? sender payload = none := by
  apply Tracker.problem?_eq_none_iff.mpr
  refine ⟨sound.isNode_of_member vouched.member,
    sound.isNode_of_member (chronicle.owner_member vouched.genuine), ?_⟩
  rw [sound.clockLength_eq]
  exact chronicle.length_clock vouched.genuine

/-- Recording what is vouched for keeps a node sound. -/
theorem witnessed (sound : ensemble.NodeSound id node)
    (chronicle : Chronicle ensemble.membership ensemble.history)
    {sender : NodeId} {payload : Payload}
    (vouched : ensemble.Vouched sender payload) :
    ensemble.NodeSound id (node.witnessed sender payload) := by
  have causal := sound.sound.consistent.causal
  have setup := Tracker.sameSetup_record node.tracker sender payload
  have delivered := Node.delivered_witnessed node sender payload
    sound.proper.outputOpen
  have released : ∀ other ∈ (node.tracker.record sender payload).released,
      other.original ∈ ensemble.messages := by
    intro other member
    rcases Tracker.staged_of_mem_released causal member with
      ⟨message, found⟩ | rfl
    · exact sound.staged message other found
    · exact vouched.genuine
  have valid := sound.problem?_eq_none chronicle vouched
  refine ⟨sound.proper.witnessed sender payload, sound.me_eq,
    sound.membership_eq, sound.broadcast, ?_, ?_, ?_, ?_, ?_⟩
  · exact setup.graph.trans sound.graph_eq
  · rw [delivered]
    apply sound.sound.record valid
    intro other member
    exact chronicle.notLast (released other member)
  · intro other message known
    rw [Node.tracker_witnessed, Tracker.contains_record_iff] at known
    rcases known with ⟨rfl, rfl⟩ | old
    · exact ⟨payload, rfl, vouched⟩
    · exact sound.sightings other message old
  · intro message other found
    rcases Tracker.staged_of_staged_record causal found with old | rfl
    · exact sound.staged message other old
    · exact vouched.genuine
  · intro other member
    rw [delivered] at member
    rcases List.mem_append.mp member with old | new
    · exact sound.delivered other old
    · exact released other new

theorem follows (sound : ensemble.NodeSound id node)
    (member : ensemble.membership.contains id = true) {uid : UInt32}
    (content : List UInt8)
    (next : uid.toNat = ensemble.history.countP (·.origin = id) + 1)
    (room : uid ≠ lastUid) :
    (⟨id, node.firstCopy uid content, node.delivered⟩ : Origination).Follows
      ensemble.membership ensemble.history := by
  have me := sound.me_eq
  have ownNode := sound.isNode_of_member member
  have inClock : id.toNat < node.tracker.clock.length := by
    rw [sound.proper.length_clock]
    exact Tracker.toNat_lt_of_isNode ownNode
  have positive : uid ≠ 0 := by
    rintro rfl
    simp at next
  have stamped : (node.firstCopy uid content).clock =
      node.tracker.clock.set id.toNat (uid - 1) := by
    simp [Node.firstCopy, Node.stampClock, me, positive]
  refine ⟨member, me, rfl, next, room, ?_, ?_, ?_,
    sound.sound.accounts.numbered, sound.delivered⟩
  · rw [stamped, List.length_set, sound.proper.length_clock,
      sound.clockLength_eq]
  · have atLeastOne : (1 : UInt32) ≤ uid := by
      rw [UInt32.le_iff_toNat_le]
      change 1 ≤ uid.toNat
      omega
    rw [stamped, VectorClock.entry_set _ inClock,
      UInt32.toNat_sub_of_le _ _ atLeastOne]
    change uid.toNat - 1 + 1 = uid.toNat
    omega
  · intro other different lower upper
    have otherNode : node.tracker.isNode other = true := by
      rw [← sound.clockLength_eq] at upper
      simp only [Tracker.isNode, Bool.and_eq_true, decide_eq_true_eq]
      simp only [Tracker.clockLength] at upper
      omega
    rw [stamped, VectorClock.entry_set_of_ne _ _ different]
    exact (sound.sound.accounts.length_stream other otherNode).symm

/-- A node has not seen the message that it originates next. -/
theorem fresh_firstCopy (sound : ensemble.NodeSound id node)
    (chronicle : Chronicle ensemble.membership ensemble.history)
    {uid : UInt32} (content : List UInt8)
    (next : uid.toNat = ensemble.history.countP (·.origin = id) + 1) :
    node.tracker.wasSeen (node.firstCopy uid content) = false := by
  rw [← Bool.not_eq_true]
  intro seen
  obtain ⟨payload, identity, vouched⟩ := sound.sightings _ _ seen
  rw [Node.message_firstCopy, sound.me_eq] at identity
  obtain ⟨owner, number⟩ := MessageId.mk.inj identity
  obtain ⟨_, bound⟩ := chronicle.numbered.uid_bounds vouched.genuine
  change payload.uid.toNat ≤ (stream _ payload.owner).length at bound
  rw [owner, number, chronicle.length_stream] at bound
  omega

end NodeSound

end Ensemble

end CausalCast
