import CausalCast.Proofs.Tracker.Releases

/-!
# Consistency of the tables

The tables of a tracker tell one story: a message that is not released yet is
counted and staged exactly if it has witnesses, the counter is their number,
and whatever lies below a frontier once had a majority.  `Consistent` says so,
and every recording preserves it as long as no owner runs out of sequence
numbers.
-/

namespace CausalCast

/-- The largest sequence number; it has no successor. -/
def lastUid : UInt32 := 4294967295

namespace Tracker

structure Consistent (tracker : Tracker) : Prop where
  causal : tracker.policy = .causal
  length_frontiers : tracker.frontiers.length = tracker.clockLength
  length_clock : tracker.clock.length = tracker.clockLength
  frontier_eq : ∀ owner, tracker.isNode owner = true →
    (tracker.frontier owner).toNat = (tracker.clock.entry owner).toNat + 1
  nodes : ∀ sender message, tracker.contains sender message = true →
    tracker.isNode sender = true ∧ tracker.isNode message.owner = true
  staged_iff : ∀ message : MessageId,
    (∃ payload, tracker.staged[message]? = some payload) ↔
      tracker.frontier message.owner ≤ message.uid ∧
        tracker.witnessesOf message ≠ []
  count_eq : ∀ message, tracker.frontier message.owner ≤ message.uid →
    tracker.count message = (tracker.witnessesOf message).length
  copy : ∀ (message : MessageId) (payload : Payload),
    tracker.staged[message]? = some payload →
      payload.message = message ∧ payload.isAck = false ∧
        payload.clock.length = tracker.clockLength
  quorum : ∀ message, tracker.isNode message.owner = true →
    1 ≤ message.uid.toNat → message.uid < tracker.frontier message.owner →
      tracker.isMajority (tracker.witnessesOf message).length = true

theorem problem?_eq_none_iff {tracker : Tracker} {sender : NodeId}
    {payload : Payload} :
    tracker.problem? sender payload = none ↔
      tracker.isNode sender = true ∧ tracker.isNode payload.owner = true ∧
        payload.clock.length = tracker.clockLength := by
  unfold problem?
  cases tracker.isNode sender <;> cases tracker.isNode payload.owner <;> simp

theorem toNat_lt_of_isNode {tracker : Tracker} {id : NodeId}
    (node : tracker.isNode id = true) : id.toNat < tracker.clockLength := by
  simp only [isNode, Bool.and_eq_true, decide_eq_true_eq] at node
  simp only [clockLength]
  omega

theorem consistent_new (me : NodeId) (nodeCount : Nat) (graph : CausalityGraph) :
    (new me nodeCount graph .causal).Consistent where
  causal := rfl
  length_frontiers := by simp [new, clockLength]
  length_clock := by simp [new, clockLength]
  frontier_eq := by
    intro owner node
    have inRange := toNat_lt_of_isNode node
    simp only [clockLength, new] at inRange
    simp [frontier, new, VectorClock.entry, VectorClock.zero, inRange]
  nodes := by
    intro sender message known
    simp [contains, new] at known
  staged_iff := by
    intro message
    simp [new, witnessesOf]
  count_eq := by
    intro message _
    simp [count, new, witnessesOf]
  copy := by
    intro message payload staged
    simp [new] at staged
  quorum := by
    intro message node positive below
    have inRange := toNat_lt_of_isNode node
    simp only [clockLength, new] at inRange
    rw [UInt32.lt_iff_toNat_lt] at below
    simp [frontier, new, inRange] at below
    omega

namespace Consistent

variable {tracker : Tracker}

theorem uid_of_ready? (consistent : tracker.Consistent) {owner : NodeId}
    {payload : Payload} (ready : tracker.ready? owner = some payload) :
    payload.owner = owner ∧ payload.uid = tracker.frontier owner := by
  have identity := (consistent.copy _ _ (staged_of_ready? ready)).1
  simpa only [Payload.message, frontierMessage, MessageId.mk.injEq] using identity

theorem toNat_frontier_add_one (consistent : tracker.Consistent)
    {owner : NodeId} {payload : Payload}
    (ready : tracker.ready? owner = some payload)
    (notLast : payload.uid ≠ lastUid) :
    (tracker.frontier owner + 1).toNat = (tracker.frontier owner).toNat + 1 := by
  rw [(consistent.uid_of_ready? ready).2] at notLast
  have notTop : (tracker.frontier owner).toNat ≠ 4294967295 :=
    fun top => notLast (UInt32.toNat_inj.mp top)
  have bound := (tracker.frontier owner).toNat_lt
  rw [UInt32.toNat_add]
  change _ % 4294967296 = _
  have one : (1 : UInt32).toNat = 1 := rfl
  omega

/-- A clock entry stays one behind its frontier, so it always has room for one
more release. -/
theorem toNat_entry_releaseFrontier (consistent : tracker.Consistent)
    {owner : NodeId} {payload : Payload}
    (ready : tracker.ready? owner = some payload) :
    ((tracker.releaseFrontier owner).clock.entry owner).toNat =
      (tracker.clock.entry owner).toNat + 1 := by
  obtain ⟨_, node, _, _⟩ := ready?_eq_some_iff.mp ready
  have inRange : owner.toNat < tracker.clock.length := by
    rw [consistent.length_clock]
    exact toNat_lt_of_isNode node
  have frontier := consistent.frontier_eq owner node
  have bound := (tracker.frontier owner).toNat_lt
  rw [entry_releaseFrontier _ _ inRange, UInt32.toNat_add]
  change _ % 4294967296 = _
  have one : (1 : UInt32).toNat = 1 := rfl
  omega

theorem frontier_releaseFrontier_le_iff (consistent : tracker.Consistent)
    {owner : NodeId} {payload : Payload}
    (ready : tracker.ready? owner = some payload)
    (notLast : payload.uid ≠ lastUid) (message : MessageId) :
    (tracker.releaseFrontier owner).frontier message.owner ≤ message.uid ↔
      tracker.frontier message.owner ≤ message.uid ∧
        message ≠ tracker.frontierMessage owner := by
  obtain ⟨_, node, _, _⟩ := ready?_eq_some_iff.mp ready
  have inRange : owner.toNat < tracker.frontiers.length := by
    rw [consistent.length_frontiers]
    exact toNat_lt_of_isNode node
  have next := consistent.toNat_frontier_add_one ready notLast
  obtain ⟨messageOwner, uid⟩ := message
  simp only [frontierMessage, ne_eq, MessageId.mk.injEq, UInt32.le_iff_toNat_le]
  by_cases same : messageOwner = owner
  · subst same
    rw [frontier_releaseFrontier _ _ inRange, next]
    simp only [true_and, ← UInt32.toNat_inj]
    omega
  · simp [frontier_releaseFrontier_of_ne _ _ same, same]

theorem releaseFrontier (consistent : tracker.Consistent) {owner : NodeId}
    {payload : Payload} (ready : tracker.ready? owner = some payload)
    (notLast : payload.uid ≠ lastUid) :
    (tracker.releaseFrontier owner).Consistent := by
  obtain ⟨staged, node, majority, _⟩ := ready?_eq_some_iff.mp ready
  have inFrontiers : owner.toNat < tracker.frontiers.length := by
    rw [consistent.length_frontiers]
    exact toNat_lt_of_isNode node
  have next := consistent.toNat_frontier_add_one ready notLast
  have passes := consistent.frontier_releaseFrontier_le_iff ready notLast
  have setup := sameSetup_releaseFrontier tracker owner
  refine ⟨consistent.causal, ?_, ?_, ?_, consistent.nodes, ?_, ?_, ?_, ?_⟩
  · simpa [setup.clockLength_eq] using consistent.length_frontiers
  · simpa [setup.clockLength_eq] using consistent.length_clock
  · intro other otherNode
    rw [setup.isNode_eq] at otherNode
    by_cases same : other = owner
    · subst same
      rw [frontier_releaseFrontier _ _ inFrontiers, next,
        consistent.toNat_entry_releaseFrontier ready,
        consistent.frontier_eq other node]
    · rw [frontier_releaseFrontier_of_ne _ _ same,
        entry_releaseFrontier_of_ne _ _ same]
      exact consistent.frontier_eq other otherNode
  · intro message
    rw [passes, staged_releaseFrontier]
    by_cases same : message = tracker.frontierMessage owner
    · simp [same]
    · simp only [same, if_false, ne_eq, not_false_eq_true, and_true]
      exact consistent.staged_iff message
  · intro message above
    obtain ⟨above, different⟩ := (passes message).mp above
    rw [count_releaseFrontier, if_neg different]
    exact consistent.count_eq message above
  · intro message other stagedAfter
    rw [staged_releaseFrontier] at stagedAfter
    split at stagedAfter
    · contradiction
    · exact consistent.copy message other stagedAfter
  · intro message messageNode positive below
    by_cases same : message = tracker.frontierMessage owner
    · subst same
      have atFrontier := consistent.count_eq (tracker.frontierMessage owner)
        (UInt32.le_refl _)
      rw [atFrontier] at majority
      exact majority
    · have earlier : message.uid < tracker.frontier message.owner := by
        apply UInt32.not_le.mp
        intro above
        exact UInt32.not_le.mpr below ((passes message).mpr ⟨above, same⟩)
      exact consistent.quorum message messageNode positive earlier

theorem releases {after : Tracker} {released : List Payload}
    (consistent : tracker.Consistent)
    (releases : Releases tracker released after)
    (notLast : ∀ payload ∈ released, payload.uid ≠ lastUid) :
    after.Consistent := by
  induction releases with
  | done => exact consistent
  | @next tracker final owner payload rest ready _ induction =>
      have first : payload.uid ≠ lastUid := notLast payload (by simp)
      apply induction (consistent.releaseFrontier ready first)
      intro other member
      exact notLast other (by simp [member])

private theorem nodes_insert {after : Tracker} {sender : NodeId}
    {payload : Payload} (consistent : tracker.Consistent)
    (setup : SameSetup tracker after)
    (inserted : after.witnesses =
      tracker.witnesses.insert ⟨sender, payload.message⟩)
    (valid : tracker.problem? sender payload = none) (other : NodeId)
    (message : MessageId) (known : after.contains other message = true) :
    after.isNode other = true ∧ after.isNode message.owner = true := by
  obtain ⟨senderNode, ownerNode, _⟩ := problem?_eq_none_iff.mp valid
  rw [setup.isNode_eq, setup.isNode_eq]
  rcases (contains_insert_iff inserted other message).mp known with
    ⟨rfl, rfl⟩ | known
  · exact ⟨senderNode, ownerNode⟩
  · exact consistent.nodes other message known

theorem sight {sender : NodeId} {payload : Payload}
    (consistent : tracker.Consistent)
    (valid : tracker.problem? sender payload = none)
    (fresh : tracker.contains sender payload.message = false)
    (above : tracker.frontier payload.owner ≤ payload.uid) :
    (tracker.sight sender payload).Consistent := by
  obtain ⟨_, _, clockLength⟩ := problem?_eq_none_iff.mp valid
  have setup := sameSetup_sight tracker sender payload
  have inserted := witnesses_sight tracker sender payload
  have lengths := length_witnessesOf_insert inserted fresh
  refine ⟨setup.policy.trans consistent.causal, ?_, ?_, ?_,
    consistent.nodes_insert setup inserted valid, ?_, ?_, ?_, ?_⟩
  · rw [frontiers_sight, setup.clockLength_eq]
    exact consistent.length_frontiers
  · rw [clock_sight, setup.clockLength_eq]
    exact consistent.length_clock
  · intro owner node
    rw [setup.isNode_eq] at node
    rw [frontier_sight, clock_sight]
    exact consistent.frontier_eq owner node
  · intro message
    rw [frontier_sight, staged_sight, ← List.length_pos_iff, lengths]
    by_cases same : message = payload.message
    · subst same
      have counted := consistent.count_eq payload.message above
      have known := consistent.staged_iff payload.message
      constructor
      · intro _
        exact ⟨above, by simp⟩
      · intro _
        by_cases first : tracker.witnessesOf payload.message = []
        · have nothing : tracker.staged[payload.message]? = none := by
            cases found : tracker.staged[payload.message]? with
            | none => rfl
            | some other => exact absurd first (known.mp ⟨other, found⟩).2
          exact ⟨payload.toData, by simp [nothing, counted, first]⟩
        · have positive : tracker.count payload.message ≠ 0 := by
            rw [counted]
            simpa using first
          obtain ⟨other, found⟩ := known.mpr ⟨above, first⟩
          exact ⟨other, by simp [found, positive]⟩
    · simp only [same, false_and, if_false, List.length_pos_iff]
      exact consistent.staged_iff message
  · intro message messageAbove
    rw [frontier_sight] at messageAbove
    rw [count_sight, lengths]
    by_cases same : message = payload.message
    · rw [if_pos same, if_pos same, consistent.count_eq message messageAbove]
    · rw [if_neg same, if_neg same, consistent.count_eq message messageAbove]
  · intro message other staged
    rw [staged_sight] at staged
    split at staged
    case isTrue first =>
        obtain ⟨rfl, _, _⟩ := first
        obtain rfl := Option.some.inj staged
        rw [setup.clockLength_eq]
        exact ⟨rfl, rfl, clockLength⟩
    case isFalse =>
        rw [setup.clockLength_eq]
        exact consistent.copy message other staged
  · intro message node positive below
    rw [frontier_sight] at below
    rw [setup.isNode_eq] at node
    have majority := consistent.quorum message node positive below
    simp only [isMajority, decide_eq_true_eq, setup.nodeCount, lengths] at majority ⊢
    split <;> omega

theorem witness {sender : NodeId} {payload : Payload}
    (consistent : tracker.Consistent)
    (valid : tracker.problem? sender payload = none)
    (fresh : tracker.contains sender payload.message = false)
    (below : payload.uid < tracker.frontier payload.owner) :
    (tracker.witness sender payload.message).Consistent := by
  have setup := sameSetup_witness tracker sender payload.message
  have inserted := witnesses_witness tracker sender payload.message
  have lengths := length_witnessesOf_insert inserted fresh
  have unreleased : ∀ message, tracker.frontier message.owner ≤ message.uid →
      message ≠ payload.message := by
    rintro message above rfl
    exact UInt32.not_le.mpr below above
  refine ⟨consistent.causal, consistent.length_frontiers,
    consistent.length_clock, consistent.frontier_eq,
    consistent.nodes_insert setup inserted valid, ?_, ?_, consistent.copy, ?_⟩
  · intro message
    rw [← List.length_pos_iff, lengths]
    constructor
    · intro staged
      obtain ⟨above, witnessed⟩ := (consistent.staged_iff message).mp staged
      refine ⟨above, ?_⟩
      have positive := List.length_pos_iff.mpr witnessed
      split <;> omega
    · rintro ⟨above, witnessed⟩
      rw [if_neg (unreleased message above), List.length_pos_iff] at witnessed
      exact (consistent.staged_iff message).mpr ⟨above, witnessed⟩
  · intro message above
    rw [lengths, if_neg (unreleased message above)]
    exact consistent.count_eq message above
  · intro message node positive released
    have majority := consistent.quorum message node positive released
    simp only [isMajority, decide_eq_true_eq, setup.nodeCount, lengths] at majority ⊢
    split <;> omega

theorem record {sender : NodeId} {payload : Payload}
    (consistent : tracker.Consistent)
    (valid : tracker.problem? sender payload = none)
    (notLast : ∀ released ∈ (tracker.record sender payload).released,
      released.uid ≠ lastUid) :
    (tracker.record sender payload).tracker.Consistent := by
  have recording := recording_record consistent.causal sender payload
  generalize tracker.record sender payload = recorded at recording notLast
  cases recording with
  | duplicate => exact consistent
  | stale fresh below => exact consistent.witness valid fresh below
  | early fresh above =>
      exact consistent.sight valid fresh (UInt32.le_of_lt above)
  | next fresh here =>
      have sighted := consistent.sight valid fresh
        (UInt32.le_of_eq here.symm)
      exact sighted.releases (releases_cascade _ _) notLast

end Consistent

end Tracker

end CausalCast
