import CausalCast.Proofs.Streams
import CausalCast.Proofs.Tracker.Completeness
import CausalCast.Proofs.Tracker.Consistency

/-!
# What a tracker has released

The list of all payloads that a tracker has released is tied to its tables:
each owner's payloads stand in it in the order of their numbers, the owner's
clock entry is how many there are, and whatever the clock of a payload claims
of a dependency stands before the payload.  `Sound` joins this to what holds
of the tables alone; every recording preserves it.
-/

namespace CausalCast

namespace Tracker

/-- The released payloads agree with the tables. -/
structure Accounts (tracker : Tracker) (released : List Payload) : Prop where
  numbered : Numbered released
  nodes : ∀ payload ∈ released, tracker.isNode payload.owner = true
  length_stream : ∀ owner, tracker.isNode owner = true →
    (stream released owner).length = (tracker.clock.entry owner).toNat
  gate : ∀ (before : List Payload) (payload : Payload) (after : List Payload),
    released = before ++ payload :: after →
      ∀ dependency ∈ tracker.graph.dependencies payload.owner,
        (payload.clock.entry dependency).toNat ≤
          (stream before dependency).length

theorem accounts_new (me : NodeId) (nodeCount : Nat) (graph : CausalityGraph)
    (policy : ReleasePolicy) : (new me nodeCount graph policy).Accounts [] where
  numbered := .nil
  nodes := by simp
  length_stream := by
    intro owner node
    have inRange := toNat_lt_of_isNode node
    simp only [clockLength, new] at inRange
    simp [new, VectorClock.entry, VectorClock.zero, inRange]
  gate := by
    intro before payload after split
    simp at split

/-- A tracker whose tables are consistent, that has nothing ready, and whose
graph covers its nodes. -/
structure Sound (tracker : Tracker) (released : List Payload) : Prop where
  consistent : tracker.Consistent
  drained : tracker.Drained
  accounts : tracker.Accounts released
  coherent : tracker.graph.Coherent
  covers : tracker.graph.length = tracker.clockLength

theorem sound_new {me : NodeId} {nodeCount : Nat} {graph : CausalityGraph}
    (coherent : graph.Coherent) (covers : graph.length = nodeCount + 1) :
    (new me nodeCount graph .causal).Sound [] :=
  ⟨consistent_new me nodeCount graph, drained_new me nodeCount graph .causal,
    accounts_new me nodeCount graph .causal, coherent, covers⟩

theorem isNode_of_dependency {tracker : Tracker}
    (coherent : tracker.graph.Coherent)
    (covers : tracker.graph.length = tracker.clockLength)
    {owner dependency : NodeId}
    (member : dependency ∈ tracker.graph.dependencies owner) :
    tracker.isNode dependency = true := by
  obtain ⟨positive, inRange⟩ := coherent.inRange owner dependency member
  rw [covers] at inRange
  simp only [clockLength] at inRange
  simp only [isNode, Bool.and_eq_true, decide_eq_true_eq]
  omega

theorem Accounts.of_unmoved {before after : Tracker} {released : List Payload}
    (accounts : before.Accounts released) (setup : SameSetup before after)
    (clock : after.clock = before.clock) : after.Accounts released := by
  refine ⟨accounts.numbered, ?_, ?_, ?_⟩
  · intro payload member
    rw [setup.isNode_eq]
    exact accounts.nodes payload member
  · intro owner node
    rw [setup.isNode_eq] at node
    rw [clock]
    exact accounts.length_stream owner node
  · intro early payload late split
    rw [setup.graph]
    exact accounts.gate early payload late split

theorem Accounts.releaseFrontier {tracker : Tracker} {released : List Payload}
    (accounts : tracker.Accounts released) (consistent : tracker.Consistent)
    (coherent : tracker.graph.Coherent)
    (covers : tracker.graph.length = tracker.clockLength)
    {owner : NodeId} {payload : Payload}
    (ready : tracker.ready? owner = some payload) :
    (tracker.releaseFrontier owner).Accounts (released ++ [payload]) := by
  obtain ⟨_, node, _, causal⟩ := ready?_eq_some_iff.mp ready
  obtain ⟨rfl, uid⟩ := consistent.uid_of_ready? ready
  have setup := sameSetup_releaseFrontier tracker payload.owner
  have frontier := consistent.frontier_eq payload.owner node
  have length := accounts.length_stream payload.owner node
  refine ⟨?_, ?_, ?_, ?_⟩
  · apply accounts.numbered.append_one
    rw [uid, frontier, length]
  · intro other member
    rw [setup.isNode_eq]
    rcases List.mem_append.mp member with old | new
    · exact accounts.nodes other old
    · obtain rfl := List.mem_singleton.mp new
      exact node
  · intro other otherNode
    rw [setup.isNode_eq] at otherNode
    rw [stream_append, List.length_append]
    by_cases same : other = payload.owner
    · subst same
      rw [consistent.toNat_entry_releaseFrontier ready, stream_cons_self,
        stream_nil, length]
      rfl
    · have different : payload.owner ≠ other := fun equal => same equal.symm
      rw [entry_releaseFrontier_of_ne _ _ same,
        stream_singleton_of_ne different]
      exact accounts.length_stream other otherNode
  · intro before other after split dependency member
    rw [setup.graph] at member
    rcases split_of_concat split with ⟨_, rfl, rfl⟩ | ⟨front, _, earlier⟩
    · have dependencyNode := isNode_of_dependency coherent covers member
      have claimed := (isCausallyReady_iff.mp causal dependency member).2
      rw [UInt32.le_iff_toNat_le] at claimed
      rw [accounts.length_stream dependency dependencyNode]
      exact claimed
    · exact accounts.gate before other front earlier dependency member

theorem Accounts.releases {before after : Tracker}
    {released new : List Payload} (accounts : before.Accounts released)
    (consistent : before.Consistent) (coherent : before.graph.Coherent)
    (covers : before.graph.length = before.clockLength)
    (releases : Releases before new after)
    (notLast : ∀ payload ∈ new, payload.uid ≠ lastUid) :
    after.Accounts (released ++ new) := by
  induction releases generalizing released with
  | done => simpa using accounts
  | @next tracker final owner payload rest ready _ induction =>
      have first : payload.uid ≠ lastUid := notLast payload (by simp)
      have stepped :=
        accounts.releaseFrontier consistent coherent covers ready
      have tail := induction stepped
        (consistent.releaseFrontier ready first) coherent covers
        (fun other member => notLast other (by simp [member]))
      simpa using tail

theorem Sound.record {tracker : Tracker} {released : List Payload}
    (sound : tracker.Sound released) {sender : NodeId} {payload : Payload}
    (valid : tracker.problem? sender payload = none)
    (notLast : ∀ other ∈ (tracker.record sender payload).released,
      other.uid ≠ lastUid) :
    (tracker.record sender payload).tracker.Sound
      (released ++ (tracker.record sender payload).released) := by
  have consistent := sound.consistent.record valid notLast
  have drained := sound.drained.record sound.consistent.causal sound.coherent
    sender payload
  have recording := recording_record sound.consistent.causal sender payload
  generalize tracker.record sender payload = recorded at *
  cases recording with
  | duplicate => simpa using sound
  | stale =>
      refine ⟨consistent, drained, ?_, sound.coherent, sound.covers⟩
      simpa using sound.accounts.of_unmoved (sameSetup_witness _ _ _) rfl
  | early fresh above =>
      have setup := sameSetup_sight tracker sender payload
      refine ⟨consistent, drained, ?_, ?_, ?_⟩
      · simpa using sound.accounts.of_unmoved setup (clock_sight _ _ _)
      · simpa only [setup.graph] using sound.coherent
      · simpa only [setup.graph, setup.clockLength_eq] using sound.covers
  | next fresh here =>
      have setup := sameSetup_sight tracker sender payload
      have sighted := sound.consistent.sight valid fresh
        (UInt32.le_of_eq here.symm)
      have releases := releases_cascade (tracker.sight sender payload)
        [payload.owner]
      have coherent : (tracker.sight sender payload).graph.Coherent := by
        simpa only [setup.graph] using sound.coherent
      have covers : (tracker.sight sender payload).graph.length =
          (tracker.sight sender payload).clockLength := by
        simpa only [setup.graph, setup.clockLength_eq] using sound.covers
      have final := releases.sameSetup
      have accounts := sound.accounts.of_unmoved setup
        (clock_sight tracker sender payload)
      refine ⟨consistent, drained,
        accounts.releases sighted coherent covers releases notLast, ?_, ?_⟩
      · change ((tracker.sight sender payload).cascade _).1.graph.Coherent
        simpa only [final.graph] using coherent
      · change ((tracker.sight sender payload).cascade _).1.graph.length =
          ((tracker.sight sender payload).cascade _).1.clockLength
        simpa only [final.graph, final.clockLength_eq] using covers

theorem Sound.lt_frontier {tracker : Tracker} {released : List Payload}
    (sound : tracker.Sound released) {payload : Payload}
    (member : payload ∈ released) :
    payload.uid < tracker.frontier payload.owner := by
  have node := sound.accounts.nodes payload member
  have bounds := sound.accounts.numbered.uid_bounds member
  rw [sound.accounts.length_stream payload.owner node] at bounds
  rw [UInt32.lt_iff_toNat_lt, sound.consistent.frontier_eq payload.owner node]
  omega

/-- A message whose clock claims no more than was released waits for no
dependency. -/
theorem Sound.isCausallyReady {tracker : Tracker} {released : List Payload}
    (sound : tracker.Sound released) (owner : NodeId) {claimed : VectorClock}
    (claims : ∀ dependency, 1 ≤ dependency.toNat →
      dependency.toNat < tracker.clockLength →
        (claimed.entry dependency).toNat ≤
          (stream released dependency).length) :
    tracker.isCausallyReady owner claimed = true := by
  apply isCausallyReady_iff.mpr
  intro dependency depends
  obtain ⟨positive, inRange⟩ := sound.coherent.inRange _ _ depends
  have node := isNode_of_dependency sound.coherent sound.covers depends
  rw [sound.covers] at inRange
  constructor
  · rw [sound.consistent.length_clock]
    exact inRange
  · rw [UInt32.le_iff_toNat_le, ← sound.accounts.length_stream dependency node]
    exact claims dependency positive inRange

theorem Sound.isMajority_of_released {tracker : Tracker}
    {released : List Payload} (sound : tracker.Sound released)
    {payload : Payload} (member : payload ∈ released) :
    tracker.isMajority (tracker.witnessesOf payload.message).length = true := by
  apply sound.consistent.quorum
  · exact sound.accounts.nodes payload member
  · exact (sound.accounts.numbered.uid_bounds member).1
  · exact sound.lt_frontier member

end Tracker

end CausalCast
