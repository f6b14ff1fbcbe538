import CausalCast.Tracker.Release

/-!
# The tables of a tracker under its operations

Between two questions a tracker changes in only three ways: a witness is added
to the table of witnesses, a message that is not released yet is sighted, or
the message at an owner's frontier is released.  This module says what each
table answers after each of the three, so that later proofs never look inside
an operation.  It also reads the table of witnesses message by message:
`witnessesOf` lists the nodes that have witnessed a message, each once.
-/

namespace CausalCast

namespace VectorClock

theorem entry_set {clock : VectorClock} {id : NodeId} (value : UInt32)
    (inRange : id.toNat < clock.length) :
    entry (clock.set id.toNat value) id = value := by
  simp [entry, inRange]

theorem entry_set_of_ne (clock : VectorClock) {id other : NodeId}
    (value : UInt32) (different : other ≠ id) :
    entry (clock.set id.toNat value) other = clock.entry other := by
  have apart : ¬id.toNat = other.toNat :=
    fun equal => different (UInt32.toNat_inj.mp equal.symm)
  simp [entry, apart]

end VectorClock

namespace Tracker

/-- The nodes that have witnessed a message, each once. -/
def witnessesOf (tracker : Tracker) (message : MessageId) : List NodeId :=
  (tracker.witnesses.toList.filter (·.message = message)).map Witness.sender

/-- The tracker after a new witness of a message that is not released yet: the
witness is counted, and the first one leaves a copy behind. -/
def sight (tracker : Tracker) (sender : NodeId) (payload : Payload) : Tracker :=
  let counted := (tracker.witness sender payload.message).countOne payload.message
  if counted.count payload.message = 1 then counted.stage payload else counted

/-- Two trackers of one node, set up alike. -/
structure SameSetup (before after : Tracker) : Prop where
  me : after.me = before.me
  nodeCount : after.nodeCount = before.nodeCount
  graph : after.graph = before.graph
  policy : after.policy = before.policy

namespace SameSetup

theorem refl (tracker : Tracker) : SameSetup tracker tracker :=
  ⟨rfl, rfl, rfl, rfl⟩

theorem trans {first second third : Tracker} (left : SameSetup first second)
    (right : SameSetup second third) : SameSetup first third :=
  ⟨right.me.trans left.me, right.nodeCount.trans left.nodeCount,
    right.graph.trans left.graph, right.policy.trans left.policy⟩

theorem isNode_eq {before after : Tracker} (same : SameSetup before after)
    (id : NodeId) : after.isNode id = before.isNode id := by
  simp only [isNode, same.nodeCount]

theorem isMajority_eq {before after : Tracker} (same : SameSetup before after)
    (number : Nat) : after.isMajority number = before.isMajority number := by
  simp only [isMajority, same.nodeCount]

theorem clockLength_eq {before after : Tracker} (same : SameSetup before after) :
    after.clockLength = before.clockLength := by
  simp only [clockLength, same.nodeCount]

theorem problem?_eq {before after : Tracker} (same : SameSetup before after)
    (sender : NodeId) (payload : Payload) :
    after.problem? sender payload = before.problem? sender payload := by
  simp only [problem?, same.isNode_eq, same.clockLength_eq]

end SameSetup

/-! ## Witnesses -/

theorem contains_iff (tracker : Tracker) (sender : NodeId)
    (message : MessageId) :
    tracker.contains sender message = true ↔
      ⟨sender, message⟩ ∈ tracker.witnesses := by
  simp only [contains, Std.HashSet.contains_iff_mem]

theorem mem_witnessesOf {tracker : Tracker} {sender : NodeId}
    {message : MessageId} :
    sender ∈ tracker.witnessesOf message ↔
      tracker.contains sender message = true := by
  simp only [witnessesOf, List.mem_map, List.mem_filter, decide_eq_true_eq,
    Std.HashSet.mem_toList, contains_iff]
  constructor
  · rintro ⟨⟨_, _⟩, ⟨known, rfl⟩, rfl⟩
    exact known
  · intro known
    exact ⟨⟨sender, message⟩, ⟨known, rfl⟩, rfl⟩

theorem nodup_witnessesOf (tracker : Tracker) (message : MessageId) :
    (tracker.witnessesOf message).Nodup := by
  have distinct : tracker.witnesses.toList.Pairwise (· ≠ ·) :=
    (Std.HashSet.distinct_toList (m := tracker.witnesses)).imp
      (fun different => by simpa using different)
  refine List.pairwise_map.mpr ((distinct.filter _).imp_of_mem ?_)
  rintro ⟨leftSender, leftMessage⟩ ⟨rightSender, rightMessage⟩ left right
    different same
  simp only [List.mem_filter, decide_eq_true_eq] at left right
  simp only [ne_eq, Witness.mk.injEq, not_and] at different
  exact different same (left.2.trans right.2.symm)

theorem contains_eq_of_witnesses_eq {left right : Tracker}
    (same : left.witnesses = right.witnesses) (sender : NodeId)
    (message : MessageId) :
    left.contains sender message = right.contains sender message := by
  simp only [contains, same]

theorem contains_insert_iff {tracker after : Tracker} {added : Witness}
    (inserted : after.witnesses = tracker.witnesses.insert added)
    (sender : NodeId) (message : MessageId) :
    after.contains sender message = true ↔
      (sender = added.sender ∧ message = added.message) ∨
        tracker.contains sender message = true := by
  obtain ⟨addedSender, addedMessage⟩ := added
  simp only [contains_iff, inserted, Std.HashSet.mem_insert, beq_iff_eq,
    Witness.mk.injEq]
  constructor
  · rintro (⟨rfl, rfl⟩ | known)
    · exact .inl ⟨rfl, rfl⟩
    · exact .inr known
  · rintro (⟨rfl, rfl⟩ | known)
    · exact .inl ⟨rfl, rfl⟩
    · exact .inr known

theorem length_witnessesOf_insert {tracker after : Tracker} {sender : NodeId}
    {message : MessageId}
    (inserted : after.witnesses = tracker.witnesses.insert ⟨sender, message⟩)
    (fresh : tracker.contains sender message = false) (other : MessageId) :
    (after.witnessesOf other).length =
      if other = message then (tracker.witnessesOf other).length + 1
      else (tracker.witnessesOf other).length := by
  have absent : (⟨sender, message⟩ : Witness) ∉ tracker.witnesses := by
    rw [← contains_iff]
    simp [fresh]
  have listed : after.witnesses.toList.Perm
      (⟨sender, message⟩ :: tracker.witnesses.toList) := by
    have inserting :=
      Std.HashSet.toList_insert_perm (m := tracker.witnesses)
        (k := ⟨sender, message⟩)
    rwa [if_neg absent, ← inserted] at inserting
  have lengths := (listed.filter (·.message = other)).length_eq
  simp only [witnessesOf, List.length_map, lengths]
  by_cases same : message = other
  · simp [same]
  · have different : ¬other = message := fun equal => same equal.symm
    simp [same, different]

/-! ## Adding a witness -/

section Witness

variable (tracker : Tracker) (sender owner : NodeId) (message : MessageId)

theorem sameSetup_witness : SameSetup tracker (tracker.witness sender message) :=
  ⟨rfl, rfl, rfl, rfl⟩

theorem witnesses_witness :
    (tracker.witness sender message).witnesses =
      tracker.witnesses.insert ⟨sender, message⟩ := rfl

end Witness

/-! ## Sighting a message -/

section Sight

variable (tracker : Tracker) (sender owner : NodeId) (payload : Payload)

theorem sameSetup_sight : SameSetup tracker (tracker.sight sender payload) := by
  unfold sight
  dsimp only
  split <;> exact ⟨rfl, rfl, rfl, rfl⟩

theorem witnesses_sight :
    (tracker.sight sender payload).witnesses =
      tracker.witnesses.insert ⟨sender, payload.message⟩ := by
  unfold sight
  dsimp only
  split <;> rfl

@[simp] theorem frontiers_sight :
    (tracker.sight sender payload).frontiers = tracker.frontiers := by
  unfold sight
  dsimp only
  split <;> rfl

@[simp] theorem clock_sight :
    (tracker.sight sender payload).clock = tracker.clock := by
  unfold sight
  dsimp only
  split <;> rfl

@[simp] theorem frontier_sight :
    (tracker.sight sender payload).frontier owner = tracker.frontier owner := by
  simp only [frontier, frontiers_sight]

theorem counters_sight :
    (tracker.sight sender payload).counters =
      tracker.counters.insert payload.message
        (tracker.count payload.message + 1) := by
  unfold sight
  dsimp only
  split <;> rfl

theorem count_sight (message : MessageId) :
    (tracker.sight sender payload).count message =
      if message = payload.message then tracker.count message + 1
      else tracker.count message := by
  simp only [count, counters_sight, Std.HashMap.getD_insert, beq_iff_eq]
  by_cases same : message = payload.message
  · simp [same]
  · have different : ¬payload.message = message := fun equal => same equal.symm
    simp [same, different]

/-- The first witness of a message leaves a copy of it behind, as data, unless
there is one. -/
theorem staged_sight (message : MessageId) :
    (tracker.sight sender payload).staged[message]? =
      if message = payload.message ∧ tracker.count message = 0 ∧
          tracker.staged[message]? = none then some payload.toData
      else tracker.staged[message]? := by
  have first : ((tracker.witness sender payload.message).countOne
      payload.message).count payload.message =
        tracker.count payload.message + 1 := by
    simp only [count, countOne, Std.HashMap.getD_insert_self]
    rfl
  unfold sight
  simp only [first, Nat.add_eq_right]
  by_cases none : tracker.count payload.message = 0
  · rw [if_pos none]
    simp only [stage, countOne, witness, Std.HashMap.getElem?_insertIfNew,
      beq_iff_eq]
    by_cases same : payload.message = message
    · subst same
      simp [none]
    · have different : ¬message = payload.message := fun equal => same equal.symm
      simp [same, different]
  · rw [if_neg none]
    simp only [countOne, witness]
    by_cases same : message = payload.message
    · subst same
      simp [none]
    · simp [same]

end Sight

/-! ## Releasing the message at a frontier -/

section Release

variable (tracker : Tracker) (owner : NodeId)

theorem sameSetup_releaseFrontier :
    SameSetup tracker (tracker.releaseFrontier owner) :=
  ⟨rfl, rfl, rfl, rfl⟩

@[simp] theorem length_frontiers_releaseFrontier :
    (tracker.releaseFrontier owner).frontiers.length =
      tracker.frontiers.length := by
  simp [releaseFrontier]

@[simp] theorem length_clock_releaseFrontier :
    (tracker.releaseFrontier owner).clock.length = tracker.clock.length := by
  simp [releaseFrontier]

theorem frontier_releaseFrontier_of_ne {other : NodeId} (different : other ≠ owner) :
    (tracker.releaseFrontier owner).frontier other = tracker.frontier other := by
  have apart : ¬owner.toNat = other.toNat :=
    fun equal => different (UInt32.toNat_inj.mp equal.symm)
  simp [frontier, releaseFrontier, apart]

theorem frontier_releaseFrontier (inRange : owner.toNat < tracker.frontiers.length) :
    (tracker.releaseFrontier owner).frontier owner =
      tracker.frontier owner + 1 := by
  simp [frontier, releaseFrontier, frontierMessage, inRange]

theorem entry_releaseFrontier_of_ne {other : NodeId} (different : other ≠ owner) :
    (tracker.releaseFrontier owner).clock.entry other =
      tracker.clock.entry other :=
  VectorClock.entry_set_of_ne _ _ different

theorem entry_releaseFrontier (inRange : owner.toNat < tracker.clock.length) :
    (tracker.releaseFrontier owner).clock.entry owner =
      tracker.clock.entry owner + 1 :=
  VectorClock.entry_set _ inRange

theorem count_releaseFrontier (message : MessageId) :
    (tracker.releaseFrontier owner).count message =
      if message = tracker.frontierMessage owner then 0
      else tracker.count message := by
  simp only [count, releaseFrontier, Std.HashMap.getD_erase, beq_iff_eq]
  by_cases same : message = tracker.frontierMessage owner
  · simp [same]
  · have different : ¬tracker.frontierMessage owner = message :=
      fun equal => same equal.symm
    simp [same, different]

theorem staged_releaseFrontier (message : MessageId) :
    (tracker.releaseFrontier owner).staged[message]? =
      if message = tracker.frontierMessage owner then none
      else tracker.staged[message]? := by
  simp only [releaseFrontier, Std.HashMap.getElem?_erase, beq_iff_eq]
  by_cases same : message = tracker.frontierMessage owner
  · simp [same]
  · have different : ¬tracker.frontierMessage owner = message :=
      fun equal => same equal.symm
    simp [same, different]

end Release

/-! ## Readiness -/

theorem hasQuorum_frontierMessage (tracker : Tracker) (owner : NodeId) :
    tracker.hasQuorum (tracker.frontierMessage owner) =
      (tracker.isNode owner &&
        tracker.isMajority (tracker.count (tracker.frontierMessage owner))) := by
  have atFrontier : ¬(tracker.frontierMessage owner).uid <
      tracker.frontier (tracker.frontierMessage owner).owner := by
    simp [frontierMessage]
  simp only [hasQuorum, decide_eq_false atFrontier, Bool.false_or]
  rfl

theorem ready?_eq_some_iff {tracker : Tracker} {owner : NodeId}
    {payload : Payload} :
    tracker.ready? owner = some payload ↔
      tracker.staged[tracker.frontierMessage owner]? = some payload ∧
        tracker.isNode owner = true ∧
        tracker.isMajority (tracker.count (tracker.frontierMessage owner)) = true ∧
        tracker.isCausallyReady owner payload.clock = true := by
  unfold ready?
  cases staged : tracker.staged[tracker.frontierMessage owner]? with
  | none => simp
  | some found =>
      simp only [hasQuorum_frontierMessage, Bool.and_eq_true, Option.ite_none_right_eq_some,
        Option.some.injEq]
      constructor
      · rintro ⟨⟨⟨node, majority⟩, causal⟩, rfl⟩
        exact ⟨rfl, node, majority, causal⟩
      · rintro ⟨rfl, node, majority, causal⟩
        exact ⟨⟨⟨node, majority⟩, causal⟩, rfl⟩

theorem isCausallyReady_iff {tracker : Tracker} {owner : NodeId}
    {claimed : VectorClock} :
    tracker.isCausallyReady owner claimed = true ↔
      ∀ dependency ∈ tracker.graph.dependencies owner,
        dependency.toNat < tracker.clock.length ∧
          claimed.entry dependency ≤ tracker.clock.entry dependency := by
  simp only [isCausallyReady, List.all_eq_true]
  refine forall_congr' fun dependency => forall_congr' fun _ => ?_
  by_cases inRange : dependency.toNat < tracker.clock.length
  · simp [VectorClock.entry, inRange]
  · simp [inRange]

/-- Readiness of an owner depends on nothing but what stands at its frontier
and the clock entries of the owners it depends on. -/
theorem ready?_congr {before after : Tracker} (owner : NodeId)
    (setup : SameSetup before after)
    (frontier : after.frontier owner = before.frontier owner)
    (staged : after.staged[before.frontierMessage owner]? =
      before.staged[before.frontierMessage owner]?)
    (count : after.count (before.frontierMessage owner) =
      before.count (before.frontierMessage owner))
    (length : after.clock.length = before.clock.length)
    (entries : ∀ dependency ∈ before.graph.dependencies owner,
      after.clock.entry dependency = before.clock.entry dependency) :
    after.ready? owner = before.ready? owner := by
  have same : after.frontierMessage owner = before.frontierMessage owner := by
    simp only [frontierMessage, frontier]
  have causal : ∀ claimed,
      after.isCausallyReady owner claimed = true ↔
        before.isCausallyReady owner claimed = true := by
    intro claimed
    rw [isCausallyReady_iff, isCausallyReady_iff, setup.graph, length]
    refine forall_congr' fun dependency => forall_congr' fun member => ?_
    rw [entries dependency member]
  apply Option.ext
  intro payload
  rw [ready?_eq_some_iff, ready?_eq_some_iff, same, staged, count,
    setup.isNode_eq, setup.isMajority_eq, causal]

end Tracker

end CausalCast
