import CausalCast.Proofs.Tracker.Hearings

/-!
# What a tracker guarantees whatever it hears

Two promises hold of a tracker after any testimonies, hostile ones among them,
as long as no owner runs out of numbers.  Nothing is left behind that could be
released.  And of each owner exactly the numbers 1, 2, 3, and so on are
released, in this order and without a gap, each message with the content and
the clock that the tracker was first told.
-/

namespace CausalCast

namespace Tracker

/-! ## Nothing releasable is left behind -/

section Blocked

variable {origin tracker : Tracker} {heard : List Testimony}
  {released : List Payload}

/-- Whether an owner's next message could be released is decided by who has
testified to it and by what its clock claims. -/
theorem Attested.canRelease_iff
    (attested : Attested origin heard tracker released) {owner : NodeId}
    {claimed : VectorClock} :
    tracker.canRelease owner claimed = true ↔
      tracker.isNode owner = true ∧
        origin.nodeCount < 2 * (origin.testifiers heard
          (tracker.frontierMessage owner)).length ∧
        ∀ dependency ∈ origin.graph.dependencies owner,
          claimed.entry dependency ≤ tracker.clock.entry dependency := by
  have sound := attested.sound
  have counted := sound.consistent.count_eq (tracker.frontierMessage owner)
    (UInt32.le_refl _)
  rw [attested.length_witnessesOf] at counted
  have majority : tracker.isMajority
      (tracker.count (tracker.frontierMessage owner)) = true ↔
        origin.nodeCount < 2 * (origin.testifiers heard
          (tracker.frontierMessage owner)).length := by
    simp only [isMajority, decide_eq_true_eq, counted,
      attested.setup.nodeCount]
    omega
  have causal : tracker.isCausallyReady owner claimed = true ↔
      ∀ dependency ∈ origin.graph.dependencies owner,
        claimed.entry dependency ≤ tracker.clock.entry dependency := by
    rw [isCausallyReady_iff, ← attested.setup.graph]
    constructor
    · intro ready dependency depends
      exact (ready dependency depends).2
    · intro claims dependency depends
      have node := isNode_of_dependency sound.coherent sound.covers depends
      rw [sound.consistent.length_clock]
      exact ⟨toNat_lt_of_isNode node, claims dependency depends⟩
  simp only [canRelease, hasQuorum_frontierMessage, Bool.and_eq_true, majority,
    causal]
  tauto

theorem Attested.isNode_of_staged
    (attested : Attested origin heard tracker released) {message : MessageId}
    {payload : Payload} (staged : tracker.staged[message]? = some payload) :
    tracker.isNode message.owner = true := by
  have consistent := attested.sound.consistent
  have witnessed := ((consistent.staged_iff message).mp ⟨payload, staged⟩).2
  obtain ⟨sender, listed⟩ := List.exists_mem_of_ne_nil _ witnessed
  exact (consistent.nodes sender message (mem_witnessesOf.mp listed)).2

/-- Once somebody has testified to the next message of an owner, that message
is staged. -/
theorem Attested.exists_staged
    (attested : Attested origin heard tracker released) {owner : NodeId}
    (testified : 0 < (origin.testifiers heard
      (tracker.frontierMessage owner)).length) :
    ∃ payload, tracker.staged[tracker.frontierMessage owner]? =
      some payload := by
  apply (attested.sound.consistent.staged_iff _).mpr
  constructor
  · exact UInt32.le_refl _
  · rw [← attested.length_witnessesOf] at testified
    exact List.ne_nil_of_length_pos testified

theorem Attested.canRelease_eq_false
    (attested : Attested origin heard tracker released) {owner : NodeId}
    {payload : Payload} (staged :
      tracker.staged[tracker.frontierMessage owner]? = some payload) :
    tracker.canRelease owner payload.clock = false := by
  apply eq_false_of_ne_true
  intro releasable
  simp only [canRelease, hasQuorum_frontierMessage, Bool.and_eq_true]
    at releasable
  obtain ⟨⟨node, _, majority⟩, causal⟩ := releasable
  have ready : tracker.ready? owner = some payload :=
    ready?_eq_some_iff.mpr ⟨staged, node, majority, causal⟩
  rw [attested.sound.drained owner] at ready
  contradiction

/-- However the testimonies come, the message staged at a frontier lacks a
majority or something that it depends on. -/
theorem not_releasable_hearAll (fresh : origin.Fresh)
    (hearing : origin.hearAll heard = (tracker, released))
    (room : ∀ payload ∈ released, payload.uid ≠ lastUid) (owner : NodeId)
    (payload : Payload)
    (staged : tracker.staged[tracker.frontierMessage owner]? =
      some payload) :
    ¬(origin.nodeCount < 2 * (origin.testifiers heard
          (tracker.frontierMessage owner)).length ∧
        ∀ dependency ∈ origin.graph.dependencies owner,
          payload.clock.entry dependency ≤ tracker.clock.entry dependency) ∧
      tracker.canRelease owner payload.clock = false := by
  have attested := fresh.attested_of_hearing hearing room
  have refused := attested.canRelease_eq_false staged
  constructor
  · rintro ⟨majority, claims⟩
    have releasable : tracker.canRelease owner payload.clock = true :=
      attested.canRelease_iff.mpr
        ⟨attested.isNode_of_staged staged, majority, claims⟩
    rw [refused] at releasable
    contradiction
  · exact refused

end Blocked

/-- Among three nodes of which the second depends on the first, a message of
the second that two nodes have witnessed still waits for what its clock
claims of the first. -/
theorem not_releasable_of_unheard_dependency :
    ∃ graph tracker released payload,
      CausalityGraph.ofEdges 4 [(2, [1])] = .ok graph ∧
        (new 1 3 graph .causal).hearAll
          [⟨2, ⟨1, 2, 2, false, [104], [0, 1, 0, 0]⟩⟩,
            ⟨3, ⟨1, 3, 2, true, [104], [0, 1, 0, 0]⟩⟩] =
          (tracker, released) ∧
        tracker.staged[tracker.frontierMessage 2]? = some payload ∧
        tracker.canRelease 2 payload.clock = false := by
  let graph : CausalityGraph := ⟨#[[], [], [1], []], #[[], [2], [], []]⟩
  let heard : List Testimony :=
    [⟨2, ⟨1, 2, 2, false, [104], [0, 1, 0, 0]⟩⟩,
      ⟨3, ⟨1, 3, 2, true, [104], [0, 1, 0, 0]⟩⟩]
  have built : CausalityGraph.ofEdges 4 [(2, [1])] = .ok graph := rfl
  have fresh : (new 1 3 graph .causal).Fresh := ⟨1, 3, graph, _, built, rfl⟩
  obtain ⟨tracker, released, hearing⟩ : ∃ tracker released,
      (new 1 3 graph .causal).hearAll heard = (tracker, released) :=
    ⟨_, _, rfl⟩
  have told := fresh.told_of_hearing hearing
  have room := told.notLast (by decide)
  have attested := fresh.attested_of_hearing hearing room
  have nothing : released = [] := by
    cases released with
    | nil => rfl
    | cons first rest =>
        have claims : ∀ testimony ∈ heard, testimony.payload.owner = 2 ∧
            testimony.payload.clock.entry 1 = 1 := by
          decide
        obtain ⟨testimony, listed, rfl⟩ := told.released first (by simp)
        obtain ⟨owner, claim⟩ := claims testimony listed
        have depends : (1 : NodeId) ∈ tracker.graph.dependencies
            testimony.payload.owner := by
          rw [attested.setup.graph, owner]
          decide
        have gate := attested.sound.accounts.gate [] _ rest rfl 1 depends
        change (testimony.payload.clock.entry 1).toNat ≤ 0 at gate
        rw [claim] at gate
        contradiction
  have here : tracker.frontier 2 = 1 := by
    apply UInt32.toNat_inj.mp
    rw [attested.toNat_frontier, ← attested.length_stream, nothing]
    rfl
  obtain ⟨payload, staged⟩ : ∃ payload,
      tracker.staged[tracker.frontierMessage 2]? = some payload := by
    apply attested.exists_staged
    rw [frontierMessage, here]
    decide
  refine ⟨graph, tracker, released, payload, built, hearing, staged, ?_⟩
  exact (not_releasable_hearAll fresh hearing room 2 payload staged).2

/-! ## What is released, and in which order -/

section Ordered

variable {origin tracker : Tracker} {heard : List Testimony}
  {released : List Payload}

/-- Whatever a tracker hears, it releases the messages of each owner in the
order of their numbers, without a gap and never twice, each as it was first
told of it; its clock and its frontiers keep step. -/
theorem hearAll_in_order (fresh : origin.Fresh)
    (hearing : origin.hearAll heard = (tracker, released))
    (room : ∀ payload ∈ released, payload.uid ≠ lastUid) :
    (∀ owner,
      (stream released owner).map (·.uid.toNat) =
          List.range' 1 (tracker.clock.entry owner).toNat ∧
        (tracker.frontier owner).toNat =
          (tracker.clock.entry owner).toNat + 1) ∧
      (∀ payload ∈ released, payload.isAck = false ∧
        ∃ first, (origin.admitted heard).find?
            (·.payload.message = payload.message) = some first ∧
          payload.content = first.payload.content ∧
          payload.clock = first.payload.clock) ∧
      ∀ earlier, earlier <+: heard →
        (origin.hearAll earlier).2 <+: released ∧
          ∀ owner,
            (origin.hearAll earlier).1.clock.entry owner ≤
                tracker.clock.entry owner ∧
              (origin.hearAll earlier).1.frontier owner ≤
                tracker.frontier owner := by
  have attested := fresh.attested_of_hearing hearing room
  refine ⟨?_, ?_, ?_⟩
  · intro owner
    constructor
    · rw [← attested.length_stream]
      exact attested.sound.accounts.numbered owner
    · exact attested.toNat_frontier owner
  · intro payload member
    obtain ⟨first, found, rfl⟩ :=
      Option.map_eq_some_iff.mp (attested.released payload member)
    exact ⟨rfl, first, found, rfl, rfl⟩
  · rintro earlier ⟨later, rfl⟩
    have grows := released_isPrefix origin earlier later
    rw [hearing] at grows
    have before := fresh.attested_hearAll earlier
      (fun payload member => room payload (grows.subset member))
    refine ⟨grows, ?_⟩
    intro owner
    have longer := (grows.filter (·.owner = owner)).length_le
    change (stream _ owner).length ≤ (stream released owner).length at longer
    rw [before.length_stream, attested.length_stream] at longer
    constructor
    · exact UInt32.le_iff_toNat_le.mpr longer
    · rw [UInt32.le_iff_toNat_le, before.toNat_frontier,
        attested.toNat_frontier]
      exact Nat.succ_le_succ longer

end Ordered

/-- A node that is alone releases what it hears of itself. -/
theorem in_order_of_alone :
    ∃ tracker released,
      (new 1 1 (.empty 2) .causal).hearAll
          [⟨1, ⟨1, 1, 1, false, [104], [0, 0]⟩⟩] = (tracker, released) ∧
        (stream released 1).map (·.uid.toNat) =
          List.range' 1 (tracker.clock.entry 1).toNat ∧
        ∃ payload ∈ released, payload.content = [104] := by
  let heard : List Testimony := [⟨1, ⟨1, 1, 1, false, [104], [0, 0]⟩⟩]
  have fresh : (new 1 1 (.empty 2) .causal).Fresh :=
    ⟨1, 1, .empty 2, [], rfl, rfl⟩
  obtain ⟨tracker, released, hearing⟩ : ∃ tracker released,
      (new 1 1 (.empty 2) .causal).hearAll heard = (tracker, released) :=
    ⟨_, _, rfl⟩
  have told := fresh.told_of_hearing hearing
  have room := told.notLast (by decide)
  have attested := fresh.attested_of_hearing hearing room
  have something : released ≠ [] := by
    rintro rfl
    have here : tracker.frontier 1 = 1 := by
      apply UInt32.toNat_inj.mp
      rw [attested.toNat_frontier, ← attested.length_stream]
      rfl
    have testified : (Tracker.testifiers (new 1 1 (.empty 2) .causal) heard
        (tracker.frontierMessage 1)).length = 1 := by
      rw [frontierMessage, here]
      decide
    obtain ⟨payload, staged⟩ : ∃ payload,
        tracker.staged[tracker.frontierMessage 1]? = some payload := by
      apply attested.exists_staged
      rw [testified]
      exact Nat.one_pos
    have releasable : tracker.canRelease 1 payload.clock = true := by
      apply attested.canRelease_iff.mpr
      refine ⟨attested.isNode_of_staged staged, ?_, ?_⟩
      · rw [testified]
        decide
      · intro dependency depends
        contradiction
    rw [attested.canRelease_eq_false staged] at releasable
    contradiction
  obtain ⟨payload, member⟩ := List.exists_mem_of_ne_nil _ something
  obtain ⟨testimony, listed, rfl⟩ := told.released payload member
  obtain rfl := List.mem_singleton.mp listed
  obtain ⟨order, _⟩ := hearAll_in_order fresh hearing room
  exact ⟨tracker, released, hearing, (order 1).1, _, member, rfl⟩

end Tracker

end CausalCast
