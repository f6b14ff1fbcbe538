import CausalCast.Proofs.Tracker.Gate
import CausalCast.Proofs.Tracker.Storage

/-!
# How far the numbers go

A frontier is the number after the last one released, but the largest number
has no successor: its release sends the frontier back to zero.  Until then
each release raises the frontier and the clock entry of its owner by one, and
what was released is never counted again.  Even beyond that point no message
is released twice.  A release spends a strict majority of witnesses that are
never counted again, and there are not enough nodes for another one.
-/

namespace CausalCast

namespace Tracker

/-! ## No message is released twice -/

/-- Every counter is covered by witnesses, and a release has used up a strict
majority of them besides. -/
structure Spent (tracker : Tracker) (released : List Payload) : Prop where
  nodes : ∀ sender message, tracker.contains sender message = true →
    tracker.isNode sender = true
  copy : ∀ (message : MessageId) (payload : Payload),
    tracker.staged[message]? = some payload → payload.message = message
  counted : ∀ message,
    tracker.count message ≤ (tracker.witnessesOf message).length
  spent : ∀ payload ∈ released,
    tracker.count payload.message + tracker.nodeCount / 2 <
      (tracker.witnessesOf payload.message).length
  once : (released.map Payload.message).Nodup

theorem spent_new (me : NodeId) (nodeCount : Nat) (graph : CausalityGraph)
    (policy : ReleasePolicy) : (new me nodeCount graph policy).Spent [] where
  nodes := by
    intro sender message known
    simp [contains, new] at known
  copy := by
    intro message payload staged
    simp [new] at staged
  counted := by
    intro message
    simp [count, new]
  spent := by simp
  once := by simp

namespace Spent

variable {tracker after : Tracker} {released new : List Payload}
  {sender owner : NodeId} {payload : Payload}

theorem of_insert {message : MessageId} (spent : tracker.Spent released)
    (setup : SameSetup tracker after)
    (inserted : after.witnesses = tracker.witnesses.insert ⟨sender, message⟩)
    (fresh : tracker.contains sender message = false)
    (node : tracker.isNode sender = true)
    (copy : ∀ (other : MessageId) (payload : Payload),
      after.staged[other]? = some payload → payload.message = other)
    (count : ∀ other, after.count other ≤
      if other = message then tracker.count other + 1
      else tracker.count other) : after.Spent released := by
  have lengths := length_witnessesOf_insert inserted fresh
  refine ⟨?_, copy, ?_, ?_, spent.once⟩
  · intro other about known
    rw [setup.isNode_eq]
    rcases (contains_insert_iff inserted other about).mp known with
      ⟨rfl, _⟩ | known
    · exact node
    · exact spent.nodes other about known
  · intro other
    have before := spent.counted other
    have now := count other
    rw [lengths]
    by_cases same : other = message
    · rw [if_pos same] at now ⊢
      omega
    · rw [if_neg same] at now ⊢
      omega
  · intro payload member
    have before := spent.spent payload member
    have now := count payload.message
    rw [lengths, setup.nodeCount]
    by_cases same : payload.message = message
    · rw [if_pos same] at now ⊢
      omega
    · rw [if_neg same] at now ⊢
      omega

theorem witness (spent : tracker.Spent released)
    (fresh : tracker.contains sender payload.message = false)
    (node : tracker.isNode sender = true) :
    (tracker.witness sender payload.message).Spent released := by
  apply spent.of_insert (sameSetup_witness _ _ _) (witnesses_witness _ _ _)
    fresh node spent.copy
  intro other
  change tracker.count other ≤ _
  split <;> omega

theorem sight (spent : tracker.Spent released)
    (fresh : tracker.contains sender payload.message = false)
    (node : tracker.isNode sender = true) :
    (tracker.sight sender payload).Spent released := by
  apply spent.of_insert (sameSetup_sight _ _ _) (witnesses_sight _ _ _) fresh
    node
  · intro other staged found
    rw [staged_sight] at found
    split at found
    case isTrue first =>
        obtain rfl := Option.some.inj found
        exact first.1.symm
    case isFalse => exact spent.copy other staged found
  · intro other
    exact Nat.le_of_eq (count_sight tracker sender payload other)

/-- Two strict majorities need more witnesses than there are nodes. -/
theorem message_ne_of_ready (spent : tracker.Spent released)
    (ready : tracker.ready? owner = some payload) {earlier : Payload}
    (member : earlier ∈ released) :
    earlier.message ≠ tracker.frontierMessage owner := by
  intro same
  obtain ⟨_, _, majority, _⟩ := ready?_eq_some_iff.mp ready
  have first := spent.spent earlier member
  have second : tracker.nodeCount / 2 <
      tracker.count (tracker.frontierMessage owner) :=
    of_decide_eq_true majority
  have all : (tracker.witnessesOf (tracker.frontierMessage owner)).length ≤
      tracker.nodeCount :=
    length_witnessesOf_le (fun sender known => spent.nodes sender _ known)
  rw [same] at first
  omega

theorem releaseFrontier (spent : tracker.Spent released)
    (ready : tracker.ready? owner = some payload) :
    (tracker.releaseFrontier owner).Spent (released ++ [payload]) := by
  obtain ⟨staged, _, majority, _⟩ := ready?_eq_some_iff.mp ready
  have here := spent.copy _ _ staged
  have enough : tracker.nodeCount / 2 <
      tracker.count (tracker.frontierMessage owner) :=
    of_decide_eq_true majority
  have apart : ∀ earlier ∈ released,
      earlier.message ≠ tracker.frontierMessage owner :=
    fun _ member => spent.message_ne_of_ready ready member
  refine ⟨spent.nodes, ?_, ?_, ?_, ?_⟩
  · intro message other found
    rw [staged_releaseFrontier] at found
    split at found
    · contradiction
    · exact spent.copy message other found
  · intro message
    rw [count_releaseFrontier]
    split
    · exact Nat.zero_le _
    · exact spent.counted message
  · intro other member
    rw [count_releaseFrontier]
    rcases List.mem_append.mp member with old | new
    · rw [if_neg (apart other old)]
      exact spent.spent other old
    · obtain rfl := List.mem_singleton.mp new
      rw [if_pos here, Nat.zero_add, here]
      exact Nat.lt_of_lt_of_le enough (spent.counted _)
  · rw [List.map_append]
    apply List.nodup_append.mpr
    refine ⟨spent.once, by simp, ?_⟩
    intro message listed other last same
    obtain ⟨earlier, member, rfl⟩ := List.mem_map.mp listed
    obtain rfl := List.mem_singleton.mp last
    exact apart earlier member (same.trans here)

theorem releases (spent : tracker.Spent released)
    (releases : Releases tracker new after) :
    after.Spent (released ++ new) := by
  induction releases generalizing released with
  | done => simpa using spent
  | next ready _ induction => simpa using induction (spent.releaseFrontier ready)

theorem record (spent : tracker.Spent released)
    (causal : tracker.policy = .causal)
    (node : tracker.isNode sender = true) :
    (tracker.record sender payload).tracker.Spent
      (released ++ (tracker.record sender payload).released) := by
  have recording := recording_record causal sender payload
  generalize tracker.record sender payload = recorded at recording
  cases recording with
  | duplicate => simpa using spent
  | stale fresh => simpa using spent.witness fresh node
  | early fresh => simpa using spent.sight fresh node
  | next fresh => exact (spent.sight fresh node).releases (releases_cascade _ _)

end Spent

theorem Fresh.spent_hearAll {origin : Tracker} (fresh : origin.Fresh)
    (heard : List Testimony) :
    (origin.hearAll heard).1.Spent (origin.hearAll heard).2 := by
  apply fresh.hearAll_keeps
  · obtain ⟨me, nodeCount, graph, edges, _, rfl⟩ := fresh
    exact spent_new me nodeCount graph .causal
  · intro tracker released sender payload causal valid spent
    exact spent.record causal (problem?_eq_none_iff.mp valid).1

/-! ## One number after the other -/

/-- The release of a payload counts up what its owner has released, and puts
the frontier one further unless there is no further number. -/
structure CountsUp (moment : Tracker) (payload : Payload) : Prop where
  frontier_eq : moment.frontier payload.owner = payload.uid
  entry_succ :
    ((moment.releaseFrontier payload.owner).clock.entry payload.owner).toNat =
      (moment.clock.entry payload.owner).toNat + 1
  frontier_succ : payload.uid ≠ lastUid →
    ((moment.releaseFrontier payload.owner).frontier payload.owner).toNat =
      (moment.frontier payload.owner).toNat + 1
  frontier_wraps : payload.uid = lastUid →
    (moment.releaseFrontier payload.owner).frontier payload.owner = 0

theorem Consistent.countsUp {tracker : Tracker}
    (consistent : tracker.Consistent) {payload : Payload}
    (ready : tracker.ready? payload.owner = some payload) :
    CountsUp tracker payload := by
  obtain ⟨_, node, _, _⟩ := ready?_eq_some_iff.mp ready
  have inRange : payload.owner.toNat < tracker.frontiers.length := by
    rw [consistent.length_frontiers]
    exact toNat_lt_of_isNode node
  have here := (consistent.uid_of_ready? ready).2
  refine ⟨here.symm, consistent.toNat_entry_releaseFrontier ready, ?_, ?_⟩
  · intro notLast
    rw [frontier_releaseFrontier _ _ inRange]
    exact consistent.toNat_frontier_add_one ready notLast
  · intro last
    rw [frontier_releaseFrontier _ _ inRange, ← here, last]
    rfl

/-- What was released is not counted, and no further testimony to it is. -/
theorem Attested.uncounted_of_released {origin tracker : Tracker}
    {heard : List Testimony} {released : List Payload}
    (attested : Attested origin heard tracker released) {payload : Payload}
    (member : payload ∈ released) {testimony : Testimony}
    (same : testimony.payload.message = payload.message) :
    let recorded := tracker.record testimony.sender testimony.payload
    (recorded.sighting = .duplicate ∨ recorded.sighting = .stale) ∧
      recorded.released = [] ∧ recorded.tracker.count payload.message = 0 := by
  have below := attested.sound.lt_frontier member
  have none : tracker.count payload.message = 0 := by
    by_contra counted
    exact UInt32.not_le.mpr below (attested.totals.counted _ counted)
  obtain ⟨owner, uid⟩ := MessageId.mk.inj same
  rw [← owner, ← uid] at below
  have recording := recording_record attested.sound.consistent.causal
    testimony.sender testimony.payload
  generalize tracker.record testimony.sender testimony.payload = recorded
    at recording
  cases recording with
  | duplicate => exact ⟨.inl rfl, rfl, none⟩
  | stale => exact ⟨.inr rfl, rfl, none⟩
  | early _ above =>
      exact absurd (UInt32.lt_trans below above) (UInt32.lt_irrefl _)
  | next _ here =>
      rw [here] at below
      exact absurd below (UInt32.lt_irrefl _)

/-! ## The last number -/

def lone : Tracker :=
  new 1 1 (.empty 2) .causal

/-- The first messages of a node that is alone, as many as there shall be. -/
def soliloquy (count : Nat) : List Testimony :=
  (List.range' 1 count).map fun number =>
    ⟨1, .data 1 (UInt32.ofNat number) [] 2⟩

section Lone

variable {tracker : Tracker} {released : List Payload} {count : Nat}

theorem fresh_lone : lone.Fresh :=
  ⟨1, 1, .empty 2, [], rfl, rfl⟩

theorem mem_testifiers_soliloquy {uid : UInt32} (positive : 1 ≤ uid.toNat)
    (bound : uid.toNat ≤ count) :
    1 ∈ lone.testifiers (soliloquy count) ⟨1, uid⟩ := by
  have listed : (⟨1, .data 1 uid [] 2⟩ : Testimony) ∈ soliloquy count := by
    apply List.mem_map.mpr
    refine ⟨uid.toNat, List.mem_range'_1.mpr (by omega), ?_⟩
    rw [UInt32.ofNat_toNat]
  apply List.mem_dedup.mpr
  apply List.mem_map.mpr
  refine ⟨_, List.mem_filter.mpr ⟨List.mem_filter.mpr ⟨listed, rfl⟩, ?_⟩, rfl⟩
  exact decide_eq_true rfl

theorem lt_frontier_of_soliloquy
    (hearing : lone.hearAll (soliloquy count) = (tracker, released))
    (room : ∀ payload ∈ released, payload.uid ≠ lastUid) :
    count < (tracker.frontier 1).toNat := by
  have attested := fresh_lone.attested_of_hearing hearing room
  by_contra short
  have positive : 1 ≤ (tracker.frontier 1).toNat := by
    rw [attested.toNat_frontier]
    exact Nat.le_add_left 1 _
  have testified :=
    mem_testifiers_soliloquy positive (Nat.le_of_not_lt short)
  have majority : lone.nodeCount < 2 * (lone.testifiers (soliloquy count)
      (tracker.frontierMessage 1)).length := by
    have one := List.length_pos_of_mem testified
    change 1 < 2 * (lone.testifiers _ ⟨1, tracker.frontier 1⟩).length
    omega
  obtain ⟨_, _, dependency, depends, _⟩ :=
    attested.exists_unmet 1 majority
  exact List.not_mem_nil depends

/-- If a lone node speaks of all numbers, the release of the last one sends its
frontier back to zero. -/
theorem exists_fall (full : lastUid.toNat ≤ count) :
    ∃ before payload after earlier testimony later moment,
      (lone.hearAll (soliloquy count)).2 = before ++ payload :: after ∧
        soliloquy count = earlier ++ testimony :: later ∧
        Poised lone earlier testimony before payload moment ∧
        moment.frontier 1 = lastUid ∧
        (moment.releaseFrontier 1).frontier 1 = 0 := by
  obtain ⟨tracker, released, hearing⟩ : ∃ tracker released,
      lone.hearAll (soliloquy count) = (tracker, released) := ⟨_, _, rfl⟩
  have all : (lone.hearAll (soliloquy count)).2 = released := by rw [hearing]
  cases found : released.find? (·.uid = lastUid) with
  | none =>
      have room : ∀ payload ∈ released, payload.uid ≠ lastUid := by
        simpa using found
      have passed := lt_frontier_of_soliloquy hearing room
      have bound := (tracker.frontier 1).toNat_lt
      have last : lastUid.toNat = 4294967295 := rfl
      omega
  | some payload =>
      obtain ⟨last, before, after, split, first⟩ :=
        List.find?_eq_some_iff_append.mp found
      have room : ∀ earlier ∈ before, earlier.uid ≠ lastUid := by
        simpa using first
      have last := of_decide_eq_true last
      obtain ⟨earlier, testimony, later, moment, cut, poised, consistent⟩ :=
        fresh_lone.exists_poised_of_before room (all.trans split)
      have counts := consistent.countsUp poised.ready
      have told := (fresh_lone.told_of_hearing hearing).released payload
        (List.mem_of_find?_eq_some found)
      have own : payload.owner = 1 := by
        obtain ⟨testimony, listed, rfl⟩ := told
        obtain ⟨number, _, rfl⟩ := List.mem_map.mp listed
        rfl
      refine ⟨before, payload, after, earlier, testimony, later, moment,
        all.trans split, cut, poised, ?_, ?_⟩
      · rw [← own, counts.frontier_eq, last]
      · rw [← own, counts.frontier_wraps last]

end Lone

/-! ## All numbers -/

/-- Whatever a tracker hears, it releases no message twice.  Each release up
to that of a last number counts up the clock entry of its owner without an
overflow, and its frontier as well unless the number is the last one itself,
which sends the frontier back to zero.  As long as no last number is released,
every frontier is one more than the number of payloads released of its owner,
and what was released is never counted again. -/
theorem numbered_up_to_last {origin tracker : Tracker}
    {heard : List Testimony} {released : List Payload} (fresh : origin.Fresh)
    (hearing : origin.hearAll heard = (tracker, released)) :
    (released.map Payload.message).Nodup ∧
      (∀ before payload after, released = before ++ payload :: after →
        (∀ earlier ∈ before, earlier.uid ≠ lastUid) →
          ∃ earlier testimony later moment,
            heard = earlier ++ testimony :: later ∧
              Poised origin earlier testimony before payload moment ∧
              CountsUp moment payload) ∧
      ((∀ payload ∈ released, payload.uid ≠ lastUid) →
        (∀ owner, (tracker.frontier owner).toNat =
          (stream released owner).length + 1) ∧
        ∀ payload ∈ released, ∀ testimony : Testimony,
          testimony.payload.message = payload.message →
            let recorded :=
              tracker.record testimony.sender testimony.payload
            (recorded.sighting = .duplicate ∨ recorded.sighting = .stale) ∧
              recorded.released = [] ∧
              recorded.tracker.count payload.message = 0) := by
  have all : (origin.hearAll heard).2 = released := by rw [hearing]
  refine ⟨?_, ?_, ?_⟩
  · rw [← all]
    exact (fresh.spent_hearAll heard).once
  · intro before payload after split room
    rw [← all] at split
    obtain ⟨earlier, testimony, later, moment, cut, poised, consistent⟩ :=
      fresh.exists_poised_of_before room split
    exact ⟨earlier, testimony, later, moment, cut, poised,
      consistent.countsUp poised.ready⟩
  · intro room
    have attested := fresh.attested_of_hearing hearing room
    constructor
    · intro owner
      rw [attested.toNat_frontier, attested.length_stream]
    · intro payload member testimony same
      exact attested.uncounted_of_released member same

/-- After two messages of a lone node its frontier stands at the third. -/
theorem numbered_by_lone_node :
    ∃ tracker released before payload after,
      lone.hearAll (soliloquy 2) = (tracker, released) ∧
        (released.map Payload.message).Nodup ∧
        released = before ++ payload :: after ∧ payload.message = ⟨1, 2⟩ ∧
        (∃ earlier testimony moment,
          Poised lone earlier testimony before payload moment ∧
            CountsUp moment payload) ∧
        (tracker.frontier 1).toNat = (stream released 1).length + 1 ∧
        ((tracker.record 1 payload).sighting = .duplicate ∨
          (tracker.record 1 payload).sighting = .stale) := by
  obtain ⟨tracker, released, hearing⟩ : ∃ tracker released,
      lone.hearAll (soliloquy 2) = (tracker, released) := ⟨_, _, rfl⟩
  have room := (fresh_lone.told_of_hearing hearing).notLast (by decide)
  have attested := fresh_lone.attested_of_hearing hearing room
  obtain ⟨once, step, counted⟩ := numbered_up_to_last fresh_lone hearing
  obtain ⟨frontiers, uncounted⟩ := counted room
  have passed := lt_frontier_of_soliloquy hearing room
  rw [frontiers] at passed
  have second : (2 : UInt32).toNat ≤ (stream released 1).length :=
    Nat.le_of_lt_succ passed
  obtain ⟨payload, member, message⟩ :=
    attested.sound.accounts.numbered.exists_message_of_le (by decide) second
  obtain ⟨before, after, split⟩ := List.append_of_mem member
  have roomBefore : ∀ earlier ∈ before, earlier.uid ≠ lastUid := by
    intro earlier listed
    apply room
    rw [split]
    exact List.mem_append_left _ listed
  obtain ⟨earlier, testimony, _, moment, _, poised, counts⟩ :=
    step before payload after split roomBefore
  refine ⟨tracker, released, before, payload, after, hearing, once, split,
    message, ⟨earlier, testimony, moment, poised, counts⟩, frontiers 1, ?_⟩
  exact (uncounted payload member ⟨1, payload⟩ rfl).1

/-- The last of all the messages that a lone node can number makes its frontier
fall to zero. -/
theorem frontier_falls_after_last :
    ∃ before payload after earlier testimony later moment,
      (lone.hearAll (soliloquy 4294967295)).2 = before ++ payload :: after ∧
        soliloquy 4294967295 = earlier ++ testimony :: later ∧
        Poised lone earlier testimony before payload moment ∧
        moment.frontier 1 = lastUid ∧
        (moment.releaseFrontier 1).frontier 1 = 0 := by
  apply exists_fall
  exact Nat.le_refl 4294967295

end Tracker

end CausalCast
