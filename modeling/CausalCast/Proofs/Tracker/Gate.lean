import CausalCast.Proofs.Tracker.Guarantees

/-!
# The gate that every release has passed

A release stands in the middle of a recording: a witness has been noted, and
other payloads may have been released in the same cascade.  `Poised` says how
a tracker stands at that moment.  Whatever a tracker hears, a strict majority
of the nodes is on its record for the message by then, and the messages that
the clock of the payload claims of the owner's dependencies have been released
before.
-/

namespace CausalCast

namespace Tracker

/-- A tracker that has heard some testimonies is in the middle of hearing one
more: having released `before` in all, it stands as `moment` and is about to
release a payload. -/
structure Poised (origin : Tracker) (earlier : List Testimony)
    (testimony : Testimony) (before : List Payload) (payload : Payload)
    (moment : Tracker) : Prop where
  admits : origin.admits testimony = true
  reached : ∃ front, before = (origin.hearAll earlier).2 ++ front ∧
    Releases ((origin.hearAll earlier).1.sight testimony.sender
      testimony.payload) front moment
  ready : moment.ready? payload.owner = some payload
  left : ∃ back,
    (origin.hearAll (earlier ++ [testimony])).2 = before ++ payload :: back ∧
      Releases (moment.releaseFrontier payload.owner) back
        (origin.hearAll (earlier ++ [testimony])).1

/-- Each payload that a recording releases was ready at the frontier of its
owner when its turn came, and until then the tables were consistent. -/
theorem Consistent.exists_moment {tracker : Tracker}
    (consistent : tracker.Consistent) {sender : NodeId}
    {payload released : Payload} {front back : List Payload}
    (valid : tracker.problem? sender payload = none)
    (notLast : ∀ other ∈ front, other.uid ≠ lastUid)
    (split : (tracker.record sender payload).released =
      front ++ released :: back) :
    ∃ moment, Releases (tracker.sight sender payload) front moment ∧
      moment.Consistent ∧ moment.ready? released.owner = some released ∧
        Releases (moment.releaseFrontier released.owner) back
          (tracker.record sender payload).tracker := by
  have recording := recording_record consistent.causal sender payload
  generalize tracker.record sender payload = recorded at recording split
  cases recording with
  | duplicate => simp at split
  | stale => simp at split
  | early => simp at split
  | next fresh here =>
      have sighted := consistent.sight valid fresh (UInt32.le_of_eq here.symm)
      have releases := releases_cascade (tracker.sight sender payload)
        [payload.owner]
      change ((tracker.sight sender payload).cascade [payload.owner]).2 = _
        at split
      rw [split] at releases
      obtain ⟨moment, owner, reached, ready, left⟩ := releases.split
      have still := sighted.releases reached notLast
      obtain ⟨rfl, _⟩ := still.uid_of_ready? ready
      exact ⟨moment, reached, still, ready, left⟩

section Released

variable {origin tracker : Tracker} {heard : List Testimony}
  {released before after : List Payload} {payload : Payload}

/-- What the last recording releases is released in the middle of hearing the
last testimony. -/
theorem Attested.exists_poised {testimony : Testimony} {front : List Payload}
    (attested : Attested origin heard (origin.hearAll heard).1
      (origin.hearAll heard).2)
    (admits : (origin.hearAll heard).1.admits testimony = true)
    (room : ∀ other ∈ front, other.uid ≠ lastUid)
    (split : ((origin.hearAll heard).1.record testimony.sender
      testimony.payload).released = front ++ payload :: after) :
    ∃ moment, Poised origin heard testimony
        ((origin.hearAll heard).2 ++ front) payload moment ∧
      moment.Consistent := by
  have valid := Option.isNone_iff_eq_none.mp admits
  obtain ⟨moment, reached, consistent, ready, left⟩ :=
    attested.sound.consistent.exists_moment valid room split
  have same := attested.setup.admits_eq testimony
  refine ⟨moment, ⟨same.symm.trans admits, ⟨front, rfl, reached⟩, ready, after,
    ?_⟩, consistent⟩
  rw [hearAll_concat, hear_of_admits admits, split, List.append_assoc]
  exact ⟨rfl, left⟩

/-- Every release up to that of a last number happens in the middle of hearing
some testimony. -/
theorem Fresh.exists_poised_of_before (fresh : origin.Fresh)
    (room : ∀ payload ∈ before, payload.uid ≠ lastUid)
    (split : (origin.hearAll heard).2 = before ++ payload :: after) :
    ∃ earlier testimony later moment,
      heard = earlier ++ testimony :: later ∧
        Poised origin earlier testimony before payload moment ∧
        moment.Consistent := by
  induction heard using List.reverseRecOn generalizing after with
  | nil => simp at split
  | append_singleton heard testimony induction =>
      have earlier : ∀ rest,
          (origin.hearAll heard).2 = before ++ payload :: rest →
            ∃ earlier other later moment,
              heard ++ [testimony] = earlier ++ other :: later ∧
                Poised origin earlier other before payload moment ∧
                moment.Consistent := by
        intro rest within
        obtain ⟨earlier, other, later, moment, rfl, poised⟩ := induction within
        exact ⟨earlier, other, later ++ [testimony], moment, by simp, poised⟩
      rw [hearAll_concat] at split
      cases admits : (origin.hearAll heard).1.admits testimony with
      | false =>
          rw [hear_of_not_admits admits] at split
          exact earlier after split
      | true =>
          rw [hear_of_admits admits] at split
          rcases List.append_eq_append_iff.mp split with
            ⟨front, rfl, new⟩ | ⟨rest, within, new⟩
          · have attested := fresh.attested_hearAll heard
              (fun other member => room other (List.mem_append_left _ member))
            obtain ⟨moment, poised⟩ := attested.exists_poised admits
              (fun other member => room other (List.mem_append_right _ member))
              new
            exact ⟨heard, testimony, [], moment, rfl, poised⟩
          · cases rest with
            | cons first rest =>
                obtain ⟨rfl, _⟩ := List.cons.inj new
                exact earlier rest within
            | nil =>
                rw [List.append_nil] at within
                have attested := fresh.attested_hearAll heard
                  (by rw [within]; exact room)
                have first : ((origin.hearAll heard).1.record testimony.sender
                    testimony.payload).released = [] ++ payload :: after :=
                  new.symm
                obtain ⟨moment, poised⟩ :=
                  attested.exists_poised admits (by simp) first
                rw [List.append_nil, within] at poised
                exact ⟨heard, testimony, [], moment, rfl, poised⟩

/-- Every release happens in the middle of hearing some testimony. -/
theorem Fresh.exists_poised (fresh : origin.Fresh)
    (room : ∀ payload ∈ (origin.hearAll heard).2, payload.uid ≠ lastUid)
    (split : (origin.hearAll heard).2 = before ++ payload :: after) :
    ∃ earlier testimony later moment,
      heard = earlier ++ testimony :: later ∧
        Poised origin earlier testimony before payload moment := by
  rw [split] at room
  obtain ⟨earlier, testimony, later, moment, cut, poised, _⟩ :=
    fresh.exists_poised_of_before
      (fun other member => room other (List.mem_append_left _ member)) split
  exact ⟨earlier, testimony, later, moment, cut, poised⟩

/-- What is on record at the moment of a release is all that was told until
then. -/
theorem Poised.contains_iff {earlier : List Testimony} {testimony : Testimony}
    {moment : Tracker}
    (poised : Poised origin earlier testimony before payload moment)
    (attested : Attested origin (earlier ++ [testimony])
      (origin.hearAll (earlier ++ [testimony])).1
      (origin.hearAll (earlier ++ [testimony])).2)
    (sender : NodeId) (message : MessageId) :
    moment.contains sender message = true ↔
      sender ∈ origin.testifiers (earlier ++ [testimony]) message := by
  obtain ⟨back, _, left⟩ := poised.left
  have same : (origin.hearAll (earlier ++ [testimony])).1.witnesses =
      moment.witnesses := left.witnesses_eq
  rw [← contains_eq_of_witnesses_eq same, attested.contains_iff]
  simp only [testifiers, List.mem_dedup, List.mem_map, List.mem_filter,
    decide_eq_true_eq, Testimony.witness, Witness.mk.injEq]
  constructor
  · rintro ⟨told, listed, rfl, about⟩
    exact ⟨told, ⟨listed, about⟩, rfl⟩
  · rintro ⟨told, ⟨listed, about⟩, rfl⟩
    exact ⟨told, listed, rfl, about⟩

/-- A strict majority has testified to a message at the moment of its
release. -/
theorem Poised.majority {earlier : List Testimony} {testimony : Testimony}
    {moment : Tracker}
    (poised : Poised origin earlier testimony before payload moment)
    (attested : Attested origin (earlier ++ [testimony])
      (origin.hearAll (earlier ++ [testimony])).1
      (origin.hearAll (earlier ++ [testimony])).2) :
    origin.nodeCount < 2 * (origin.testifiers (earlier ++ [testimony])
      payload.message).length := by
  obtain ⟨back, released, _⟩ := poised.left
  have member : payload ∈ (origin.hearAll (earlier ++ [testimony])).2 := by
    rw [released]
    simp
  exact attested.majority_of_released member

/-- Whatever a tracker hears, when it releases a payload a strict majority of
the nodes is on its record for the message, and of each owner that the payload
depends on all messages that its clock claims have been released before. -/
theorem released_behind_gate (fresh : origin.Fresh)
    (hearing : origin.hearAll heard = (tracker, released))
    (room : ∀ payload ∈ released, payload.uid ≠ lastUid)
    (split : released = before ++ payload :: after) :
    (∃ earlier testimony later moment,
      heard = earlier ++ testimony :: later ∧
        Poised origin earlier testimony before payload moment ∧
        origin.nodeCount < 2 * (origin.testifiers (earlier ++ [testimony])
          payload.message).length ∧
        ∀ sender ∈ origin.testifiers (earlier ++ [testimony]) payload.message,
          moment.contains sender payload.message = true) ∧
      ∀ dependency ∈ origin.graph.dependencies payload.owner, ∀ number,
        1 ≤ number → number ≤ (payload.clock.entry dependency).toNat →
          ∃ earlier ∈ before, earlier.owner = dependency ∧
            earlier.uid.toNat = number := by
  have attested := fresh.attested_of_hearing hearing room
  constructor
  · have all : (origin.hearAll heard).2 = released := by rw [hearing]
    rw [← all] at room split
    obtain ⟨earlier, testimony, later, moment, rfl, poised⟩ :=
      fresh.exists_poised room split
    have grows := released_isPrefix origin (earlier ++ [testimony]) later
    rw [List.append_assoc] at grows
    have known := fresh.attested_hearAll (earlier ++ [testimony])
      (fun payload member => room payload (grows.subset member))
    refine ⟨earlier, testimony, later, moment, rfl, poised,
      poised.majority known, ?_⟩
    intro sender testified
    exact (poised.contains_iff known sender payload.message).mpr testified
  · intro dependency depends number positive bound
    have numbered := attested.sound.accounts.numbered
    rw [split] at numbered
    rw [← attested.setup.graph] at depends
    have claimed := attested.sound.accounts.gate before payload after split
      dependency depends
    exact numbered.of_append.exists_of_le positive
      (Nat.le_trans bound claimed)

end Released

/-- A message at a frontier that a strict majority has testified to waits for
something that its clock claims. -/
theorem Attested.exists_unmet {origin tracker : Tracker}
    {heard : List Testimony} {released : List Payload}
    (attested : Attested origin heard tracker released) (owner : NodeId)
    (majority : origin.nodeCount < 2 * (origin.testifiers heard
      (tracker.frontierMessage owner)).length) :
    ∃ payload, origin.firstCopy? heard (tracker.frontierMessage owner) =
        some payload ∧
      ∃ dependency ∈ origin.graph.dependencies owner,
        tracker.clock.entry dependency < payload.clock.entry dependency := by
  have testified : 0 < (origin.testifiers heard
      (tracker.frontierMessage owner)).length := by omega
  obtain ⟨payload, staged⟩ := attested.exists_staged testified
  refine ⟨payload, attested.staged _ _ staged, ?_⟩
  by_contra unmet
  have met : ∀ dependency ∈ origin.graph.dependencies owner,
      payload.clock.entry dependency ≤ tracker.clock.entry dependency := by
    intro dependency depends
    exact UInt32.not_lt.mp fun below => unmet ⟨dependency, depends, below⟩
  have releasable : tracker.canRelease owner payload.clock = true :=
    attested.canRelease_iff.mpr
      ⟨attested.isNode_of_staged staged, majority, met⟩
  rw [attested.canRelease_eq_false staged] at releasable
  contradiction

/-- Among three nodes of which the second depends on the first, a message of
the second that a majority has witnessed is released in the cascade that the
first one's message sets off, and after it. -/
theorem behind_gate_of_cascade :
    ∃ graph tracker released before payload after,
      CausalityGraph.ofEdges 4 [(2, [1])] = .ok graph ∧
        (new 1 3 graph .causal).hearAll
          [⟨2, ⟨1, 2, 2, false, [104], [0, 1, 0, 0]⟩⟩,
            ⟨3, ⟨1, 3, 2, true, [104], [0, 1, 0, 0]⟩⟩,
            ⟨1, ⟨1, 1, 1, false, [105], [0, 0, 0, 0]⟩⟩,
            ⟨2, ⟨1, 2, 1, true, [105], [0, 0, 0, 0]⟩⟩] =
          (tracker, released) ∧
        (∀ payload ∈ released, payload.uid ≠ lastUid) ∧
        released = before ++ payload :: after ∧ payload.message = ⟨2, 1⟩ ∧
        (∃ earlier testimony moment,
          Poised (new 1 3 graph .causal) earlier testimony before payload
            moment ∧
          3 < 2 * (Tracker.testifiers (new 1 3 graph .causal)
            (earlier ++ [testimony]) payload.message).length) ∧
        ∃ earlier ∈ before, earlier.owner = 1 ∧ earlier.uid.toNat = 1 := by
  let graph : CausalityGraph := ⟨#[[], [], [1], []], #[[], [2], [], []]⟩
  let heard : List Testimony :=
    [⟨2, ⟨1, 2, 2, false, [104], [0, 1, 0, 0]⟩⟩,
      ⟨3, ⟨1, 3, 2, true, [104], [0, 1, 0, 0]⟩⟩,
      ⟨1, ⟨1, 1, 1, false, [105], [0, 0, 0, 0]⟩⟩,
      ⟨2, ⟨1, 2, 1, true, [105], [0, 0, 0, 0]⟩⟩]
  have built : CausalityGraph.ofEdges 4 [(2, [1])] = .ok graph := rfl
  have fresh : (new 1 3 graph .causal).Fresh := ⟨1, 3, graph, _, built, rfl⟩
  obtain ⟨tracker, released, hearing⟩ : ∃ tracker released,
      (new 1 3 graph .causal).hearAll heard = (tracker, released) :=
    ⟨_, _, rfl⟩
  have told := fresh.told_of_hearing hearing
  have room := told.notLast (by decide)
  have attested := fresh.attested_of_hearing hearing room
  have entry : ∀ {owner : NodeId}, tracker.frontier owner ≠ 1 →
      1 ≤ (tracker.clock.entry owner).toNat := by
    intro owner moved
    have frontier := attested.toNat_frontier owner
    by_contra none
    exact moved (UInt32.toNat_inj.mp (show _ = 1 by omega))
  have first : tracker.frontier 1 ≠ 1 := by
    intro here
    obtain ⟨_, _, _, none, _⟩ := attested.exists_unmet 1 (by
      rw [frontierMessage, here]
      decide)
    contradiction
  have second : tracker.frontier 2 ≠ 1 := by
    intro here
    obtain ⟨payload, copy, dependency, depends, unmet⟩ :=
      attested.exists_unmet 2 (by
        rw [frontierMessage, here]
        decide)
    rw [frontierMessage, here] at copy
    obtain rfl := Option.some.inj copy
    obtain rfl := List.mem_singleton.mp depends
    have below : (tracker.clock.entry 1).toNat < 1 :=
      UInt32.lt_iff_toNat_lt.mp unmet
    have above := entry first
    omega
  have positive : 1 ≤ (1 : UInt32).toNat := Nat.le_refl 1
  have bound : (1 : UInt32).toNat ≤ (stream released 2).length := by
    rw [attested.length_stream]
    exact entry second
  obtain ⟨payload, member, message⟩ :=
    attested.sound.accounts.numbered.exists_message_of_le positive bound
  have clock : payload.clock = [0, 1, 0, 0] := by
    have copy := attested.released payload member
    rw [message] at copy
    rw [← Option.some.inj copy]
    rfl
  obtain ⟨before, after, split⟩ := List.append_of_mem member
  obtain ⟨⟨earlier, testimony, _, moment, _, poised, quorum, _⟩, claims⟩ :=
    released_behind_gate fresh hearing room split
  refine ⟨graph, tracker, released, before, payload, after, built, hearing,
    room, split, message, ⟨earlier, testimony, moment, poised, quorum⟩, ?_⟩
  have owner : payload.owner = 2 := (MessageId.mk.inj message).1
  rw [owner, clock] at claims
  exact claims 1 (by decide) 1 (Nat.le_refl 1) (Nat.le_refl 1)

end Tracker

end CausalCast
