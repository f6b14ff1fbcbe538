import CausalCast.Proofs.Tracker.Hearings
import CausalCast.Proofs.Tracker.Immediate
import Mathlib.Data.Set.Card

/-!
# Quorums and witnesses

A tracker keeps two books on who has seen a message.  The table of witnesses
only grows.  The counter is dropped when the message is released, and from then
on the frontier answers for it.  The two never disagree, whichever the policy
and whatever the tracker hears: it knows of a quorum for a message exactly if
more than half of the nodes are witnesses of it.
-/

namespace CausalCast

namespace Tracker

/-- How many nodes have witnessed a message. -/
noncomputable def witnessCount (tracker : Tracker) (message : MessageId) :
    Nat :=
  {sender | tracker.contains sender message = true}.ncard

theorem witnessCount_eq (tracker : Tracker) (message : MessageId) :
    tracker.witnessCount message = (tracker.witnessesOf message).length := by
  have listed : {sender | tracker.contains sender message = true} =
      ((tracker.witnessesOf message).toFinset : Set NodeId) := by
    ext sender
    simp only [Set.mem_ofPred_eq, List.coe_toFinset, mem_witnessesOf]
  rw [witnessCount, listed, Set.ncard_coe_finset,
    List.toFinset_card_of_nodup (tracker.nodup_witnessesOf message)]

/-- A tracker that has heard nothing yet, under either policy, with a graph
over its nodes. -/
def Initial (origin : Tracker) : Prop :=
  ∃ me nodeCount graph policy edges,
    CausalityGraph.ofEdges (nodeCount + 1) edges = .ok graph ∧
      origin = new me nodeCount graph policy

theorem Initial.fresh_of_causal {origin : Tracker} (initial : origin.Initial)
    (causal : origin.policy = .causal) : origin.Fresh := by
  obtain ⟨me, nodeCount, graph, policy, edges, built, rfl⟩ := initial
  obtain rfl : policy = .causal := causal
  exact ⟨me, nodeCount, graph, edges, built, rfl⟩

/-! ## The books agree -/

section Books

variable {tracker : Tracker} {message : MessageId}

theorem Consistent.hasQuorum_iff (consistent : tracker.Consistent)
    (node : tracker.isNode message.owner = true)
    (positive : 1 ≤ message.uid.toNat) :
    tracker.hasQuorum message = true ↔
      tracker.nodeCount / 2 < tracker.witnessCount message := by
  rw [witnessCount_eq]
  by_cases released : message.uid < tracker.frontier message.owner
  · have majority := consistent.quorum message node positive released
    rw [isMajority, decide_eq_true_eq] at majority
    simp [hasQuorum, node, released, majority]
  · have counted := consistent.count_eq message (UInt32.not_lt.mp released)
    simp [hasQuorum, node, released, counted, isMajority]

theorem Prompt.hasQuorum_iff (prompt : tracker.Prompt)
    (node : tracker.isNode message.owner = true)
    (positive : 1 ≤ message.uid.toNat) :
    tracker.hasQuorum message = true ↔
      tracker.nodeCount / 2 < tracker.witnessCount message := by
  have unreleased : ¬message.uid < tracker.frontier message.owner := by
    rw [prompt.frontier_eq, UInt32.lt_iff_toNat_lt]
    exact Nat.not_lt.mpr positive
  rw [witnessCount_eq]
  simp [hasQuorum, node, unreleased, prompt.count_eq message positive,
    isMajority]

end Books

/-! ## What one testimony more changes -/

section Hearing

variable {tracker origin : Tracker} {released : List Payload}

theorem sameSetup_hear (tracker : Tracker) (released : List Payload)
    (testimony : Testimony) :
    SameSetup tracker (hear (tracker, released) testimony).1 := by
  cases admits : tracker.admits testimony with
  | true =>
      rw [hear_of_admits admits]
      exact sameSetup_record _ _ _
  | false =>
      rw [hear_of_not_admits admits]
      exact .refl tracker

theorem sameSetup_hearAll (origin : Tracker) (heard : List Testimony) :
    SameSetup origin (origin.hearAll heard).1 := by
  induction heard using List.reverseRecOn with
  | nil => exact .refl origin
  | append_singleton heard testimony induction =>
      rw [hearAll_concat]
      exact induction.trans (sameSetup_hear _ _ _)

theorem contains_hear_iff (tracker : Tracker) (released : List Payload)
    (testimony : Testimony) (sender : NodeId) (message : MessageId) :
    (hear (tracker, released) testimony).1.contains sender message = true ↔
      (tracker.admits testimony = true ∧ sender = testimony.sender ∧
          message = testimony.payload.message) ∨
        tracker.contains sender message = true := by
  cases admits : tracker.admits testimony with
  | true => simp [hear_of_admits admits, contains_record_iff]
  | false => simp [hear_of_not_admits admits]

theorem witnessCount_record (tracker : Tracker) (sender : NodeId)
    (payload : Payload) (message : MessageId) :
    (tracker.record sender payload).tracker.witnessCount message =
      if payload.message = message ∧
          tracker.contains sender message = false then
        tracker.witnessCount message + 1
      else tracker.witnessCount message := by
  cases known : tracker.contains sender payload.message with
  | true =>
      rw [record_of_contains known, if_neg]
      rintro ⟨rfl, fresh⟩
      rw [known] at fresh
      contradiction
  | false =>
      rcases witnesses_record tracker sender payload with
        ⟨_, already⟩ | inserted
      · rw [known] at already
        contradiction
      · rw [witnessCount_eq, witnessCount_eq,
          length_witnessesOf_insert inserted known]
        by_cases same : message = payload.message
        · subst same
          simp [known]
        · simp [same, Ne.symm same]

/-- A message gets one witness more from a well-formed testimony of a node that
was none, and in no other way. -/
theorem witnessCount_hear (tracker : Tracker) (released : List Payload)
    (testimony : Testimony) (message : MessageId) :
    (hear (tracker, released) testimony).1.witnessCount message =
      if tracker.admits testimony = true ∧
          testimony.payload.message = message ∧
          tracker.contains testimony.sender message = false then
        tracker.witnessCount message + 1
      else tracker.witnessCount message := by
  cases admits : tracker.admits testimony with
  | true => simp [hear_of_admits admits, witnessCount_record]
  | false => simp [hear_of_not_admits admits]

theorem witnessCount_hearAll_le (origin : Tracker)
    (earlier later : List Testimony) (message : MessageId) :
    (origin.hearAll earlier).1.witnessCount message ≤
      (origin.hearAll (earlier ++ later)).1.witnessCount message := by
  induction later using List.reverseRecOn with
  | nil => rw [List.append_nil]
  | append_singleton later testimony induction =>
      rw [← List.append_assoc, hearAll_concat]
      apply Nat.le_trans induction
      rw [witnessCount_hear]
      split <;> omega

theorem Prompt.witness (prompt : tracker.Prompt) (sender : NodeId)
    {message : MessageId} (improper : message.uid.toNat = 0)
    (fresh : tracker.contains sender message = false) :
    (tracker.witness sender message).Prompt := by
  have lengths := length_witnessesOf_insert
    (witnesses_witness tracker sender message) fresh
  refine ⟨prompt.immediate, prompt.frontier_eq, ?_⟩
  intro other positive
  have different : other ≠ message := by
    rintro rfl
    omega
  rw [lengths, if_neg different]
  exact prompt.count_eq other positive

theorem Prompt.hear (prompt : tracker.Prompt) (released : List Payload)
    (testimony : Testimony) :
    (hear (tracker, released) testimony).1.Prompt := by
  cases admits : tracker.admits testimony with
  | false =>
      rw [hear_of_not_admits admits]
      exact prompt
  | true =>
      rw [hear_of_admits admits]
      by_cases positive : 1 ≤ testimony.payload.uid.toNat
      · exact prompt.record testimony.sender positive
      have improper : testimony.payload.message.uid.toNat = 0 :=
        Nat.lt_one_iff.mp (Nat.lt_of_not_le positive)
      cases known : tracker.contains testimony.sender
          testimony.payload.message with
      | true =>
          rw [record_of_contains known]
          exact prompt
      | false =>
          have below : testimony.payload.uid <
              tracker.frontier testimony.payload.owner := by
            rw [prompt.frontier_eq, UInt32.lt_iff_toNat_lt]
            exact Nat.lt_of_not_le positive
          rw [Tracker.record, known, if_neg Bool.false_ne_true, if_pos below]
          exact prompt.witness testimony.sender improper known

theorem Prompt.hearAll (prompt : origin.Prompt) (heard : List Testimony) :
    (origin.hearAll heard).1.Prompt := by
  induction heard using List.reverseRecOn with
  | nil => exact prompt
  | append_singleton heard testimony induction =>
      rw [hearAll_concat]
      exact induction.hear _ testimony

end Hearing

/-! ## What is known of a quorum -/

section Quorum

variable {origin : Tracker} {heard : List Testimony} {message : MessageId}

/-- Under either policy a tracker knows of a quorum exactly if a strict majority
of the nodes are witnesses. -/
theorem Initial.hasQuorum_hearAll_iff (initial : origin.Initial)
    (room : ∀ payload ∈ (origin.hearAll heard).2, payload.uid ≠ lastUid)
    (node : origin.isNode message.owner = true)
    (positive : 1 ≤ message.uid.toNat) :
    (origin.hearAll heard).1.hasQuorum message = true ↔
      origin.nodeCount / 2 <
        (origin.hearAll heard).1.witnessCount message := by
  have setup := sameSetup_hearAll origin heard
  rw [← setup.isNode_eq] at node
  rw [← setup.nodeCount]
  cases policy : origin.policy with
  | causal =>
      have fresh := initial.fresh_of_causal policy
      have attested := fresh.attested_hearAll heard room
      exact attested.sound.consistent.hasQuorum_iff node positive
  | immediate =>
      obtain ⟨me, nodeCount, graph, _, _, _, rfl⟩ := initial
      obtain rfl := policy
      have prompt := (prompt_new me nodeCount graph).hearAll heard
      exact prompt.hasQuorum_iff node positive

theorem Initial.hasQuorum_mono (initial : origin.Initial)
    {earlier later : List Testimony}
    (room : ∀ payload ∈ (origin.hearAll (earlier ++ later)).2,
      payload.uid ≠ lastUid)
    (node : origin.isNode message.owner = true)
    (positive : 1 ≤ message.uid.toNat)
    (quorum : (origin.hearAll earlier).1.hasQuorum message = true) :
    (origin.hearAll (earlier ++ later)).1.hasQuorum message = true := by
  have grows := released_isPrefix origin earlier later
  have earlierRoom : ∀ payload ∈ (origin.hearAll earlier).2,
      payload.uid ≠ lastUid :=
    fun payload member => room payload (grows.subset member)
  rw [initial.hasQuorum_hearAll_iff earlierRoom node positive] at quorum
  rw [initial.hasQuorum_hearAll_iff room node positive]
  exact Nat.lt_of_lt_of_le quorum
    (witnessCount_hearAll_le origin earlier later message)

/-- The quorum is reached by the testimony whose sender makes the majority. -/
theorem Initial.hasQuorum_flips_iff (initial : origin.Initial)
    {testimony : Testimony}
    (room : ∀ payload ∈ (origin.hearAll (heard ++ [testimony])).2,
      payload.uid ≠ lastUid)
    (node : origin.isNode message.owner = true)
    (positive : 1 ≤ message.uid.toNat) :
    (origin.hearAll heard).1.hasQuorum message = false ∧
        (origin.hearAll (heard ++ [testimony])).1.hasQuorum message = true ↔
      origin.admits testimony = true ∧
        testimony.payload.message = message ∧
        (origin.hearAll heard).1.contains testimony.sender message = false ∧
        (origin.hearAll heard).1.witnessCount message =
          origin.nodeCount / 2 := by
  have grows := released_isPrefix origin heard [testimony]
  have earlierRoom : ∀ payload ∈ (origin.hearAll heard).2,
      payload.uid ≠ lastUid :=
    fun payload member => room payload (grows.subset member)
  have setup := sameSetup_hearAll origin heard
  rw [← Bool.not_eq_true,
    initial.hasQuorum_hearAll_iff earlierRoom node positive,
    initial.hasQuorum_hearAll_iff room node positive, hearAll_concat,
    witnessCount_hear, setup.admits_eq]
  split
  case isTrue new =>
      obtain ⟨admits, about, fresh⟩ := new
      simp only [admits, about, fresh, true_and]
      omega
  case isFalse old =>
      constructor
      · rintro ⟨before, after⟩
        exact absurd after before
      · rintro ⟨admits, about, fresh, _⟩
        exact absurd ⟨admits, about, fresh⟩ old

/-- The counter of a released message is dropped, and the quorum stays known
nevertheless. -/
theorem Fresh.hasQuorum_of_released {tracker : Tracker}
    {released : List Payload} (fresh : origin.Fresh)
    (hearing : origin.hearAll heard = (tracker, released))
    (room : ∀ payload ∈ released, payload.uid ≠ lastUid) {payload : Payload}
    (member : payload ∈ released) :
    tracker.count payload.message = 0 ∧
      tracker.hasQuorum payload.message = true := by
  have attested := fresh.attested_of_hearing hearing room
  have below := attested.sound.lt_frontier member
  have node := attested.sound.accounts.nodes payload member
  constructor
  · by_contra counted
    exact UInt32.not_le.mpr below
      (attested.totals.counted payload.message counted)
  · have passed : payload.message.uid <
        tracker.frontier payload.message.owner := below
    have owner : tracker.isNode payload.message.owner = true := node
    simp [hasQuorum, owner, passed]

/-- Under either policy, whatever a tracker hears: it knows of a quorum for a
message exactly if a strict majority of the nodes are witnesses of it.  The
testimony that makes the majority is the one that changes the answer; the
answer stays when the counter is dropped at the release, and it never changes
back.  Nobody's messages have no quorum. -/
theorem hasQuorum_exactly_by_majority {tracker : Tracker}
    {released : List Payload} (initial : origin.Initial)
    (hearing : origin.hearAll heard = (tracker, released))
    (room : ∀ payload ∈ released, payload.uid ≠ lastUid)
    (message : MessageId) :
    (1 ≤ message.owner.toNat ∧ message.owner.toNat ≤ origin.nodeCount →
      1 ≤ message.uid.toNat →
        (tracker.hasQuorum message = true ↔
          origin.nodeCount / 2 < tracker.witnessCount message) ∧
        (∀ earlier testimony, earlier ++ [testimony] <+: heard →
          ((origin.hearAll earlier).1.hasQuorum message = false ∧
              (origin.hearAll (earlier ++ [testimony])).1.hasQuorum message =
                true ↔
            origin.admits testimony = true ∧
              testimony.payload.message = message ∧
              (origin.hearAll earlier).1.contains testimony.sender message =
                false ∧
              (origin.hearAll earlier).1.witnessCount message =
                origin.nodeCount / 2)) ∧
        (∀ earlier, earlier <+: heard →
          (origin.hearAll earlier).1.hasQuorum message = true →
            tracker.hasQuorum message = true) ∧
        (origin.policy = .causal → ∀ payload ∈ released,
          payload.message = message →
            tracker.count message = 0 ∧ tracker.hasQuorum message = true)) ∧
      (¬(1 ≤ message.owner.toNat ∧
          message.owner.toNat ≤ origin.nodeCount) →
        tracker.hasQuorum message = false) := by
  obtain rfl : (origin.hearAll heard).1 = tracker := congrArg Prod.fst hearing
  obtain rfl : (origin.hearAll heard).2 = released := congrArg Prod.snd hearing
  have node_iff : origin.isNode message.owner = true ↔
      1 ≤ message.owner.toNat ∧
        message.owner.toNat ≤ origin.nodeCount := by
    simp [isNode]
  rw [← node_iff]
  refine ⟨fun node positive => ⟨?_, ?_, ?_, ?_⟩, ?_⟩
  · exact initial.hasQuorum_hearAll_iff room node positive
  · rintro earlier testimony ⟨later, rfl⟩
    have grows := released_isPrefix origin (earlier ++ [testimony]) later
    exact initial.hasQuorum_flips_iff
      (fun payload member => room payload (grows.subset member)) node positive
  · rintro earlier ⟨later, rfl⟩ quorum
    exact initial.hasQuorum_mono room node positive quorum
  · rintro causal payload member rfl
    have fresh := initial.fresh_of_causal causal
    exact fresh.hasQuorum_of_released rfl room member
  · intro foreign
    have setup := sameSetup_hearAll origin heard
    rw [← setup.isNode_eq, Bool.not_eq_true] at foreign
    rw [hasQuorum, foreign, Bool.false_and]

end Quorum

/-- Of three nodes the second to testify makes the majority. -/
theorem quorum_by_second_of_three :
    ∃ before after early late,
      (new 1 3 (.empty 4) .causal).hearAll
          [⟨1, ⟨1, 1, 1, false, [104], [0, 0, 0, 0]⟩⟩] = (before, early) ∧
        (new 1 3 (.empty 4) .causal).hearAll
          [⟨1, ⟨1, 1, 1, false, [104], [0, 0, 0, 0]⟩⟩,
            ⟨2, ⟨1, 2, 1, true, [104], [0, 0, 0, 0]⟩⟩] = (after, late) ∧
        before.hasQuorum ⟨1, 1⟩ = false ∧ after.hasQuorum ⟨1, 1⟩ = true := by
  let copy : Testimony := ⟨1, ⟨1, 1, 1, false, [104], [0, 0, 0, 0]⟩⟩
  let ack : Testimony := ⟨2, ⟨1, 2, 1, true, [104], [0, 0, 0, 0]⟩⟩
  have initial : (new 1 3 (.empty 4) .causal).Initial :=
    ⟨1, 3, .empty 4, .causal, [], rfl, rfl⟩
  have told := (initial.fresh_of_causal rfl).told_hearAll [copy, ack]
  have room := told.notLast (by decide)
  refine ⟨_, _, _, _, rfl, rfl, ?_⟩
  have answers := hasQuorum_exactly_by_majority initial rfl room ⟨1, 1⟩
  obtain ⟨_, flips, _, _⟩ := answers.1 (by decide) (by decide)
  apply (flips [copy] ack (List.prefix_refl _)).mpr
  have unheard : ∀ sender, (new 1 3 (.empty 4) .causal).contains sender
      ⟨1, 1⟩ = false := by
    simp [contains, new]
  refine ⟨rfl, rfl, ?_, ?_⟩
  · rw [← Bool.not_eq_true, hearAll, List.foldl_cons, List.foldl_nil,
      contains_hear_iff, unheard]
    decide
  · have nobody : (new 1 3 (.empty 4) .causal).witnessCount ⟨1, 1⟩ = 0 := by
      simp [witnessCount, unheard]
    rw [hearAll, List.foldl_cons, List.foldl_nil, witnessCount_hear, nobody,
      if_pos ⟨rfl, rfl, unheard 1⟩]
    rfl

end Tracker

end CausalCast
