import CausalCast.Proofs.Tracker.Guarantees

/-!
# What a tracker answers

A tracker answers a testimony out of tables that forget: counters and copies
go when a message is released, and the frontier alone remembers the release.
The answer is nevertheless the one that the whole history calls for.  `verdict`
states it with nothing but what was heard and released before: a testimony is
refused, known already, too late, or counted.
-/

namespace CausalCast

namespace Tracker

/-- Why a testimony is refused: the sender comes first, then the owner, then
the length of the clock. -/
def refusal? (origin : Tracker) (testimony : Testimony) :
    Option TrackerError :=
  let payload := testimony.payload
  if ¬(1 ≤ testimony.sender.toNat ∧
      testimony.sender.toNat ≤ origin.nodeCount) then
    some (.unknownNode .sender testimony.sender)
  else if ¬(1 ≤ payload.owner.toNat ∧
      payload.owner.toNat ≤ origin.nodeCount) then
    some (.unknownNode .owner payload.owner)
  else if payload.clock.length ≠ origin.nodeCount + 1 then
    some (.clockLength (origin.nodeCount + 1) payload.clock.length)
  else none

/-- The answer that a testimony is due when some testimonies were heard and
some payloads released before it, and when it releases a number of payloads
itself. -/
def verdict (origin : Tracker) (heard : List Testimony)
    (released : List Payload) (testimony : Testimony) (number : Nat) :
    Except TrackerError Sighting :=
  let payload := testimony.payload
  match origin.refusal? testimony with
  | some problem => .error problem
  | none =>
      if ∃ earlier ∈ origin.admitted heard,
          earlier.witness = testimony.witness then
        .ok .duplicate
      else if payload.uid = 0 ∨
          ∃ earlier ∈ released, earlier.message = payload.message then
        .ok .stale
      else
        .ok (.counted (origin.testifiers (heard ++ [testimony])
          payload.message).length number)

theorem refusal?_eq (origin : Tracker) (testimony : Testimony) :
    origin.refusal? testimony =
      origin.problem? testimony.sender testimony.payload := by
  have foreign : ∀ id, (!origin.isNode id) = true ↔
      ¬(1 ≤ id.toNat ∧ id.toNat ≤ origin.nodeCount) := by
    intro id
    simp only [isNode, Bool.not_eq_true', ← Bool.not_eq_true,
      Bool.and_eq_true, decide_eq_true_eq]
  unfold refusal? problem?
  simp only [foreign]
  rfl

section Answers

variable {origin tracker : Tracker} {heard : List Testimony}
  {released : List Payload} {testimony : Testimony}

/-- Below the frontiers are exactly the improper numbers and what was
released. -/
theorem Attested.lt_frontier_iff
    (attested : Attested origin heard tracker released)
    (message : MessageId) :
    message.uid < tracker.frontier message.owner ↔
      message.uid = 0 ∨ ∃ earlier ∈ released, earlier.message = message := by
  have next := attested.toNat_frontier message.owner
  rw [← attested.length_stream] at next
  constructor
  · intro below
    by_cases proper : message.uid = 0
    · exact .inl proper
    · have positive : 1 ≤ message.uid.toNat := by
        by_contra zero
        exact proper (UInt32.toNat_inj.mp (Nat.lt_one_iff.mp
          (Nat.lt_of_not_le zero)))
      have bound : message.uid.toNat ≤
          (stream released message.owner).length := by
        have passed := UInt32.lt_iff_toNat_lt.mp below
        omega
      exact .inr (attested.sound.accounts.numbered.exists_message_of_le
        positive bound)
  · rintro (zero | ⟨earlier, member, rfl⟩)
    · rw [zero, UInt32.lt_iff_toNat_lt, next]
      exact Nat.succ_pos _
    · exact attested.sound.lt_frontier member

theorem Attested.sighting_record
    (attested : Attested origin heard tracker released)
    (admits : origin.admits testimony = true)
    (room : ∀ payload ∈ (tracker.record testimony.sender
      testimony.payload).released, payload.uid ≠ lastUid) :
    .ok (tracker.record testimony.sender testimony.payload).sighting =
      origin.verdict heard released testimony
        (tracker.record testimony.sender
          testimony.payload).released.length := by
  have after := attested.record admits room
  have recorded := witnesses_record tracker testimony.sender testimony.payload
  have known : tracker.contains testimony.sender testimony.payload.message =
      true ↔ ∃ earlier ∈ origin.admitted heard,
        earlier.witness = testimony.witness := attested.contains_iff _ _
  have passed : testimony.payload.uid <
      tracker.frontier testimony.payload.owner ↔
        testimony.payload.uid = 0 ∨ ∃ earlier ∈ released,
          earlier.message = testimony.payload.message :=
    attested.lt_frontier_iff testimony.payload.message
  have counted := attested.sound.consistent.count_eq testimony.payload.message
  have witnesses := after.length_witnessesOf testimony.payload.message
  have recording := recording_record attested.sound.consistent.causal
    testimony.sender testimony.payload
  have accepted : origin.refusal? testimony = none := by
    rw [refusal?_eq]
    exact Option.isNone_iff_eq_none.mp admits
  simp only [verdict, accepted]
  have one : tracker.contains testimony.sender testimony.payload.message =
      false → tracker.frontier testimony.payload.owner ≤
        testimony.payload.uid →
      (origin.testifiers (heard ++ [testimony])
        testimony.payload.message).length =
          tracker.count testimony.payload.message + 1 := by
    intro fresh above
    rcases recorded with ⟨_, already⟩ | inserted
    · rw [fresh] at already
      contradiction
    · rw [← witnesses, length_witnessesOf_insert inserted fresh, if_pos rfl,
        counted above]
  have unknown : tracker.contains testimony.sender testimony.payload.message =
      false → ¬∃ earlier ∈ origin.admitted heard,
        earlier.witness = testimony.witness := by
    intro fresh earlier
    rw [known.mpr earlier] at fresh
    contradiction
  generalize tracker.record testimony.sender testimony.payload = outcome
    at recording
  cases recording with
  | duplicate already => rw [if_pos (known.mp already)]
  | stale fresh below =>
      rw [if_neg (unknown fresh), if_pos (passed.mp below)]
  | early fresh above =>
      have reached := UInt32.le_of_lt above
      rw [if_neg (unknown fresh), if_neg, one fresh reached]
      · rfl
      · intro gone
        exact UInt32.not_le.mpr (passed.mpr gone) reached
  | next fresh here =>
      have reached := UInt32.le_of_eq here.symm
      rw [if_neg (unknown fresh), if_neg, one fresh reached]
      intro gone
      exact UInt32.not_le.mpr (passed.mpr gone) reached

/-- Testimonies that are known already or come too late release nothing; those
that are known change nothing, and those that come too late add a witness. -/
theorem record_of_not_counted (causal : tracker.policy = .causal)
    (sender : NodeId) (payload : Payload) :
    ((tracker.record sender payload).sighting = .duplicate →
        tracker.record sender payload = ⟨tracker, .duplicate, []⟩) ∧
      ((tracker.record sender payload).sighting = .stale →
        tracker.record sender payload =
          ⟨tracker.witness sender payload.message, .stale, []⟩) := by
  have recording := recording_record causal sender payload
  generalize tracker.record sender payload = outcome at recording
  cases recording <;> simp

/-- A tracker answers every testimony as the history calls for, with the number
of messages that the testimony releases.  A testimony that is refused or known
already changes nothing; one that comes too late makes its sender a witness
and changes nothing else. -/
theorem insert_answers_verdict (fresh : origin.Fresh)
    (hearing : origin.hearAll heard = (tracker, released))
    (room : ∀ payload ∈ (origin.hearAll (heard ++ [testimony])).2,
      payload.uid ≠ lastUid) :
    ∃ answer after new,
      (tracker.insert testimony.sender testimony.payload).map
          Recorded.sighting = answer ∧
        answer = origin.verdict heard released testimony new.length ∧
        origin.hearAll (heard ++ [testimony]) = (after, released ++ new) ∧
        ((∃ problem, answer = .error problem) ∨ answer = .ok .duplicate →
          after = tracker ∧ new = []) ∧
        (answer = .ok .stale →
          new = [] ∧ after = { tracker with witnesses := after.witnesses } ∧
            ∀ sender message, after.contains sender message = true ↔
              (sender = testimony.sender ∧
                  message = testimony.payload.message) ∨
                tracker.contains sender message = true) := by
  have grows := released_isPrefix origin heard [testimony]
  rw [hearing] at grows
  have attested := fresh.attested_of_hearing hearing
    (fun payload member => room payload (grows.subset member))
  have same := attested.setup.admits_eq testimony
  rw [hearAll_concat, hearing] at room ⊢
  cases admits : origin.admits testimony with
  | false =>
      obtain ⟨problem, found⟩ := Option.isSome_iff_exists.mp
        (Option.isNone_eq_false_iff.mp admits)
      refine ⟨.error problem, tracker, [], ?_, ?_, ?_, ?_, ?_⟩
      · rw [insert, attested.setup.problem?_eq, found]
        rfl
      · simp only [verdict, refusal?_eq, found]
      · rw [hear_of_not_admits (same.trans admits), List.append_nil]
      · intro _
        exact ⟨rfl, rfl⟩
      · intro stale
        contradiction
  | true =>
      have valid := Option.isNone_iff_eq_none.mp admits
      rw [hear_of_admits (same.trans admits)] at room ⊢
      have answered := attested.sighting_record admits
        (fun payload member => room payload (List.mem_append_right _ member))
      obtain ⟨known, late⟩ := record_of_not_counted
        attested.sound.consistent.causal testimony.sender testimony.payload
      refine ⟨.ok (tracker.record testimony.sender
        testimony.payload).sighting, _, _, ?_, answered, rfl, ?_, ?_⟩
      · rw [insert, attested.setup.problem?_eq, valid]
        rfl
      · rintro (⟨problem, wrong⟩ | duplicate)
        · contradiction
        · rw [known (Except.ok.inj duplicate)]
          exact ⟨rfl, rfl⟩
      · intro stale
        have recorded := late (Except.ok.inj stale)
        refine ⟨by rw [recorded], by rw [recorded]; rfl, ?_⟩
        exact contains_record_iff tracker _ _

end Answers

/-- Of three nodes the second to testify is witness number two. -/
theorem second_of_three_is_counted :
    ∃ tracker released released',
      (new 1 3 (.empty 4) .causal).hearAll
          [⟨1, ⟨1, 1, 1, false, [104], [0, 0, 0, 0]⟩⟩] =
          (tracker, released) ∧
        (tracker.insert 2 ⟨1, 2, 1, true, [104], [0, 0, 0, 0]⟩).map
          Recorded.sighting = .ok (.counted 2 released') := by
  let copy : Testimony := ⟨1, ⟨1, 1, 1, false, [104], [0, 0, 0, 0]⟩⟩
  let ack : Testimony := ⟨2, ⟨1, 2, 1, true, [104], [0, 0, 0, 0]⟩⟩
  have fresh : (new 1 3 (.empty 4) .causal).Fresh :=
    ⟨1, 3, .empty 4, [], rfl, rfl⟩
  obtain ⟨tracker, released, hearing⟩ : ∃ tracker released,
      (new 1 3 (.empty 4) .causal).hearAll [copy] = (tracker, released) :=
    ⟨_, _, rfl⟩
  have before := (fresh.told_of_hearing hearing).notLast (by decide)
  have attested := fresh.attested_of_hearing hearing before
  obtain rfl : released = [] := attested.released_eq_nil_of_few (by decide)
  have room := (fresh.told_hearAll ([copy] ++ [ack])).notLast (by decide)
  obtain ⟨_, _, added, answer, rfl, _⟩ :=
    insert_answers_verdict fresh hearing room
  refine ⟨tracker, [], added.length, hearing, answer.trans ?_⟩
  unfold verdict
  rfl

end Tracker

end CausalCast
