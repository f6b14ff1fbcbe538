import CausalCast.Proofs.Tracker.Deliveries
import CausalCast.Proofs.Tracker.Totals
import Mathlib.Data.List.Dedup
import Mathlib.Data.List.Induction

/-!
# What a tracker makes of all that it hears

A tracker is told again and again that some node has seen some payload.  Such
testimonies may come from anywhere, in any order and any number of times, and
their clocks and numbers may be made up; the ill-formed ones are rejected.
Whatever a tracker hears, it leaves nothing behind that could be released, and
it releases the messages of each owner in the order of their numbers, each as
it was first told of it.
-/

namespace CausalCast

/-- That a node has seen a payload. -/
structure Testimony where
  sender : NodeId
  payload : Payload
deriving DecidableEq, Repr

namespace Testimony

/-- What a testimony adds to the table of witnesses. -/
def witness (testimony : Testimony) : Witness :=
  ⟨testimony.sender, testimony.payload.message⟩

end Testimony

namespace Tracker

/-- Whether a testimony is well formed. -/
def admits (tracker : Tracker) (testimony : Testimony) : Bool :=
  (tracker.problem? testimony.sender testimony.payload).isNone

/-- Those of some testimonies that a tracker records. -/
def admitted (tracker : Tracker) (heard : List Testimony) : List Testimony :=
  heard.filter tracker.admits

/-- The nodes that have testified to a message, each once. -/
def testifiers (tracker : Tracker) (heard : List Testimony)
    (message : MessageId) : List NodeId :=
  (((tracker.admitted heard).filter (·.payload.message = message)).map
    Testimony.sender).dedup

/-- A message as a tracker was first told of it. -/
def firstCopy? (tracker : Tracker) (heard : List Testimony)
    (message : MessageId) : Option Payload :=
  ((tracker.admitted heard).find? (·.payload.message = message)).map
    (·.payload.toData)

/-- Let a tracker, which has released some payloads, hear a testimony. -/
def hear (state : Tracker × List Payload) (testimony : Testimony) :
    Tracker × List Payload :=
  match state.1.insert testimony.sender testimony.payload with
  | .error _ => state
  | .ok recorded => (recorded.tracker, state.2 ++ recorded.released)

/-- A tracker after it has heard some testimonies, one after the other, and the
payloads that it has released, in order. -/
def hearAll (tracker : Tracker) (heard : List Testimony) :
    Tracker × List Payload :=
  heard.foldl hear (tracker, [])

/-- A fresh tracker that respects causality, with a graph over its nodes. -/
def Fresh (tracker : Tracker) : Prop :=
  ∃ me nodeCount graph edges,
    CausalityGraph.ofEdges (nodeCount + 1) edges = .ok graph ∧
      tracker = new me nodeCount graph .causal

/-! ## One testimony more -/

section Hearing

variable {tracker origin : Tracker} {released : List Payload}
  {heard : List Testimony} {testimony : Testimony}

theorem hear_of_admits (admits : tracker.admits testimony = true) :
    hear (tracker, released) testimony =
      ((tracker.record testimony.sender testimony.payload).tracker,
        released ++
          (tracker.record testimony.sender testimony.payload).released) := by
  have valid := Option.isNone_iff_eq_none.mp admits
  simp [hear, insert, valid]

theorem hear_of_not_admits (rejects : tracker.admits testimony = false) :
    hear (tracker, released) testimony = (tracker, released) := by
  obtain ⟨problem, found⟩ := Option.isSome_iff_exists.mp
    (Option.isNone_eq_false_iff.mp rejects)
  simp [hear, insert, found]

@[simp] theorem hearAll_nil (origin : Tracker) :
    origin.hearAll [] = (origin, []) := rfl

theorem hearAll_concat (origin : Tracker) (heard : List Testimony)
    (testimony : Testimony) :
    origin.hearAll (heard ++ [testimony]) =
      hear (origin.hearAll heard) testimony := by
  simp [hearAll, List.foldl_append]

theorem setup_hearAll (origin : Tracker) (heard : List Testimony) :
    SameSetup origin (origin.hearAll heard).1 ∧
      (origin.hearAll heard).1.clock.length = origin.clock.length := by
  induction heard using List.reverseRecOn with
  | nil => exact ⟨.refl origin, rfl⟩
  | append_singleton heard testimony induction =>
      rw [hearAll_concat]
      cases state : origin.hearAll heard with
      | mk tracker released =>
          rw [state] at induction
          obtain ⟨setup, length⟩ := induction
          cases admits : tracker.admits testimony with
          | true =>
              rw [hear_of_admits admits]
              exact ⟨setup.trans (sameSetup_record _ _ _),
                (length_clock_record _ _ _).trans length⟩
          | false =>
              rw [hear_of_not_admits admits]
              exact ⟨setup, length⟩

theorem SameSetup.admits_eq (setup : SameSetup origin tracker)
    (testimony : Testimony) :
    tracker.admits testimony = origin.admits testimony := by
  simp only [admits, setup.problem?_eq]

theorem admitted_concat_of_admits (admits : origin.admits testimony = true) :
    origin.admitted (heard ++ [testimony]) =
      origin.admitted heard ++ [testimony] := by
  simp [admitted, admits]

theorem admitted_concat_of_not_admits
    (rejects : origin.admits testimony = false) :
    origin.admitted (heard ++ [testimony]) = origin.admitted heard := by
  simp [admitted, rejects]

theorem firstCopy?_eq_none_iff {message : MessageId} :
    origin.firstCopy? heard message = none ↔
      ∀ earlier ∈ origin.admitted heard,
        earlier.payload.message ≠ message := by
  simp [firstCopy?]

theorem firstCopy?_concat (admits : origin.admits testimony = true)
    (message : MessageId) :
    origin.firstCopy? (heard ++ [testimony]) message =
      (origin.firstCopy? heard message).or
        (if testimony.payload.message = message then
          some testimony.payload.toData
        else none) := by
  rw [firstCopy?, admitted_concat_of_admits admits, List.find?_append,
    Option.map_or, List.find?_singleton]
  by_cases same : testimony.payload.message = message <;>
    simp [firstCopy?, same]

theorem firstCopy?_concat_of_some (admits : origin.admits testimony = true)
    {message : MessageId} {payload : Payload}
    (first : origin.firstCopy? heard message = some payload) :
    origin.firstCopy? (heard ++ [testimony]) message = some payload := by
  rw [firstCopy?_concat admits, first]
  rfl

/-- What was released earlier stays released. -/
theorem released_isPrefix (origin : Tracker)
    (earlier later : List Testimony) :
    (origin.hearAll earlier).2 <+: (origin.hearAll (earlier ++ later)).2 := by
  induction later using List.reverseRecOn with
  | nil => simp
  | append_singleton later testimony induction =>
      rw [← List.append_assoc, hearAll_concat]
      cases state : origin.hearAll (earlier ++ later) with
      | mk tracker released =>
          rw [state] at induction
          cases admits : tracker.admits testimony with
          | true =>
              rw [hear_of_admits admits]
              exact induction.trans (List.prefix_append _ _)
          | false =>
              rw [hear_of_not_admits admits]
              exact induction

end Hearing

/-! ## What a tracker holds is what it has heard -/

/-- A tracker is in order, and its witnesses and payloads are those that it was
told of. -/
structure Attested (origin : Tracker) (heard : List Testimony)
    (tracker : Tracker) (released : List Payload) : Prop where
  sound : tracker.Sound released
  totals : tracker.Totals released
  setup : SameSetup origin tracker
  contains_iff : ∀ sender message,
    tracker.contains sender message = true ↔
      ∃ testimony ∈ origin.admitted heard,
        testimony.witness = ⟨sender, message⟩
  staged : ∀ (message : MessageId) (payload : Payload),
    tracker.staged[message]? = some payload →
      origin.firstCopy? heard message = some payload
  released : ∀ payload ∈ released,
    origin.firstCopy? heard payload.message = some payload

theorem Fresh.attested {origin : Tracker} (fresh : origin.Fresh) :
    Attested origin [] origin [] := by
  obtain ⟨me, nodeCount, graph, edges, built, rfl⟩ := fresh
  obtain ⟨coherent, length⟩ := CausalityGraph.coherent_ofEdges built
  refine ⟨sound_new coherent length, totals_new _ _ _ _, .refl _, ?_, ?_, ?_⟩
  · simp [contains, new, admitted]
  · simp [new]
  · simp

namespace Attested

variable {origin tracker : Tracker} {heard : List Testimony}
  {released : List Payload} {testimony : Testimony}

section

variable (attested : Attested origin heard tracker released)

include attested

theorem firstCopy?_eq_none {message : MessageId}
    (nobody : tracker.witnessesOf message = []) :
    origin.firstCopy? heard message = none := by
  apply firstCopy?_eq_none_iff.mpr
  intro earlier listed same
  have known : tracker.contains earlier.sender message = true := by
    apply (attested.contains_iff _ _).mpr
    exact ⟨earlier, listed, by rw [Testimony.witness, same]⟩
  have witness := mem_witnessesOf.mpr known
  rw [nobody] at witness
  contradiction

theorem length_witnessesOf (message : MessageId) :
    (tracker.witnessesOf message).length =
      (origin.testifiers heard message).length := by
  apply List.Perm.length_eq
  apply (List.perm_ext_iff_of_nodup (tracker.nodup_witnessesOf message)
    (List.nodup_dedup _)).mpr
  intro sender
  rw [mem_witnessesOf, attested.contains_iff]
  simp only [List.mem_dedup, List.mem_map, List.mem_filter,
    decide_eq_true_eq, Testimony.witness, Witness.mk.injEq]
  constructor
  · rintro ⟨earlier, listed, same, about⟩
    exact ⟨earlier, ⟨listed, about⟩, same⟩
  · rintro ⟨earlier, ⟨listed, about⟩, same⟩
    exact ⟨earlier, listed, same, about⟩

/-- A strict majority has testified to what is released. -/
theorem majority_of_released {payload : Payload}
    (member : payload ∈ released) :
    origin.nodeCount <
      2 * (origin.testifiers heard payload.message).length := by
  have majority := attested.sound.isMajority_of_released member
  rw [attested.length_witnessesOf, isMajority, attested.setup.nodeCount,
    decide_eq_true_eq] at majority
  omega

theorem released_eq_nil_of_few (few : 2 * heard.length ≤ origin.nodeCount) :
    released = [] := by
  apply List.eq_nil_iff_forall_not_mem.mpr
  intro payload member
  have majority := attested.majority_of_released member
  have distinct : (origin.testifiers heard payload.message).length ≤
      heard.length := by
    apply Nat.le_trans (List.dedup_sublist _).length_le
    rw [List.length_map]
    exact Nat.le_trans (List.length_filter_le _ _) (List.length_filter_le _ _)
  omega

theorem staged_sight (admits : origin.admits testimony = true)
    (above : tracker.frontier testimony.payload.owner ≤
      testimony.payload.uid) {message : MessageId} {payload : Payload}
    (found : (tracker.sight testimony.sender
      testimony.payload).staged[message]? = some payload) :
    origin.firstCopy? (heard ++ [testimony]) message = some payload := by
  rw [Tracker.staged_sight] at found
  split at found
  case isTrue first =>
      obtain ⟨rfl, none, _⟩ := first
      have counted := attested.sound.consistent.count_eq
        testimony.payload.message above
      have nobody : tracker.witnessesOf testimony.payload.message = [] := by
        apply List.eq_nil_of_length_eq_zero
        rw [← counted]
        exact none
      rw [firstCopy?_concat admits, attested.firstCopy?_eq_none nobody,
        if_pos rfl]
      exact found
  case isFalse =>
      exact firstCopy?_concat_of_some admits
        (attested.staged message payload found)

theorem firstCopy?_record (admits : origin.admits testimony = true) :
    (∀ (message : MessageId) (payload : Payload),
      (tracker.record testimony.sender
          testimony.payload).tracker.staged[message]? = some payload →
        origin.firstCopy? (heard ++ [testimony]) message = some payload) ∧
    ∀ payload ∈ (tracker.record testimony.sender
        testimony.payload).released,
      ∃ message, origin.firstCopy? (heard ++ [testimony]) message =
        some payload := by
  have causal := attested.sound.consistent.causal
  have recording :=
    recording_record causal testimony.sender testimony.payload
  generalize tracker.record testimony.sender testimony.payload = recorded
    at recording
  have old : ∀ (message : MessageId) (payload : Payload),
      tracker.staged[message]? = some payload →
        origin.firstCopy? (heard ++ [testimony]) message = some payload :=
    fun message payload found =>
      firstCopy?_concat_of_some admits (attested.staged message payload found)
  cases recording with
  | duplicate => exact ⟨old, by simp⟩
  | stale => exact ⟨old, by simp⟩
  | early fresh above =>
      refine ⟨?_, by simp⟩
      intro message payload found
      exact attested.staged_sight admits (UInt32.le_of_lt above) found
  | next fresh here =>
      have above := UInt32.le_of_eq here.symm
      have releases := releases_cascade
        (tracker.sight testimony.sender testimony.payload)
        [testimony.payload.owner]
      constructor
      · intro message payload found
        exact attested.staged_sight admits above
          (releases.staged_of_staged found)
      · intro payload member
        obtain ⟨message, found⟩ := releases.staged_of_mem member
        exact ⟨message, attested.staged_sight admits above found⟩

theorem record (admits : origin.admits testimony = true)
    (room : ∀ payload ∈ (tracker.record testimony.sender
      testimony.payload).released, payload.uid ≠ lastUid) :
    Attested origin (heard ++ [testimony])
      (tracker.record testimony.sender testimony.payload).tracker
      (released ++
        (tracker.record testimony.sender testimony.payload).released) := by
  have valid : tracker.problem? testimony.sender testimony.payload = none := by
    rw [← attested.setup.admits_eq] at admits
    exact Option.isNone_iff_eq_none.mp admits
  obtain ⟨staged, new⟩ := attested.firstCopy?_record admits
  refine ⟨attested.sound.record valid room,
    attested.totals.record attested.sound.consistent valid room,
    attested.setup.trans (sameSetup_record _ _ _), ?_, staged, ?_⟩
  · intro sender message
    rw [contains_record_iff, attested.contains_iff,
      admitted_concat_of_admits admits]
    simp only [List.mem_append, List.mem_singleton, or_and_right, exists_or,
      exists_eq_left, Testimony.witness, Witness.mk.injEq]
    rw [or_comm]
    simp only [eq_comm]
  · intro payload member
    rcases List.mem_append.mp member with earlier | later
    · exact firstCopy?_concat_of_some admits
        (attested.released payload earlier)
    · obtain ⟨message, first⟩ := new payload later
      have identity : payload.message = message := by
        obtain ⟨told, found, rfl⟩ := Option.map_eq_some_iff.mp first
        simpa using List.find?_some found
      rw [identity]
      exact first

theorem reject (rejects : origin.admits testimony = false) :
    Attested origin (heard ++ [testimony]) tracker released := by
  have same : origin.admitted (heard ++ [testimony]) = origin.admitted heard :=
    admitted_concat_of_not_admits rejects
  refine ⟨attested.sound, attested.totals, attested.setup, ?_, ?_, ?_⟩
  · rw [same]
    exact attested.contains_iff
  · simp only [firstCopy?, same]
    exact attested.staged
  · simp only [firstCopy?, same]
    exact attested.released

theorem stream_of_not_isNode {owner : NodeId}
    (foreign : tracker.isNode owner = false) : stream released owner = [] := by
  apply List.filter_eq_nil_iff.mpr
  intro payload member same
  have node := attested.sound.accounts.nodes payload member
  rw [of_decide_eq_true same, foreign] at node
  contradiction

/-- As many payloads of an owner are released as its clock entry says, also of
an id that is no node. -/
theorem length_stream (owner : NodeId) :
    (stream released owner).length = (tracker.clock.entry owner).toNat := by
  cases node : tracker.isNode owner with
  | true => exact attested.sound.accounts.length_stream owner node
  | false =>
      have nothing := attested.stream_of_not_isNode node
      rw [attested.totals.clock, nothing]
      by_cases inRange : owner.toNat < tracker.clockLength
      · rw [entry_tally released inRange, countP_owner, nothing]
        rfl
      · simp [VectorClock.entry, inRange]

theorem toNat_frontier (owner : NodeId) :
    (tracker.frontier owner).toNat =
      (tracker.clock.entry owner).toNat + 1 := by
  cases node : tracker.isNode owner with
  | true => exact attested.sound.consistent.frontier_eq owner node
  | false =>
      have none : (tracker.clock.entry owner).toNat = 0 := by
        rw [← attested.length_stream, attested.stream_of_not_isNode node]
        rfl
      rw [attested.totals.frontier_eq, UInt32.toNat_add, none]
      rfl

end

end Attested

/-- As long as no owner runs out of numbers, a tracker is in order whatever it
hears, and it holds what it was told of. -/
theorem Fresh.attested_hearAll {origin : Tracker} (fresh : origin.Fresh)
    (heard : List Testimony)
    (room : ∀ payload ∈ (origin.hearAll heard).2, payload.uid ≠ lastUid) :
    Attested origin heard (origin.hearAll heard).1
      (origin.hearAll heard).2 := by
  induction heard using List.reverseRecOn with
  | nil => exact fresh.attested
  | append_singleton heard testimony induction =>
      have grows := released_isPrefix origin heard [testimony]
      have attested := induction
        (fun payload member => room payload (grows.subset member))
      rw [hearAll_concat] at room ⊢
      generalize origin.hearAll heard = state at room attested
      obtain ⟨tracker, released⟩ := state
      have same := attested.setup.admits_eq testimony
      cases admits : origin.admits testimony with
      | true =>
          rw [hear_of_admits (same.trans admits)] at room ⊢
          apply attested.record admits
          intro payload member
          exact room payload (List.mem_append_right _ member)
      | false =>
          rw [hear_of_not_admits (same.trans admits)]
          exact attested.reject admits

theorem Fresh.attested_of_hearing {origin tracker : Tracker}
    {heard : List Testimony} {released : List Payload} (fresh : origin.Fresh)
    (hearing : origin.hearAll heard = (tracker, released))
    (room : ∀ payload ∈ released, payload.uid ≠ lastUid) :
    Attested origin heard tracker released := by
  have attested := fresh.attested_hearAll heard
  rw [hearing] at attested
  exact attested room

/-! ## Nothing is made up -/

/-- What a tracker has staged or released was brought by a testimony, be the
testimonies as they may. -/
structure Told (heard : List Testimony) (tracker : Tracker)
    (released : List Payload) : Prop where
  causal : tracker.policy = .causal
  staged : ∀ (message : MessageId) (payload : Payload),
    tracker.staged[message]? = some payload →
      ∃ testimony ∈ heard, payload = testimony.payload.toData
  released : ∀ payload ∈ released,
    ∃ testimony ∈ heard, payload = testimony.payload.toData

theorem Told.hear {tracker : Tracker} {released : List Payload}
    {heard : List Testimony} (told : Told heard tracker released)
    (testimony : Testimony) :
    Told (heard ++ [testimony]) (Tracker.hear (tracker, released) testimony).1
      (Tracker.hear (tracker, released) testimony).2 := by
  have still : ∀ {payload : Payload},
      (∃ earlier ∈ heard, payload = earlier.payload.toData) →
        ∃ earlier ∈ heard ++ [testimony],
          payload = earlier.payload.toData := by
    rintro _ ⟨earlier, listed, rfl⟩
    exact ⟨earlier, List.mem_append_left _ listed, rfl⟩
  have now : ∃ earlier ∈ heard ++ [testimony],
      testimony.payload.toData = earlier.payload.toData :=
    ⟨testimony, by simp, rfl⟩
  cases admits : tracker.admits testimony with
  | false =>
      rw [hear_of_not_admits admits]
      constructor
      · exact told.causal
      · intro message payload found
        exact still (told.staged message payload found)
      · intro payload member
        exact still (told.released payload member)
  | true =>
      rw [hear_of_admits admits]
      constructor
      · exact (sameSetup_record _ _ _).policy.trans told.causal
      · intro message payload found
        rcases staged_of_staged_record told.causal found with old | rfl
        · exact still (told.staged message payload old)
        · exact now
      · intro payload member
        rcases List.mem_append.mp member with old | new
        · exact still (told.released payload old)
        · rcases staged_of_mem_released told.causal new with
            ⟨message, found⟩ | rfl
          · exact still (told.staged message payload found)
          · exact now

theorem Fresh.told_hearAll {origin : Tracker} (fresh : origin.Fresh)
    (heard : List Testimony) :
    Told heard (origin.hearAll heard).1 (origin.hearAll heard).2 := by
  induction heard using List.reverseRecOn with
  | nil =>
      obtain ⟨me, nodeCount, graph, edges, _, rfl⟩ := fresh
      constructor
      · rfl
      · simp [new]
      · simp
  | append_singleton heard testimony induction =>
      rw [hearAll_concat]
      exact induction.hear testimony

theorem Fresh.told_of_hearing {origin tracker : Tracker}
    {heard : List Testimony} {released : List Payload} (fresh : origin.Fresh)
    (hearing : origin.hearAll heard = (tracker, released)) :
    Told heard tracker released := by
  have told := fresh.told_hearAll heard
  rw [hearing] at told
  exact told

/-- What holds of a fresh tracker and is kept by every recording holds whatever
the tracker hears. -/
theorem Fresh.hearAll_keeps {origin : Tracker} (fresh : origin.Fresh)
    {motive : Tracker → List Payload → Prop} (start : motive origin [])
    (step : ∀ (tracker : Tracker) (released : List Payload) (sender : NodeId)
      (payload : Payload), tracker.policy = .causal →
        tracker.problem? sender payload = none → motive tracker released →
          motive (tracker.record sender payload).tracker
            (released ++ (tracker.record sender payload).released))
    (heard : List Testimony) :
    motive (origin.hearAll heard).1 (origin.hearAll heard).2 := by
  induction heard using List.reverseRecOn with
  | nil => exact start
  | append_singleton heard testimony induction =>
      have causal := (fresh.told_hearAll heard).causal
      rw [hearAll_concat]
      cases admits : (origin.hearAll heard).1.admits testimony with
      | false =>
          rw [hear_of_not_admits admits]
          exact induction
      | true =>
          rw [hear_of_admits admits]
          exact step _ _ _ _ causal (Option.isNone_iff_eq_none.mp admits)
            induction

/-- If no testimony bears the last number, no owner runs out of numbers. -/
theorem Told.notLast {tracker : Tracker} {heard : List Testimony}
    {released : List Payload} (told : Told heard tracker released)
    (notLast : ∀ testimony ∈ heard, testimony.payload.uid ≠ lastUid) :
    ∀ payload ∈ released, payload.uid ≠ lastUid := by
  intro payload member
  obtain ⟨testimony, listed, rfl⟩ := told.released payload member
  exact notLast testimony listed

end Tracker

end CausalCast
