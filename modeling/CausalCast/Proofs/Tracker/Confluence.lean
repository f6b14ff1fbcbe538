import CausalCast.Proofs.Tracker.Guarantees

/-!
# The order of testimonies does not matter

Two trackers that start alike and are told the same, in whatever order and
with whatever repetitions, end alike.  What one of them has released the other
has released too: the first message that it lacked would be ready there, since
its witnesses are known and what it depends on has been released, and nothing
is ever left ready.  Everything else that the tables tell follows from what is
released and who has testified.
-/

namespace CausalCast

namespace Tracker

/-- Two trackers give the same answers, and hold copies of the same messages. -/
structure SameAnswers (left right : Tracker) : Prop where
  frontiers : left.frontiers = right.frontiers
  clock : left.clock = right.clock
  contains : ∀ sender message,
    left.contains sender message = right.contains sender message
  hasQuorum : ∀ message, left.hasQuorum message = right.hasQuorum message
  staged : ∀ message : MessageId,
    left.staged[message]?.map Payload.original =
      right.staged[message]?.map Payload.original
  count : ∀ message, left.count message = right.count message

/-- Two trackers of one origin that know the same witnesses and were first told
the same of each message. -/
structure Matched (origin : Tracker)
    (leftHeard : List Testimony) (left : Tracker) (leftReleased : List Payload)
    (rightHeard : List Testimony) (right : Tracker)
    (rightReleased : List Payload) : Prop where
  leftAttested : Attested origin leftHeard left leftReleased
  rightAttested : Attested origin rightHeard right rightReleased
  contains : ∀ sender message,
    left.contains sender message = right.contains sender message
  firstCopy : ∀ message,
    (origin.firstCopy? leftHeard message).map Payload.original =
      (origin.firstCopy? rightHeard message).map Payload.original

namespace Matched

variable {origin left right : Tracker}
  {leftHeard rightHeard : List Testimony}
  {leftReleased rightReleased : List Payload}

theorem symm (matched : Matched origin leftHeard left leftReleased
      rightHeard right rightReleased) :
    Matched origin rightHeard right rightReleased
      leftHeard left leftReleased where
  leftAttested := matched.rightAttested
  rightAttested := matched.leftAttested
  contains := fun sender message => (matched.contains sender message).symm
  firstCopy := fun message => (matched.firstCopy message).symm

section

variable (matched : Matched origin leftHeard left leftReleased
  rightHeard right rightReleased)

include matched

theorem length_witnessesOf (message : MessageId) :
    (left.witnessesOf message).length =
      (right.witnessesOf message).length := by
  apply List.Perm.length_eq
  apply (List.perm_ext_iff_of_nodup (left.nodup_witnessesOf message)
    (right.nodup_witnessesOf message)).mpr
  intro sender
  rw [mem_witnessesOf, mem_witnessesOf, matched.contains]

theorem original_eq {message : MessageId} {first second : Payload}
    (leftFirst : origin.firstCopy? leftHeard message = some first)
    (rightFirst : origin.firstCopy? rightHeard message = some second) :
    first.original = second.original := by
  have same := matched.firstCopy message
  rw [leftFirst, rightFirst] at same
  exact Option.some.inj same

/-! ## What one has released the other has released -/

/-- If all that was released before a message is released on the other side,
the message cannot be missing there: it would be ready. -/
theorem uid_le_of_covered {front back : List Payload} {payload : Payload}
    (split : leftReleased = front ++ payload :: back)
    (covered : ∀ earlier ∈ front,
      ∃ copy ∈ rightReleased, copy.message = earlier.message) :
    payload.uid.toNat ≤ (stream rightReleased payload.owner).length := by
  have leftSound := matched.leftAttested.sound
  have rightSound := matched.rightAttested.sound
  have member : payload ∈ leftReleased := by simp [split]
  have numbered := leftSound.accounts.numbered
  have first := matched.leftAttested.released payload member
  rw [split] at numbered
  have lengths :=
    numbered.of_append.length_stream_le rightSound.accounts.numbered covered
  have position := numbered.uid_eq
  by_contra missing
  have here : right.frontierMessage payload.owner = payload.message := by
    have next := matched.rightAttested.toNat_frontier payload.owner
    rw [← matched.rightAttested.length_stream] at next
    have above := lengths payload.owner
    have frontier : right.frontier payload.owner = payload.uid := by
      apply UInt32.toNat_inj.mp
      omega
    rw [frontierMessage, frontier]
    rfl
  have testified : origin.nodeCount < 2 * (origin.testifiers rightHeard
      (right.frontierMessage payload.owner)).length := by
    rw [← matched.rightAttested.length_witnessesOf, here,
      ← matched.length_witnessesOf, matched.leftAttested.length_witnessesOf]
    exact matched.leftAttested.majority_of_released member
  obtain ⟨copy, staged⟩ := matched.rightAttested.exists_staged
    (Nat.pos_of_mul_pos_left (Nat.zero_lt_of_lt testified))
  have same : copy.clock = payload.clock := by
    have told := matched.rightAttested.staged _ _ staged
    rw [here] at told
    exact (Payload.original_eq_iff.mp
      (matched.original_eq first told)).2.2.symm
  have releasable : right.canRelease payload.owner copy.clock = true := by
    apply matched.rightAttested.canRelease_iff.mpr
    refine ⟨matched.rightAttested.isNode_of_staged staged, testified, ?_⟩
    intro dependency depends
    rw [← matched.leftAttested.setup.graph] at depends
    have claimed := leftSound.accounts.gate front payload back split dependency
      depends
    have released := lengths dependency
    rw [matched.rightAttested.length_stream] at released
    rw [same, UInt32.le_iff_toNat_le]
    exact Nat.le_trans claimed released
  rw [matched.rightAttested.canRelease_eq_false staged] at releasable
  contradiction

/-- Whatever one side has released the other has released as well, because the
clock of a message claims only what was released before it. -/
theorem exists_released : ∀ payload ∈ leftReleased,
    ∃ copy ∈ rightReleased, copy.message = payload.message := by
  have general : ∀ front back, leftReleased = front ++ back →
      ∀ payload ∈ front,
        ∃ copy ∈ rightReleased, copy.message = payload.message := by
    intro front
    induction front using List.reverseRecOn with
    | nil => simp
    | append_singleton front last induction =>
        intro back split payload listed
        rw [List.append_assoc] at split
        have covered := induction _ split
        rcases List.mem_append.mp listed with old | new
        · exact covered payload old
        · obtain rfl := List.mem_singleton.mp new
          have numbered := matched.leftAttested.sound.accounts.numbered
          apply matched.rightAttested.sound.accounts.numbered.exists_message_of_le
          · exact (numbered.uid_bounds (by simp [split])).1
          · exact matched.uid_le_of_covered split covered
  exact general leftReleased [] (List.append_nil _).symm

theorem length_stream_le (owner : NodeId) :
    (stream leftReleased owner).length ≤
      (stream rightReleased owner).length :=
  matched.leftAttested.sound.accounts.numbered.length_stream_le
    matched.rightAttested.sound.accounts.numbered matched.exists_released owner

end

section

variable (matched : Matched origin leftHeard left leftReleased
  rightHeard right rightReleased)

include matched

theorem length_stream_eq (owner : NodeId) :
    (stream leftReleased owner).length =
      (stream rightReleased owner).length :=
  Nat.le_antisymm (matched.length_stream_le owner)
    (matched.symm.length_stream_le owner)

theorem clock_eq : left.clock = right.clock := by
  rw [matched.leftAttested.totals.clock, matched.rightAttested.totals.clock,
    matched.leftAttested.setup.clockLength_eq, matched.rightAttested.setup.clockLength_eq]
  exact tally_congr _ matched.length_stream_eq

theorem frontiers_eq : left.frontiers = right.frontiers := by
  rw [matched.leftAttested.totals.frontiers, matched.rightAttested.totals.frontiers,
    matched.clock_eq]

theorem frontier_eq (owner : NodeId) :
    left.frontier owner = right.frontier owner := by
  rw [frontier, frontier, matched.frontiers_eq]

theorem count_eq (message : MessageId) :
    left.count message = right.count message := by
  by_cases above : left.frontier message.owner ≤ message.uid
  · rw [matched.leftAttested.sound.consistent.count_eq message above,
      matched.length_witnessesOf]
    rw [matched.frontier_eq] at above
    rw [matched.rightAttested.sound.consistent.count_eq message above]
  · have leftNone : left.count message = 0 := by
      by_contra counted
      exact above (matched.leftAttested.totals.counted message counted)
    have rightNone : right.count message = 0 := by
      by_contra counted
      apply above
      rw [matched.frontier_eq]
      exact matched.rightAttested.totals.counted message counted
    rw [leftNone, rightNone]

theorem hasQuorum_eq (message : MessageId) :
    left.hasQuorum message = right.hasQuorum message := by
  simp only [hasQuorum, isNode, isMajority, matched.leftAttested.setup.nodeCount,
    matched.rightAttested.setup.nodeCount, matched.frontier_eq, matched.count_eq]

theorem exists_staged {message : MessageId} {payload : Payload}
    (staged : left.staged[message]? = some payload) :
    ∃ copy, right.staged[message]? = some copy ∧
      payload.original = copy.original := by
  obtain ⟨above, witnessed⟩ :=
    (matched.leftAttested.sound.consistent.staged_iff message).mp ⟨payload, staged⟩
  rw [matched.frontier_eq] at above
  rw [← List.length_pos_iff, matched.length_witnessesOf, List.length_pos_iff]
    at witnessed
  obtain ⟨copy, found⟩ :=
    (matched.rightAttested.sound.consistent.staged_iff message).mpr
      ⟨above, witnessed⟩
  refine ⟨copy, found, ?_⟩
  exact matched.original_eq (matched.leftAttested.staged message payload staged)
    (matched.rightAttested.staged message copy found)

theorem staged_eq (message : MessageId) :
    left.staged[message]?.map Payload.original =
      right.staged[message]?.map Payload.original := by
  cases leftStaged : left.staged[message]? with
  | some payload =>
      obtain ⟨copy, found, same⟩ := matched.exists_staged leftStaged
      rw [found, Option.map_some, Option.map_some, same]
  | none =>
      cases rightStaged : right.staged[message]? with
      | none => rfl
      | some copy =>
          obtain ⟨payload, found, _⟩ := matched.symm.exists_staged rightStaged
          rw [leftStaged] at found
          contradiction

theorem sameAnswers : SameAnswers left right where
  frontiers := matched.frontiers_eq
  clock := matched.clock_eq
  contains := matched.contains
  hasQuorum := matched.hasQuorum_eq
  staged := matched.staged_eq
  count := matched.count_eq

end

/-- An owner's messages are released as they were first told, in the order of
their numbers. -/
theorem map_original_stream {tracker : Tracker} {heard : List Testimony}
    {released : List Payload}
    (attested : Attested origin heard tracker released) (owner : NodeId) :
    (stream released owner).map (fun payload => some payload.original) =
      (List.range' 1 (stream released owner).length).map fun number =>
        (origin.firstCopy? heard ⟨owner, .ofNat number⟩).map
          Payload.original := by
  rw [← attested.sound.accounts.numbered owner, List.map_map]
  apply List.map_congr_left
  intro payload listed
  obtain ⟨member, rfl⟩ := mem_stream.mp listed
  have first := attested.released payload member
  rw [Function.comp_apply, UInt32.ofNat_toNat]
  rw [Payload.message] at first
  rw [first, Option.map_some]

theorem stream_eq (matched : Matched origin leftHeard left leftReleased
      rightHeard right rightReleased) (owner : NodeId) :
    (stream leftReleased owner).map Payload.original =
      (stream rightReleased owner).map Payload.original := by
  have leftStream := map_original_stream matched.leftAttested owner
  have rightStream := map_original_stream matched.rightAttested owner
  simp only [matched.firstCopy, matched.length_stream_eq] at leftStream
  rw [← rightStream] at leftStream
  apply List.map_injective_iff.mpr (fun _ _ => Option.some.inj)
  rw [List.map_map, List.map_map]
  exact leftStream

end Matched

/-! ## Two orders of the same testimonies -/

/-- Well-formed testimonies to the same sightings, in two orders and with any
repetitions, whose copies of a message agree in content and clock. -/
structure Reordered (origin : Tracker) (left right : List Testimony) :
    Prop where
  valid : ∀ testimony ∈ left ++ right,
    origin.problem? testimony.sender testimony.payload = none
  sightings : ∀ witness, witness ∈ left.map Testimony.witness ↔
    witness ∈ right.map Testimony.witness
  copies : ∀ first ∈ left ++ right, ∀ second ∈ left ++ right,
    first.payload.message = second.payload.message →
      first.payload.content = second.payload.content ∧
        first.payload.clock = second.payload.clock

section Orders

variable {origin : Tracker} {before left right : List Testimony}

theorem mem_admitted_append {testimony : Testimony} :
    testimony ∈ origin.admitted (before ++ left) ↔
      testimony ∈ origin.admitted before ∨
        testimony ∈ origin.admitted left := by
  simp only [admitted, List.filter_append, List.mem_append]

theorem firstCopy?_append (origin : Tracker) (before heard : List Testimony)
    (message : MessageId) :
    origin.firstCopy? (before ++ heard) message =
      (origin.firstCopy? before message).or
        (origin.firstCopy? heard message) := by
  simp only [firstCopy?, admitted, List.filter_append, List.find?_append,
    Option.map_or]

namespace Reordered

theorem symm (reordered : Reordered origin left right) :
    Reordered origin right left := by
  have swap : ∀ {testimony}, testimony ∈ right ++ left →
      testimony ∈ left ++ right :=
    fun listed => List.perm_append_comm.subset listed
  constructor
  · intro testimony listed
    exact reordered.valid testimony (swap listed)
  · intro witness
    exact (reordered.sightings witness).symm
  · intro first firstListed second secondListed
    exact reordered.copies first (swap firstListed) second (swap secondListed)

theorem admitted_left (reordered : Reordered origin left right) :
    origin.admitted left = left := by
  apply List.filter_eq_self.mpr
  intro testimony listed
  rw [admits, reordered.valid testimony (List.mem_append_left _ listed)]
  rfl

theorem exists_testimony (reordered : Reordered origin left right)
    {testimony : Testimony} (listed : testimony ∈ left) :
    ∃ other ∈ right, other.witness = testimony.witness :=
  List.mem_map.mp ((reordered.sightings testimony.witness).mp
    (List.mem_map_of_mem listed))

theorem exists_firstCopy? (reordered : Reordered origin left right)
    {message : MessageId} {first : Payload}
    (told : origin.firstCopy? left message = some first) :
    ∃ second, origin.firstCopy? right message = some second ∧
      first.original = second.original := by
  rw [firstCopy?, reordered.admitted_left] at told
  obtain ⟨testimony, found, rfl⟩ := Option.map_eq_some_iff.mp told
  have listed := List.mem_of_find?_eq_some found
  have about : testimony.payload.message = message := by
    simpa using List.find?_some found
  obtain ⟨other, otherListed, same⟩ := reordered.exists_testimony listed
  have otherAbout : other.payload.message = message :=
    (congrArg Witness.message same).trans about
  have present :
      (right.find? (·.payload.message = message)).isSome = true :=
    List.find?_isSome.mpr ⟨other, otherListed, decide_eq_true otherAbout⟩
  obtain ⟨second, secondFound⟩ := Option.isSome_iff_exists.mp present
  have secondListed := List.mem_of_find?_eq_some secondFound
  have secondAbout : second.payload.message = message := by
    simpa using List.find?_some secondFound
  have copies := reordered.copies testimony
    (List.mem_append_left _ listed) second
    (List.mem_append_right _ secondListed) (about.trans secondAbout.symm)
  refine ⟨second.payload.toData, ?_, ?_⟩
  · rw [firstCopy?, reordered.symm.admitted_left, secondFound]
    rfl
  · exact Payload.original_eq_iff.mpr
      ⟨about.trans secondAbout.symm, copies.1, copies.2⟩

theorem firstCopy?_eq (reordered : Reordered origin left right)
    (message : MessageId) :
    (origin.firstCopy? left message).map Payload.original =
      (origin.firstCopy? right message).map Payload.original := by
  cases leftTold : origin.firstCopy? left message with
  | some first =>
      obtain ⟨second, rightTold, same⟩ := reordered.exists_firstCopy? leftTold
      rw [rightTold, Option.map_some, Option.map_some, same]
  | none =>
      cases rightTold : origin.firstCopy? right message with
      | none => rfl
      | some second =>
          obtain ⟨first, found, _⟩ :=
            reordered.symm.exists_firstCopy? rightTold
          rw [leftTold] at found
          contradiction

theorem contains_of_contains (reordered : Reordered origin left right)
    {leftTracker rightTracker : Tracker}
    {leftReleased rightReleased : List Payload}
    (leftAttested : Attested origin (before ++ left) leftTracker leftReleased)
    (rightAttested : Attested origin (before ++ right) rightTracker
      rightReleased) {sender : NodeId} {message : MessageId}
    (known : leftTracker.contains sender message = true) :
    rightTracker.contains sender message = true := by
  obtain ⟨testimony, admitted, identity⟩ :=
    (leftAttested.contains_iff sender message).mp known
  apply (rightAttested.contains_iff sender message).mpr
  rcases mem_admitted_append.mp admitted with earlier | listed
  · exact ⟨testimony, mem_admitted_append.mpr (.inl earlier), identity⟩
  · rw [reordered.admitted_left] at listed
    obtain ⟨other, otherListed, same⟩ := reordered.exists_testimony listed
    refine ⟨other, mem_admitted_append.mpr (.inr ?_), same.trans identity⟩
    rw [reordered.symm.admitted_left]
    exact otherListed

theorem matched (reordered : Reordered origin left right)
    {leftTracker rightTracker : Tracker}
    {leftReleased rightReleased : List Payload}
    (leftAttested : Attested origin (before ++ left) leftTracker leftReleased)
    (rightAttested : Attested origin (before ++ right) rightTracker
      rightReleased) :
    Matched origin (before ++ left) leftTracker leftReleased
      (before ++ right) rightTracker rightReleased := by
  constructor
  · exact leftAttested
  · exact rightAttested
  · intro sender message
    apply Bool.eq_iff_iff.mpr
    constructor
    · exact reordered.contains_of_contains leftAttested rightAttested
    · exact reordered.symm.contains_of_contains rightAttested leftAttested
  · intro message
    rw [firstCopy?_append, firstCopy?_append, Option.map_or, Option.map_or,
      reordered.firstCopy?_eq]

end Reordered

/-- Whatever a tracker has heard before, in which order it hears of the same
sightings, and how often, makes no difference: it answers alike, and it
releases the same messages of each owner in the same order.  Only how the
owners take turns may differ. -/
theorem hearAll_confluent {leftTracker rightTracker : Tracker}
    {leftReleased rightReleased : List Payload} (fresh : origin.Fresh)
    (leftHearing : origin.hearAll (before ++ left) =
      (leftTracker, leftReleased))
    (rightHearing : origin.hearAll (before ++ right) =
      (rightTracker, rightReleased))
    (notLast : ∀ testimony ∈ before ++ (left ++ right),
      testimony.payload.uid ≠ lastUid)
    (reordered : Reordered origin left right) :
    SameAnswers leftTracker rightTracker ∧
      ∀ owner, (stream leftReleased owner).map Payload.original =
        (stream rightReleased owner).map Payload.original := by
  have leftRoom := (fresh.told_of_hearing leftHearing).notLast (by
    intro testimony listed
    apply notLast
    rw [← List.append_assoc]
    exact List.mem_append_left _ listed)
  have rightRoom := (fresh.told_of_hearing rightHearing).notLast (by
    intro testimony listed
    apply notLast
    rcases List.mem_append.mp listed with earlier | later
    · exact List.mem_append_left _ earlier
    · exact List.mem_append_right _ (List.mem_append_right _ later))
  have matched := reordered.matched
    (fresh.attested_of_hearing leftHearing leftRoom)
    (fresh.attested_of_hearing rightHearing rightRoom)
  exact ⟨matched.sameAnswers, matched.stream_eq⟩

end Orders

/-- Of two copies the acknowledgement may be heard first, and the data
twice. -/
theorem confluent_of_copy_and_ack :
    ∃ left right leftReleased rightReleased,
      (new 1 3 (.empty 4) .causal).hearAll
          [⟨1, ⟨1, 1, 1, false, [104], [0, 0, 0, 0]⟩⟩,
            ⟨2, ⟨1, 2, 1, true, [104], [0, 0, 0, 0]⟩⟩] =
          (left, leftReleased) ∧
        (new 1 3 (.empty 4) .causal).hearAll
          [⟨2, ⟨1, 2, 1, true, [104], [0, 0, 0, 0]⟩⟩,
            ⟨1, ⟨1, 1, 1, false, [104], [0, 0, 0, 0]⟩⟩,
            ⟨1, ⟨1, 1, 1, false, [104], [0, 0, 0, 0]⟩⟩] =
          (right, rightReleased) ∧
        SameAnswers left right := by
  let copy : Testimony := ⟨1, ⟨1, 1, 1, false, [104], [0, 0, 0, 0]⟩⟩
  let ack : Testimony := ⟨2, ⟨1, 2, 1, true, [104], [0, 0, 0, 0]⟩⟩
  have fresh : (new 1 3 (.empty 4) .causal).Fresh :=
    ⟨1, 3, .empty 4, [], rfl, rfl⟩
  have reordered : Reordered (new 1 3 (.empty 4) .causal) [copy, ack]
      [ack, copy, copy] := by
    constructor
    · decide
    · intro witness
      simp only [List.map_cons, List.map_nil, List.mem_cons,
        List.not_mem_nil, or_false]
      tauto
    · decide
  refine ⟨_, _, _, _, rfl, rfl, ?_⟩
  have confluent := @hearAll_confluent _ [] [copy, ack] [ack, copy, copy]
    _ _ _ _ fresh rfl rfl (by decide) reordered
  exact confluent.1

end Tracker

end CausalCast
