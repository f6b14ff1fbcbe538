import CausalCast.Proofs.Tracker.Quorum

/-!
# What a tracker keeps in store

The table of witnesses grows for good, but the counters and the staged copies
are dropped when their message is released.  What is left in them is exactly
what has been sighted and stands at or above its owner's frontier: both tables
have the same messages, each with its number of witnesses, and nothing that
was released ever comes back.
-/

namespace CausalCast

namespace Tracker

/-- The messages that a tracker was told of, each once. -/
def sighted (tracker : Tracker) (heard : List Testimony) : List MessageId :=
  ((tracker.admitted heard).map (·.payload.message)).dedup

/-! ## No counter stands at zero -/

/-- Whatever has a counter has been counted. -/
def Tidy (tracker : Tracker) : Prop :=
  ∀ message, message ∈ tracker.counters → tracker.count message ≠ 0

theorem tidy_new (me : NodeId) (nodeCount : Nat) (graph : CausalityGraph)
    (policy : ReleasePolicy) : (new me nodeCount graph policy).Tidy := by
  intro message member
  simp [new] at member

namespace Tidy

variable {tracker after : Tracker} {released : List Payload}

theorem sight (tidy : tracker.Tidy) (sender : NodeId) (payload : Payload) :
    (tracker.sight sender payload).Tidy := by
  intro message member
  rw [counters_sight, Std.HashMap.mem_insert] at member
  rw [count_sight]
  by_cases same : message = payload.message
  · rw [if_pos same]
    exact Nat.succ_ne_zero _
  · rw [if_neg same]
    apply tidy message
    rcases member with new | old
    · exact absurd (eq_of_beq new).symm same
    · exact old

theorem releaseFrontier (tidy : tracker.Tidy) (owner : NodeId) :
    (tracker.releaseFrontier owner).Tidy := by
  intro message member
  obtain ⟨different, old⟩ := Std.HashMap.mem_erase.mp member
  have apart : message ≠ tracker.frontierMessage owner := by
    rintro rfl
    simp at different
  rw [count_releaseFrontier, if_neg apart]
  exact tidy message old

theorem releases (tidy : tracker.Tidy)
    (releases : Releases tracker released after) : after.Tidy := by
  induction releases with
  | done => exact tidy
  | next _ _ induction => exact induction (tidy.releaseFrontier _)

theorem record (tidy : tracker.Tidy) (causal : tracker.policy = .causal)
    (sender : NodeId) (payload : Payload) :
    (tracker.record sender payload).tracker.Tidy := by
  have recording := recording_record causal sender payload
  generalize tracker.record sender payload = recorded at recording
  cases recording with
  | duplicate => exact tidy
  | stale => exact tidy
  | early => exact tidy.sight sender payload
  | next =>
      exact (tidy.sight sender payload).releases (releases_cascade _ _)

end Tidy

theorem Fresh.tidy_hearAll {origin : Tracker} (fresh : origin.Fresh)
    (heard : List Testimony) : (origin.hearAll heard).1.Tidy := by
  apply fresh.hearAll_keeps (motive := fun tracker _ => tracker.Tidy)
  · obtain ⟨me, nodeCount, graph, edges, _, rfl⟩ := fresh
    exact tidy_new me nodeCount graph .causal
  · intro tracker _ sender payload causal _ tidy
    exact tidy.record causal sender payload

/-! ## What is in store -/

section Stored

variable {origin tracker : Tracker} {heard : List Testimony}
  {released : List Payload} {message : MessageId}

theorem witnessesOf_ne_nil_iff :
    tracker.witnessesOf message ≠ [] ↔
      ∃ sender, tracker.contains sender message = true := by
  constructor
  · intro witnessed
    obtain ⟨sender, listed⟩ := List.exists_mem_of_ne_nil _ witnessed
    exact ⟨sender, mem_witnessesOf.mp listed⟩
  · rintro ⟨sender, known⟩ nobody
    have listed := mem_witnessesOf.mpr known
    rw [nobody] at listed
    contradiction

theorem Consistent.mem_staged_iff (consistent : tracker.Consistent)
    (message : MessageId) :
    message ∈ tracker.staged ↔
      tracker.frontier message.owner ≤ message.uid ∧
        ∃ sender, tracker.contains sender message = true := by
  rw [← witnessesOf_ne_nil_iff, ← consistent.staged_iff,
    Std.HashMap.mem_iff_isSome_getElem?, Option.isSome_iff_exists]

theorem Attested.mem_counters_iff
    (attested : Attested origin heard tracker released)
    (tidy : tracker.Tidy) (message : MessageId) :
    message ∈ tracker.counters ↔
      tracker.frontier message.owner ≤ message.uid ∧
        ∃ sender, tracker.contains sender message = true := by
  have counted := attested.sound.consistent.count_eq message
  rw [← witnessesOf_ne_nil_iff]
  constructor
  · intro member
    have positive := tidy message member
    have above := attested.totals.counted message positive
    refine ⟨above, ?_⟩
    rw [counted above] at positive
    exact List.ne_nil_of_length_pos (Nat.pos_of_ne_zero positive)
  · rintro ⟨above, witnessed⟩
    by_contra absent
    apply witnessed
    apply List.eq_nil_of_length_eq_zero
    rw [← counted above]
    exact Std.HashMap.getD_eq_fallback absent

theorem length_le_of_nodup (first : Nat) {ids : List NodeId} {number : Nat}
    (distinct : ids.Nodup)
    (inRange : ∀ id ∈ ids, first ≤ id.toNat ∧ id.toNat < first + number) :
    ids.length ≤ number := by
  have nodup : (ids.map UInt32.toNat).Nodup :=
    distinct.map (fun _ _ same => UInt32.toNat_inj.mp same)
  have subset : ids.map UInt32.toNat ⊆ List.range' first number := by
    intro value listed
    obtain ⟨id, member, rfl⟩ := List.mem_map.mp listed
    exact List.mem_range'_1.mpr (inRange id member)
  have bound := (nodup.subperm subset).length_le
  rwa [List.length_map, List.length_range'] at bound

theorem length_witnessesOf_le (nodes : ∀ sender,
      tracker.contains sender message = true → tracker.isNode sender = true) :
    (tracker.witnessesOf message).length ≤ tracker.nodeCount := by
  apply length_le_of_nodup 1 (tracker.nodup_witnessesOf message)
  intro sender listed
  have node := nodes sender (mem_witnessesOf.mp listed)
  simp only [isNode, Bool.and_eq_true, decide_eq_true_eq] at node
  omega

theorem Attested.counter_eq
    (attested : Attested origin heard tracker released)
    (tidy : tracker.Tidy) {number : Nat}
    (counter : tracker.counters[message]? = some number) :
    number = tracker.witnessCount message ∧ number ≤ origin.nodeCount := by
  have member : message ∈ tracker.counters := by
    rw [Std.HashMap.mem_iff_isSome_getElem?, counter]
    rfl
  have consistent := attested.sound.consistent
  have above := ((attested.mem_counters_iff tidy message).mp member).1
  have count : tracker.count message = number := by
    rw [Tracker.count, Std.HashMap.getD_eq_getD_getElem?, counter]
    rfl
  rw [← count, consistent.count_eq message above, witnessCount_eq]
  refine ⟨rfl, ?_⟩
  rw [← attested.setup.nodeCount]
  apply length_witnessesOf_le
  intro sender known
  exact (consistent.nodes sender message known).1

/-- Whatever is in store was told of and is not released. -/
theorem Attested.keys_staged_subset
    (attested : Attested origin heard tracker released) :
    tracker.staged.keys ⊆ (origin.sighted heard).filter
      (· ∉ released.map Payload.message) := by
  intro message listed
  obtain ⟨above, sender, known⟩ :=
    (attested.sound.consistent.mem_staged_iff message).mp
      (Std.HashMap.mem_keys.mp listed)
  apply List.mem_filter.mpr
  constructor
  · obtain ⟨testimony, admitted, same⟩ :=
      (attested.contains_iff sender message).mp known
    apply List.mem_dedup.mpr
    exact List.mem_map.mpr
      ⟨testimony, admitted, congrArg Witness.message same⟩
  · apply decide_eq_true
    intro gone
    obtain ⟨payload, member, rfl⟩ := List.mem_map.mp gone
    exact UInt32.not_le.mpr (attested.sound.lt_frontier member) above

/-- Whatever a tracker hears, the messages with a counter are those with a
staged copy, namely those at or above their owner's frontier that somebody has
witnessed.  Each counter is the number of witnesses, at most that of all
nodes.  Of what was released neither is left, so there is never more in store
than was told of and is not released. -/
theorem stored_until_released (fresh : origin.Fresh)
    (hearing : origin.hearAll heard = (tracker, released))
    (room : ∀ payload ∈ released, payload.uid ≠ lastUid) :
    (∀ message : MessageId,
      (message ∈ tracker.staged ↔
        tracker.frontier message.owner ≤ message.uid ∧
          ∃ sender, tracker.contains sender message = true) ∧
      (message ∈ tracker.counters ↔
        tracker.frontier message.owner ≤ message.uid ∧
          ∃ sender, tracker.contains sender message = true) ∧
      ∀ number, tracker.counters[message]? = some number →
        number = tracker.witnessCount message ∧
          number ≤ origin.nodeCount) ∧
      (∀ payload ∈ released, payload.message ∉ tracker.staged ∧
        payload.message ∉ tracker.counters) ∧
      tracker.counters.size = tracker.staged.size ∧
      tracker.staged.size ≤ ((origin.sighted heard).filter
        (· ∉ released.map Payload.message)).length := by
  have attested := fresh.attested_of_hearing hearing room
  have tidy := fresh.tidy_hearAll heard
  rw [hearing] at tidy
  have staged := attested.sound.consistent.mem_staged_iff
  have counted := attested.mem_counters_iff tidy
  refine ⟨?_, ?_, ?_, ?_⟩
  · intro message
    refine ⟨staged message, counted message, ?_⟩
    intro number counter
    exact attested.counter_eq tidy counter
  · intro payload member
    have below := UInt32.not_le.mpr (attested.sound.lt_frontier member)
    constructor
    · intro kept
      exact below ((staged payload.message).mp kept).1
    · intro kept
      exact below ((counted payload.message).mp kept).1
  · rw [← Std.HashMap.length_keys, ← Std.HashMap.length_keys]
    apply List.Perm.length_eq
    apply (List.perm_ext_iff_of_nodup Std.HashMap.nodup_keys
      Std.HashMap.nodup_keys).mpr
    intro message
    rw [Std.HashMap.mem_keys, Std.HashMap.mem_keys, counted, staged]
  · rw [← Std.HashMap.length_keys]
    exact (Std.HashMap.nodup_keys.subperm
      attested.keys_staged_subset).length_le

end Stored

/-- Of three nodes one has spoken of a second message, ahead of the first: the
message is counted and kept, and nothing else is. -/
theorem stored_ahead_of_first :
    ∃ tracker released,
      (new 1 3 (.empty 4) .causal).hearAll
          [⟨2, ⟨2, 2, 1, true, [104], [0, 0, 0, 0]⟩⟩] = (tracker, released) ∧
        (⟨1, 2⟩ : MessageId) ∈ tracker.staged ∧
        (⟨1, 2⟩ : MessageId) ∈ tracker.counters ∧
        tracker.counters.size = tracker.staged.size ∧
        tracker.staged.size ≤ 1 := by
  let heard : List Testimony := [⟨2, ⟨2, 2, 1, true, [104], [0, 0, 0, 0]⟩⟩]
  have fresh : (new 1 3 (.empty 4) .causal).Fresh :=
    ⟨1, 3, .empty 4, [], rfl, rfl⟩
  obtain ⟨tracker, released, hearing⟩ : ∃ tracker released,
      (new 1 3 (.empty 4) .causal).hearAll heard = (tracker, released) :=
    ⟨_, _, rfl⟩
  have told := fresh.told_of_hearing hearing
  have room := told.notLast (by decide)
  have attested := fresh.attested_of_hearing hearing room
  have below : tracker.frontier 1 ≤ 2 := by
    have next := attested.toNat_frontier 1
    rw [← attested.length_stream, attested.released_eq_nil_of_few (by decide)]
      at next
    rw [UInt32.le_iff_toNat_le, next]
    decide
  have known : tracker.contains 2 ⟨1, 2⟩ = true :=
    (attested.contains_iff 2 ⟨1, 2⟩).mpr ⟨_, List.mem_singleton_self _, rfl⟩
  obtain ⟨stored, _, sizes, bound⟩ := stored_until_released fresh hearing room
  obtain ⟨staged, counted, _⟩ := stored ⟨1, 2⟩
  refine ⟨tracker, released, hearing, staged.mpr ⟨below, 2, known⟩,
    counted.mpr ⟨below, 2, known⟩, sizes, ?_⟩
  exact bound.trans (List.length_filter_le _ _)

end Tracker

end CausalCast
