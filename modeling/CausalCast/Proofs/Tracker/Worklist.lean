import CausalCast.Proofs.Edges
import CausalCast.Proofs.Tracker.Storage
import Mathlib.Logic.Relation

/-!
# The worklist of a release

A cascade is a release cut into steps.  It takes an owner off its worklist,
looks up the owner's frontier, releases one message after another, and then
puts those that depend on the owner on the worklist, one by one and unless
they are there.  Every lookup in the frontiers and in the clocks, those of
staged messages included, is checked: a cascade that names an id without an
entry is stuck, where the tables themselves would answer with what they answer
for a missing entry.

Cascades do not get stuck, and they come to the end that the release has in
one go.  What carries both is that all ids of the graph have entries.
-/

namespace CausalCast

namespace Tracker

/-- What a cascade is about to do. -/
inductive Task where
  /-- Look up where the message of a testimony stands. -/
  | placing (testimony : Testimony)
  /-- Take the next owner off the worklist. -/
  | choosing
  /-- Release the next message of an owner, of which some were released
  already or none. -/
  | advancing (owner : NodeId) (moved : Bool)
  /-- Put some owners on the worklist. -/
  | notifying (dependents : List NodeId)

/-- A task that names ids below a length only, in clocks of that length. -/
def Task.Fits (length : Nat) : Task → Prop
  | .placing testimony => testimony.payload.owner.toNat < length ∧
      testimony.payload.clock.length = length
  | .choosing => True
  | .advancing owner _ => owner.toNat < length
  | .notifying dependents => ∀ owner ∈ dependents, owner.toNat < length

/-- A dependency of an owner that is missing from one of the clocks that are
compared for the message at the owner's frontier. -/
def unclocked? (tracker : Tracker) (owner : NodeId) : Option NodeId :=
  match tracker.staged[tracker.frontierMessage owner]? with
  | none => none
  | some payload => (tracker.graph.dependencies owner).find? fun dependency =>
      tracker.clock[dependency.toNat]?.isNone ||
        payload.clock[dependency.toNat]?.isNone

/-- A release that is under way. -/
structure Cascade where
  tracker : Tracker
  worklist : List NodeId
  task : Task
  released : List Payload

namespace Cascade

/-- What comes of a step. -/
inductive Outcome where
  | next (cascade : Cascade)
  | finished
  /-- There is no entry for an id. -/
  | stuck (id : NodeId)

def step (cascade : Cascade) : Outcome :=
  match cascade with
  | ⟨tracker, worklist, .placing testimony, released⟩ =>
      let recorded := tracker.record testimony.sender testimony.payload
      let owner := testimony.payload.owner
      if tracker.contains testimony.sender testimony.payload.message then
        .next ⟨recorded.tracker, worklist, .choosing, recorded.released⟩
      else
        match tracker.frontiers[owner.toNat]? with
        | none => .stuck owner
        | some frontier =>
            if tracker.policy = .causal ∧ testimony.payload.uid = frontier then
              .next ⟨tracker.sight testimony.sender testimony.payload, [owner],
                .choosing, released⟩
            else .next ⟨recorded.tracker, worklist, .choosing, recorded.released⟩
  | ⟨_, [], .choosing, _⟩ => .finished
  | ⟨tracker, owner :: rest, .choosing, released⟩ =>
      .next ⟨tracker, rest, .advancing owner false, released⟩
  | ⟨tracker, worklist, .advancing owner moved, released⟩ =>
      match tracker.frontiers[owner.toNat]?, tracker.unclocked? owner,
        tracker.ready? owner with
      | none, _, _ => .stuck owner
      | some _, some dependency, _ => .stuck dependency
      | some _, none, none =>
          .next ⟨tracker, worklist,
            if moved then .notifying (tracker.graph.dependents owner)
            else .choosing, released⟩
      | some _, none, some payload =>
          match tracker.clock[owner.toNat]? with
          | none => .stuck owner
          | some _ =>
              .next ⟨tracker.releaseFrontier owner, worklist,
                .advancing owner true, released ++ [payload]⟩
  | ⟨tracker, worklist, .notifying [], released⟩ =>
      .next ⟨tracker, worklist, .choosing, released⟩
  | ⟨tracker, worklist, .notifying (owner :: rest), released⟩ =>
      .next ⟨tracker,
        if owner ∈ worklist then worklist else worklist ++ [owner],
        .notifying rest, released⟩

/-- One cascade after a step of another. -/
def Next (before after : Cascade) : Prop :=
  before.step = .next after

/-- A release from an owner on. -/
def release (tracker : Tracker) (owner : NodeId) : Cascade :=
  ⟨tracker, [owner], .choosing, []⟩

/-- The recording of a payload, with the release that it may set off. -/
def record (tracker : Tracker) (testimony : Testimony) : Cascade :=
  ⟨tracker, [], .placing testimony, []⟩

end Cascade

/-! ## Tables with an entry for every id -/

/-- The tables of a tracker and the clocks of what it has staged have entries
for all ids that its graph names. -/
structure Bounded (tracker : Tracker) : Prop where
  length_frontiers : tracker.frontiers.length = tracker.clockLength
  length_clock : tracker.clock.length = tracker.clockLength
  length_staged : ∀ (message : MessageId) (payload : Payload),
    tracker.staged[message]? = some payload →
      payload.clock.length = tracker.clockLength
  dependencies_lt : ∀ owner, ∀ dependency ∈ tracker.graph.dependencies owner,
    dependency.toNat < tracker.clockLength
  dependents_lt : ∀ owner, ∀ dependent ∈ tracker.graph.dependents owner,
    dependent.toNat < tracker.clockLength

theorem bounded_new {nodeCount : Nat} {edges : List (NodeId × List NodeId)}
    {graph : CausalityGraph}
    (built : CausalityGraph.ofEdges (nodeCount + 1) edges = .ok graph)
    (me : NodeId) (policy : ReleasePolicy) :
    (new me nodeCount graph policy).Bounded where
  length_frontiers := by simp [new, clockLength]
  length_clock := by simp [new, clockLength]
  length_staged := by
    intro message payload staged
    simp [new] at staged
  dependencies_lt := by
    intro owner dependency listed
    have coherent := CausalityGraph.coherent_ofEdges built
    have covered := (coherent.1.inRange owner dependency listed).2
    rwa [coherent.2] at covered
  dependents_lt := by
    intro owner dependent listed
    have covered := (CausalityGraph.mirrored_ofEdges
      built).lt_length_of_mem_dependents listed
    rwa [(CausalityGraph.coherent_ofEdges built).2] at covered

namespace Bounded

variable {tracker after : Tracker} {owner : NodeId}

theorem frontiers_getElem? (bounded : tracker.Bounded)
    (inRange : owner.toNat < tracker.clockLength) :
    tracker.frontiers[owner.toNat]? = some (tracker.frontier owner) := by
  rw [← bounded.length_frontiers] at inRange
  simp [frontier, inRange]

theorem clock_getElem? (bounded : tracker.Bounded)
    (inRange : owner.toNat < tracker.clockLength) :
    tracker.clock[owner.toNat]? = some (tracker.clock.entry owner) := by
  rw [← bounded.length_clock] at inRange
  simp [VectorClock.entry, inRange]

theorem unclocked?_eq_none (bounded : tracker.Bounded) (owner : NodeId) :
    tracker.unclocked? owner = none := by
  unfold unclocked?
  split
  case h_1 => rfl
  case h_2 payload staged =>
      rw [List.find?_eq_none]
      intro dependency listed
      have inRange := bounded.dependencies_lt owner dependency listed
      have here : dependency.toNat < tracker.clock.length := by
        rwa [bounded.length_clock]
      have there : dependency.toNat < payload.clock.length := by
        rwa [bounded.length_staged _ payload staged]
      simp [here, there]

theorem releaseFrontier (bounded : tracker.Bounded) (owner : NodeId) :
    (tracker.releaseFrontier owner).Bounded where
  length_frontiers := by
    rw [length_frontiers_releaseFrontier]
    exact bounded.length_frontiers
  length_clock := by
    rw [length_clock_releaseFrontier]
    exact bounded.length_clock
  length_staged := by
    intro message payload staged
    rw [staged_releaseFrontier] at staged
    split at staged
    · contradiction
    · exact bounded.length_staged message payload staged
  dependencies_lt := bounded.dependencies_lt
  dependents_lt := bounded.dependents_lt

theorem releases {released : List Payload} (bounded : tracker.Bounded)
    (releases : Releases tracker released after) : after.Bounded := by
  induction releases with
  | done => exact bounded
  | @next tracker final owner _ _ _ _ induction =>
      exact induction (bounded.releaseFrontier owner)

theorem sight (bounded : tracker.Bounded) (sender : NodeId)
    {payload : Payload} (length : payload.clock.length = tracker.clockLength) :
    (tracker.sight sender payload).Bounded := by
  have setup := sameSetup_sight tracker sender payload
  constructor
  case length_frontiers =>
    rw [frontiers_sight, setup.clockLength_eq, bounded.length_frontiers]
  case length_clock =>
    rw [clock_sight, setup.clockLength_eq, bounded.length_clock]
  case length_staged =>
    intro message staged found
    rw [setup.clockLength_eq]
    rcases staged_of_staged_sight found with old | rfl
    · exact bounded.length_staged message staged old
    · exact length
  case dependencies_lt =>
    rw [setup.graph, setup.clockLength_eq]
    exact bounded.dependencies_lt
  case dependents_lt =>
    rw [setup.graph, setup.clockLength_eq]
    exact bounded.dependents_lt

theorem of_eq (bounded : tracker.Bounded) (setup : SameSetup tracker after)
    (frontiers : after.frontiers = tracker.frontiers)
    (clock : after.clock = tracker.clock)
    (staged : after.staged = tracker.staged) : after.Bounded := by
  constructor <;> rw [setup.clockLength_eq]
  case length_frontiers =>
    rw [frontiers, bounded.length_frontiers]
  case length_clock =>
    rw [clock, bounded.length_clock]
  case length_staged =>
    rw [staged]
    exact bounded.length_staged
  case dependencies_lt =>
    rw [setup.graph]
    exact bounded.dependencies_lt
  case dependents_lt =>
    rw [setup.graph]
    exact bounded.dependents_lt

theorem record (bounded : tracker.Bounded) (sender : NodeId)
    {payload : Payload} (length : payload.clock.length = tracker.clockLength) :
    (tracker.record sender payload).tracker.Bounded := by
  cases policy : tracker.policy with
  | causal =>
      have recording := recording_record policy sender payload
      generalize tracker.record sender payload = recorded at recording
      cases recording with
      | duplicate => exact bounded
      | stale =>
          exact bounded.of_eq (sameSetup_witness tracker _ _) rfl rfl rfl
      | early => exact bounded.sight sender length
      | next =>
          exact (bounded.sight sender length).releases (releases_cascade _ _)
  | immediate =>
      have setup := sameSetup_record tracker sender payload
      generalize recording : tracker.record sender payload = recorded at setup
      unfold Tracker.record at recording
      simp only [policy, settleImmediate] at recording
      obtain rfl := recording
      apply bounded.of_eq setup <;> split_ifs <;> rfl

theorem hearAll (bounded : tracker.Bounded) (heard : List Testimony) :
    (tracker.hearAll heard).1.Bounded := by
  induction heard using List.reverseRecOn with
  | nil => exact bounded
  | append_singleton heard testimony induction =>
      rw [hearAll_concat]
      generalize tracker.hearAll heard = state at induction
      obtain ⟨reached, released⟩ := state
      cases admits : reached.admits testimony with
      | true =>
          have valid := Option.isNone_iff_eq_none.mp admits
          rw [hear_of_admits admits]
          exact induction.record _ (problem?_eq_none_iff.mp valid).2.2
      | false =>
          rw [hear_of_not_admits admits]
          exact induction

end Bounded

/-! ## The way to the end -/

namespace Cascade

variable {tracker : Tracker} {owner : NodeId}

theorem next_release (bounded : tracker.Bounded)
    (inRange : owner.toNat < tracker.clockLength) {payload : Payload}
    (ready : tracker.ready? owner = some payload)
    (worklist : List NodeId) (moved : Bool) (released : List Payload) :
    Next ⟨tracker, worklist, .advancing owner moved, released⟩
      ⟨tracker.releaseFrontier owner, worklist, .advancing owner true,
        released ++ [payload]⟩ := by
  simp only [Next, step, bounded.frontiers_getElem? inRange,
    bounded.unclocked?_eq_none, ready, bounded.clock_getElem? inRange]

theorem next_blocked (bounded : tracker.Bounded)
    (inRange : owner.toNat < tracker.clockLength)
    (blocked : tracker.ready? owner = none)
    (worklist : List NodeId) (moved : Bool) (released : List Payload) :
    Next ⟨tracker, worklist, .advancing owner moved, released⟩
      ⟨tracker, worklist,
        if moved then .notifying (tracker.graph.dependents owner)
        else .choosing, released⟩ := by
  simp only [Next, step, bounded.frontiers_getElem? inRange,
    bounded.unclocked?_eq_none, blocked]

theorem reaches_advance (bounded : tracker.Bounded)
    (inRange : owner.toNat < tracker.clockLength)
    (worklist : List NodeId) (moved : Bool) (released : List Payload) :
    Relation.ReflTransGen Next
      ⟨tracker, worklist, .advancing owner moved, released⟩
      ⟨(tracker.advance owner).1, worklist,
        .advancing owner (moved || !(tracker.advance owner).2.isEmpty),
        released ++ (tracker.advance owner).2⟩ := by
  fun_induction advance tracker owner generalizing moved released with
  | case1 tracker blocked => simpa using Relation.ReflTransGen.refl
  | case2 tracker payload ready final rest step induction =>
      have steps := induction (bounded.releaseFrontier owner) inRange true
        (released ++ [payload])
      rw [step] at steps
      simp only [List.append_assoc, List.singleton_append, Bool.true_or]
        at steps
      simpa using steps.head (next_release bounded inRange ready
        worklist moved released)

theorem reaches_notify (tracker : Tracker) (worklist dependents : List NodeId)
    (released : List Payload) :
    Relation.ReflTransGen Next
      ⟨tracker, worklist, .notifying dependents, released⟩
      ⟨tracker, appendNew worklist dependents, .choosing, released⟩ := by
  induction dependents generalizing worklist with
  | nil => exact .single rfl
  | cons owner rest induction =>
      rw [appendNew]
      split
      case isTrue listed =>
          exact (induction _).head (by simp only [Next, step, if_pos listed])
      case isFalse absent =>
          exact (induction _).head (by simp only [Next, step, if_neg absent])

theorem reaches_turn (bounded : tracker.Bounded)
    (inRange : owner.toNat < tracker.clockLength)
    (worklist : List NodeId) (released : List Payload) :
    Relation.ReflTransGen Next
      ⟨tracker, owner :: worklist, .choosing, released⟩
      ⟨(tracker.advance owner).1, worklist,
        if (tracker.advance owner).2.isEmpty then .choosing
        else .notifying (tracker.graph.dependents owner),
        released ++ (tracker.advance owner).2⟩ := by
  have moves := releases_advance tracker owner
  have setup := moves.sameSetup
  have blocked := next_blocked (bounded.releases moves)
    (by rwa [setup.clockLength_eq]) (ready?_advance_self tracker owner)
    worklist (false || !(tracker.advance owner).2.isEmpty)
    (released ++ (tracker.advance owner).2)
  rw [setup.graph] at blocked
  refine .head (show Next _ ⟨tracker, worklist, .advancing owner false,
    released⟩ from rfl) ((reaches_advance bounded inRange _ _ _).tail ?_)
  cases empty : (tracker.advance owner).2.isEmpty <;>
    simpa [empty] using blocked

/-- The steps of a cascade come to the end of the release in one go, since every
owner that moves takes something out of store. -/
theorem reaches_cascade (bounded : tracker.Bounded) {worklist : List NodeId}
    (inRange : ∀ owner ∈ worklist, owner.toNat < tracker.clockLength)
    (released : List Payload) :
    Relation.ReflTransGen Next ⟨tracker, worklist, .choosing, released⟩
      ⟨(tracker.cascade worklist).1, [], .choosing,
        released ++ (tracker.cascade worklist).2⟩ := by
  fun_induction cascade tracker worklist generalizing released with
  | case1 tracker => simpa using Relation.ReflTransGen.refl
  | case2 tracker owner rest after step induction =>
      obtain ⟨here, later⟩ := List.forall_mem_cons.mp inRange
      have moves := releases_advance tracker owner
      have turn := reaches_turn bounded here rest released
      rw [step] at moves turn
      rw [List.append_nil] at turn
      exact turn.trans (induction (bounded.releases moves)
        (by rwa [moves.sameSetup.clockLength_eq]) released)
  | case3 tracker owner rest after first more step final last tail
      induction =>
      obtain ⟨here, later⟩ := List.forall_mem_cons.mp inRange
      have moves := releases_advance tracker owner
      have turn := reaches_turn bounded here rest released
      rw [step] at moves turn
      have listed : ∀ other ∈ appendNew rest (tracker.graph.dependents owner),
          other.toNat < after.clockLength := by
        intro other member
        rw [moves.sameSetup.clockLength_eq]
        rcases mem_appendNew.mp member with old | new
        · exact later other old
        · exact bounded.dependents_lt owner other new
      have onward := induction (bounded.releases moves) listed
        (released ++ first :: more)
      rw [tail, List.append_assoc] at onward
      exact turn.trans ((reaches_notify _ _ _ _).trans onward)

/-- Where a message stands decides whether its recording sets off a release. -/
theorem next_place (bounded : tracker.Bounded) {testimony : Testimony}
    (inRange : testimony.payload.owner.toNat < tracker.clockLength)
    (worklist : List NodeId) (released : List Payload) :
    Next ⟨tracker, worklist, .placing testimony, released⟩
        ⟨(tracker.record testimony.sender testimony.payload).tracker, worklist,
          .choosing,
          (tracker.record testimony.sender testimony.payload).released⟩ ∨
      tracker.policy = .causal ∧
        testimony.payload.uid = tracker.frontier testimony.payload.owner ∧
        tracker.contains testimony.sender testimony.payload.message = false ∧
        Next ⟨tracker, worklist, .placing testimony, released⟩
          ⟨tracker.sight testimony.sender testimony.payload,
            [testimony.payload.owner], .choosing, released⟩ := by
  have entry := bounded.frontiers_getElem? inRange
  by_cases known :
      tracker.contains testimony.sender testimony.payload.message = true
  · exact .inl (by simp only [Next, step, if_pos known])
  by_cases here : tracker.policy = .causal ∧
      testimony.payload.uid = tracker.frontier testimony.payload.owner
  · exact .inr ⟨here.1, here.2, Bool.not_eq_true _ ▸ known,
      by simp only [Next, step, entry, if_neg known, if_pos here]⟩
  · exact .inl (by simp only [Next, step, entry, if_neg known, if_neg here])

theorem reaches_record (bounded : tracker.Bounded) {testimony : Testimony}
    (fits : (Task.placing testimony).Fits tracker.clockLength) :
    Relation.ReflTransGen Next (record tracker testimony)
      ⟨(tracker.record testimony.sender testimony.payload).tracker, [],
        .choosing,
        (tracker.record testimony.sender testimony.payload).released⟩ := by
  obtain ⟨inRange, length⟩ := fits
  rcases next_place bounded inRange [] [] with
    step | ⟨causal, here, fresh, step⟩
  · exact .single step
  · have setup := sameSetup_sight tracker testimony.sender testimony.payload
    rw [← setup.clockLength_eq] at inRange
    have steps := reaches_cascade (bounded.sight testimony.sender length)
      (List.forall_mem_singleton.mpr inRange) []
    have recording :=
      recording_record causal testimony.sender testimony.payload
    generalize tracker.record testimony.sender testimony.payload = recorded
      at recording
    cases recording with
    | duplicate known =>
        rw [fresh] at known
        contradiction
    | stale _ below =>
        rw [here] at below
        exact absurd below (UInt32.lt_irrefl _)
    | early _ above =>
        rw [here] at above
        exact absurd above (UInt32.lt_irrefl _)
    | next => exact steps.head step

/-! ## What every step keeps -/

/-- A cascade names only ids with entries, and on its worklist each at most
once. -/
structure Sound (origin : Tracker) (cascade : Cascade) : Prop where
  bounded : cascade.tracker.Bounded
  setup : SameSetup origin cascade.tracker
  nodup : cascade.worklist.Nodup
  listed : ∀ owner ∈ cascade.worklist, owner.toNat < origin.clockLength
  fits : cascade.task.Fits origin.clockLength

theorem sound_release (bounded : tracker.Bounded)
    (inRange : owner.toNat < tracker.clockLength) :
    Sound tracker (release tracker owner) :=
  ⟨bounded, .refl tracker, List.nodup_singleton owner,
    List.forall_mem_singleton.mpr inRange, trivial⟩

theorem sound_record (bounded : tracker.Bounded) {testimony : Testimony}
    (fits : (Task.placing testimony).Fits tracker.clockLength) :
    Sound tracker (record tracker testimony) :=
  ⟨bounded, .refl tracker, List.nodup_nil, List.forall_mem_nil _, fits⟩

/-- A sound cascade is at its end or takes a step to a sound one. -/
theorem Sound.step {origin : Tracker} {cascade : Cascade}
    (sound : Sound origin cascade) :
    cascade.step = .finished ∨ ∃ after, Next cascade after ∧
      Sound origin after := by
  obtain ⟨tracker, worklist, task, released⟩ := cascade
  obtain ⟨bounded, setup, nodup, listed, fits⟩ := sound
  dsimp only at bounded setup nodup listed fits
  have same := setup.clockLength_eq
  cases task with
  | placing testimony =>
      obtain ⟨here, length⟩ := fits
      have inRange : testimony.payload.owner.toNat < tracker.clockLength :=
        same ▸ here
      rw [← same] at length
      refine .inr ?_
      rcases next_place bounded inRange worklist released with
        step | ⟨_, _, _, step⟩
      · exact ⟨_, step, bounded.record _ length,
          setup.trans (sameSetup_record tracker _ _), nodup, listed, trivial⟩
      · exact ⟨_, step, bounded.sight _ length,
          setup.trans (sameSetup_sight tracker _ _), List.nodup_singleton _,
          List.forall_mem_singleton.mpr here, trivial⟩
  | choosing =>
      cases worklist with
      | nil => exact .inl rfl
      | cons owner rest =>
          obtain ⟨here, later⟩ := List.forall_mem_cons.mp listed
          exact .inr ⟨_, rfl, bounded, setup, nodup.of_cons, later, here⟩
  | advancing owner moved =>
      have inRange : owner.toNat < tracker.clockLength := same ▸ fits
      refine .inr ?_
      cases ready : tracker.ready? owner with
      | none =>
          refine ⟨_, next_blocked bounded inRange ready _ _ _, bounded, setup,
            nodup, listed, ?_⟩
          rw [← same]
          cases moved with
          | false => exact trivial
          | true => exact bounded.dependents_lt owner
      | some payload =>
          exact ⟨_, next_release bounded inRange ready _ _ _,
            bounded.releaseFrontier owner,
            setup.trans (sameSetup_releaseFrontier tracker owner), nodup,
            listed, fits⟩
  | notifying dependents =>
      refine .inr ?_
      cases dependents with
      | nil => exact ⟨_, rfl, bounded, setup, nodup, listed, trivial⟩
      | cons owner rest =>
          obtain ⟨here, later⟩ := List.forall_mem_cons.mp fits
          refine ⟨_, rfl, bounded, setup, ?_, ?_, later⟩
          · dsimp only
            split
            case isTrue => exact nodup
            case isFalse absent => simpa using nodup.concat absent
          · dsimp only
            split
            case isTrue => exact listed
            case isFalse =>
                exact List.forall_mem_append.mpr
                  ⟨listed, List.forall_mem_singleton.mpr here⟩

theorem Sound.reaches {origin : Tracker} {start cascade : Cascade}
    (sound : Sound origin start)
    (steps : Relation.ReflTransGen Next start cascade) :
    Sound origin cascade := by
  induction steps with
  | refl => exact sound
  | @tail middle last _ next induction =>
      rcases induction.step with finished | ⟨after, same, sound⟩
      · rw [Next, finished] at next
        contradiction
      · obtain rfl := Outcome.next.inj (next.symm.trans same)
        exact sound

theorem Sound.length_worklist {origin : Tracker} {cascade : Cascade}
    (sound : Sound origin cascade) :
    cascade.worklist.length ≤ origin.clockLength := by
  apply length_le_of_nodup 0 sound.nodup
  intro owner member
  have bound := sound.listed owner member
  omega

theorem accessible_of_reaches {start final : Cascade}
    (steps : Relation.ReflTransGen Next start final)
    (finished : final.step = .finished) :
    Acc (fun later earlier => Next earlier later) start := by
  induction steps using Relation.ReflTransGen.head_induction_on with
  | refl =>
      constructor
      intro after next
      rw [Next, finished] at next
      contradiction
  | head next _ induction =>
      constructor
      intro after other
      obtain rfl := Outcome.next.inj (next.symm.trans other)
      exact induction

/-- A cascade that starts here ends, with a certain tracker and after certain
releases.  Until then no lookup fails, and the worklist never names an owner
twice. -/
structure EndsInBounds (start : Cascade) (tracker : Tracker)
    (released : List Payload) : Prop where
  accessible : Acc (fun later earlier => Next earlier later) start
  ends : ∃ final, Relation.ReflTransGen Next start final ∧
    final.step = .finished ∧ final.tracker = tracker ∧
      final.released = released
  inRange : ∀ cascade, Relation.ReflTransGen Next start cascade →
    ∀ owner, cascade.step ≠ .stuck owner
  worklist : ∀ cascade, Relation.ReflTransGen Next start cascade →
    cascade.worklist.Nodup ∧
      cascade.worklist.length ≤ start.tracker.clockLength

theorem Sound.endsInBounds {start : Cascade}
    (sound : Sound start.tracker start)
    {released : List Payload} (steps : Relation.ReflTransGen Next start
      ⟨tracker, [], .choosing, released⟩) :
    EndsInBounds start tracker released where
  accessible := accessible_of_reaches steps rfl
  ends := ⟨_, steps, rfl, rfl, rfl⟩
  inRange := by
    intro cascade reached owner stuck
    rcases (sound.reaches reached).step with finished | ⟨after, next, _⟩
    · rw [stuck] at finished
      contradiction
    · rw [Next, stuck] at next
      contradiction
  worklist := by
    intro cascade reached
    have still := sound.reaches reached
    exact ⟨still.nodup, still.length_worklist⟩

theorem endsInBounds_release (bounded : tracker.Bounded)
    (inRange : owner.toNat < tracker.clockLength) :
    EndsInBounds (release tracker owner) (tracker.release owner).1
      (tracker.release owner).2 := by
  apply Sound.endsInBounds (sound_release bounded inRange)
  exact reaches_cascade bounded (List.forall_mem_singleton.mpr inRange) []

end Cascade

/-- Whatever a tracker has heard, be its graph as cyclic as may be, a release
comes to an end after no more releases than there are staged payloads, and so
does the recording of every payload that is admitted.  No lookup in the tables
of frontiers and clock entries or in the clock of a payload fails on the way,
and the worklist, free of repetitions, is never longer than the tables. -/
theorem release_ends_in_bounds {nodeCount : Nat}
    {edges : List (NodeId × List NodeId)} {graph : CausalityGraph}
    (built : CausalityGraph.ofEdges (nodeCount + 1) edges = .ok graph)
    (me : NodeId) (policy : ReleasePolicy) (heard : List Testimony) :
    let tracker := ((new me nodeCount graph policy).hearAll heard).1
    (∀ moment : Tracker,
      (moment = tracker ∨ ∃ testimony, tracker.admits testimony = true ∧
        moment = tracker.sight testimony.sender testimony.payload) →
      ∀ owner : NodeId, owner.toNat < nodeCount + 1 →
        Cascade.EndsInBounds (.release moment owner)
          (moment.release owner).1 (moment.release owner).2 ∧
        (moment.release owner).2.length ≤ moment.staged.size) ∧
    ∀ testimony, tracker.admits testimony = true →
      ∃ recorded,
        tracker.insert testimony.sender testimony.payload = .ok recorded ∧
        Cascade.EndsInBounds (.record tracker testimony)
          recorded.tracker recorded.released := by
  intro tracker
  have bounded : tracker.Bounded := (bounded_new built me policy).hearAll heard
  have length : tracker.clockLength = nodeCount + 1 :=
    (setup_hearAll (new me nodeCount graph policy) heard).1.clockLength_eq
  have fits : ∀ testimony, tracker.admits testimony = true →
      (Task.placing testimony).Fits tracker.clockLength := by
    intro testimony admits
    have valid := Option.isNone_iff_eq_none.mp admits
    obtain ⟨_, node, clock⟩ := problem?_eq_none_iff.mp valid
    exact ⟨toNat_lt_of_isNode node, clock⟩
  constructor
  · intro moment stands owner inRange
    have sound : moment.Bounded ∧ moment.clockLength = nodeCount + 1 := by
      rcases stands with rfl | ⟨testimony, admits, rfl⟩
      · exact ⟨bounded, length⟩
      · have setup :=
          sameSetup_sight tracker testimony.sender testimony.payload
        exact ⟨bounded.sight _ (fits testimony admits).2,
          setup.clockLength_eq.trans length⟩
    have conserved := size_staged_cascade moment [owner]
    refine ⟨Cascade.endsInBounds_release sound.1 (by rwa [sound.2]), ?_⟩
    rw [← conserved]
    exact Nat.le_add_left _ _
  · intro testimony admits
    have valid := Option.isNone_iff_eq_none.mp admits
    have placed := fits testimony admits
    refine ⟨tracker.record testimony.sender testimony.payload,
      by simp [insert, valid], ?_⟩
    exact (Cascade.sound_record bounded placed).endsInBounds
      (Cascade.reaches_record bounded placed)

/-- Two nodes that depend on each other, one of them on itself as well, and an
id that is no node and depends on both: the second witness of a message sets
off a release. -/
theorem release_ends_among_cyclic_pair :
    ∃ graph, CausalityGraph.ofEdges (2 + 1)
        [(1, [1, 2]), (2, [1]), (0, [2, 1])] = .ok graph ∧
      let tracker := ((new 1 2 graph .causal).hearAll
        [⟨1, .data 1 1 [7] 3⟩]).1
      let testimony : Testimony := ⟨2, .data 1 1 [7] 3⟩
      tracker.admits testimony = true ∧
      (∃ recorded,
        tracker.insert testimony.sender testimony.payload = .ok recorded ∧
        Cascade.EndsInBounds (.record tracker testimony)
          recorded.tracker recorded.released) ∧
      ((1 : NodeId).toNat < 2 + 1 ∧ (0 : NodeId).toNat < 2 + 1) ∧
      ((tracker.sight 2 (.data 1 1 [7] 3)).release 1).2.length ≤
        (tracker.sight 2 (.data 1 1 [7] 3)).staged.size ∧
      Cascade.EndsInBounds (.release tracker 0) (tracker.release 0).1
        (tracker.release 0).2 := by
  let graph : CausalityGraph := ⟨#[[2, 1], [1, 2], [1]], #[[], [2, 0], [1, 0]]⟩
  have built : CausalityGraph.ofEdges (2 + 1)
      [(1, [1, 2]), (2, [1]), (0, [2, 1])] = .ok graph := rfl
  refine ⟨graph, built, ?_⟩
  intro tracker testimony
  have admits : tracker.admits testimony = true :=
    ((setup_hearAll (new 1 2 graph .causal) _).1.admits_eq testimony).trans rfl
  obtain ⟨releases, records⟩ := release_ends_in_bounds built 1 .causal
    [⟨1, .data 1 1 [7] 3⟩]
  have sighted := releases _ (.inr ⟨testimony, admits, rfl⟩) 1 (by decide)
  have outside := releases _ (.inl rfl) 0 (by decide)
  exact ⟨admits, records testimony admits, ⟨by decide, by decide⟩, sighted.2,
    outside.1⟩

end Tracker

end CausalCast
