import CausalCast.Proofs.Streams
import CausalCast.Proofs.Tracker.Consistency
import Mathlib.Data.List.GetD

/-!
# The clock and the frontiers as totals

Release by release a tracker counts up the clock entry of the owner and puts
the frontier one further.  So its clock always tells how many payloads of each
owner it has released, every frontier is one more than the clock entry, and
the counters of all messages below the frontiers are cleared.
-/

namespace CausalCast

/-- How many of some payloads belong to each of the owners below a length. -/
def tally (length : Nat) (payloads : List Payload) : VectorClock :=
  (List.range length).map fun index =>
    UInt32.ofNat (payloads.countP (·.owner.toNat = index))

@[simp] theorem length_tally (length : Nat) (payloads : List Payload) :
    (tally length payloads).length = length := by
  simp [tally]

theorem tally_nil (length : Nat) : tally length [] = .zero length := by
  apply List.ext_getElem <;> simp [tally, VectorClock.zero]

theorem entry_tally {length : Nat} (payloads : List Payload) {owner : NodeId}
    (inRange : owner.toNat < length) :
    (tally length payloads).entry owner =
      UInt32.ofNat (payloads.countP (·.owner.toNat = owner.toNat)) := by
  simp [tally, VectorClock.entry, inRange]

theorem countP_owner (payloads : List Payload) (owner : NodeId) :
    payloads.countP (·.owner.toNat = owner.toNat) =
      (stream payloads owner).length := by
  simp only [stream, List.countP_eq_length_filter, UInt32.toNat_inj]

theorem tally_concat {length : Nat} (payloads : List Payload)
    {payload : Payload} (inRange : payload.owner.toNat < length) :
    tally length (payloads ++ [payload]) =
      (tally length payloads).set payload.owner.toNat
        ((tally length payloads).entry payload.owner + 1) := by
  rw [entry_tally payloads inRange]
  apply List.ext_getElem (by simp)
  intro index bound _
  simp only [tally, List.getElem_set, List.getElem_map, List.getElem_range,
    List.countP_append, List.countP_singleton, decide_eq_true_eq]
  split
  case isTrue here =>
      subst here
      rw [UInt32.ofNat_add]
      rfl
  case isFalse => simp

theorem tally_congr {left right : List Payload} (length : Nat)
    (same : ∀ owner, (stream left owner).length =
      (stream right owner).length) :
    tally length left = tally length right := by
  apply List.map_congr_left
  intro index _
  by_cases small : index < UInt32.size
  · have id : (UInt32.ofNat index).toNat = index :=
      UInt32.toNat_ofNat_of_lt small
    have counted := same (UInt32.ofNat index)
    rw [← countP_owner, ← countP_owner, id] at counted
    rw [counted]
  · have nobody : ∀ payload : Payload, payload.owner.toNat ≠ index := by
      rintro payload rfl
      exact small payload.owner.toNat_lt
    simp [nobody]

namespace Tracker

/-- The clock and the frontiers are totals of what was released, and what was
released is no longer counted. -/
structure Totals (tracker : Tracker) (released : List Payload) : Prop where
  clock : tracker.clock = tally tracker.clockLength released
  frontiers : tracker.frontiers = tracker.clock.map (· + 1)
  counted : ∀ message : MessageId, tracker.count message ≠ 0 →
    tracker.frontier message.owner ≤ message.uid

theorem totals_new (me : NodeId) (nodeCount : Nat) (graph : CausalityGraph)
    (policy : ReleasePolicy) : (new me nodeCount graph policy).Totals [] where
  clock := by rw [tally_nil]; rfl
  frontiers := by simp [new, VectorClock.zero]
  counted := by simp [count, new]

namespace Totals

variable {tracker after : Tracker} {released new : List Payload}
  {sender : NodeId} {payload : Payload}

/-- Every frontier is one more than the clock entry, also of ids that are no
node. -/
theorem frontier_eq (totals : tracker.Totals released) (owner : NodeId) :
    tracker.frontier owner = tracker.clock.entry owner + 1 := by
  rw [frontier, totals.frontiers]
  exact List.getD_map _ 0 (· + 1)

theorem releaseFrontier (totals : tracker.Totals released)
    (consistent : tracker.Consistent) {owner : NodeId}
    (ready : tracker.ready? owner = some payload)
    (notLast : payload.uid ≠ lastUid) :
    (tracker.releaseFrontier owner).Totals (released ++ [payload]) := by
  obtain ⟨_, node, _, _⟩ := ready?_eq_some_iff.mp ready
  obtain ⟨rfl, _⟩ := consistent.uid_of_ready? ready
  have setup := sameSetup_releaseFrontier tracker payload.owner
  refine ⟨?_, ?_, ?_⟩
  · rw [setup.clockLength_eq, tally_concat released (toNat_lt_of_isNode node),
      ← totals.clock]
    rfl
  · simp only [Tracker.releaseFrontier, frontierMessage, totals.frontier_eq,
      totals.frontiers, List.map_set]
  · intro message counted
    rw [count_releaseFrontier] at counted
    split at counted
    case isTrue => contradiction
    case isFalse different =>
        apply (consistent.frontier_releaseFrontier_le_iff ready notLast
          message).mpr
        exact ⟨totals.counted message counted, different⟩

theorem releases (totals : tracker.Totals released)
    (consistent : tracker.Consistent) (releases : Releases tracker new after)
    (notLast : ∀ payload ∈ new, payload.uid ≠ lastUid) :
    after.Totals (released ++ new) := by
  induction releases generalizing released with
  | done => simpa using totals
  | @next tracker final owner payload rest ready _ induction =>
      have first : payload.uid ≠ lastUid := notLast payload (by simp)
      have stepped := totals.releaseFrontier consistent ready first
      have tail := induction stepped (consistent.releaseFrontier ready first)
        (fun other member => notLast other (by simp [member]))
      simpa using tail

theorem sight (totals : tracker.Totals released)
    (above : tracker.frontier payload.owner ≤ payload.uid) :
    (tracker.sight sender payload).Totals released := by
  have setup := sameSetup_sight tracker sender payload
  refine ⟨?_, ?_, ?_⟩
  · rw [clock_sight, setup.clockLength_eq]
    exact totals.clock
  · rw [frontiers_sight, clock_sight]
    exact totals.frontiers
  · intro message counted
    rw [frontier_sight]
    rw [count_sight] at counted
    split at counted
    case isTrue here =>
        subst here
        exact above
    case isFalse => exact totals.counted message counted

theorem record (totals : tracker.Totals released)
    (consistent : tracker.Consistent)
    (valid : tracker.problem? sender payload = none)
    (notLast : ∀ other ∈ (tracker.record sender payload).released,
      other.uid ≠ lastUid) :
    (tracker.record sender payload).tracker.Totals
      (released ++ (tracker.record sender payload).released) := by
  have recording := recording_record consistent.causal sender payload
  generalize tracker.record sender payload = recorded at recording notLast
  cases recording with
  | duplicate => simpa using totals
  | stale =>
      rw [List.append_nil]
      exact ⟨totals.clock, totals.frontiers, totals.counted⟩
  | early fresh above =>
      rw [List.append_nil]
      exact totals.sight (UInt32.le_of_lt above)
  | next fresh here =>
      have above := UInt32.le_of_eq here.symm
      exact (totals.sight above).releases (consistent.sight valid fresh above)
        (releases_cascade _ _) notLast

end Totals

end Tracker

end CausalCast
