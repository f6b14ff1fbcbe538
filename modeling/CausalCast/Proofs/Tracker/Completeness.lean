import CausalCast.Proofs.Dependencies
import CausalCast.Proofs.Tracker.Releases

/-!
# Completeness of releasing

A release re-examines only the owners on its worklist.  The invariant of the
cascade is that every other owner has nothing ready; it survives because an
owner whose readiness a release can change is the released owner itself or one
of its dependents.  When the worklist is empty, nothing is ready anywhere.
-/

namespace CausalCast

namespace Tracker

def Drained (tracker : Tracker) : Prop :=
  ∀ owner, tracker.ready? owner = none

theorem drained_new (me : NodeId) (nodeCount : Nat) (graph : CausalityGraph)
    (policy : ReleasePolicy) : (new me nodeCount graph policy).Drained := by
  intro owner
  simp [ready?, new]

theorem mem_appendNew {owner : NodeId} {pending added : List NodeId} :
    owner ∈ appendNew pending added ↔ owner ∈ pending ∨ owner ∈ added := by
  induction added generalizing pending with
  | nil => simp [appendNew]
  | cons first added induction =>
      by_cases listed : first ∈ pending
      · rw [appendNew, if_pos listed, induction, List.mem_cons]
        constructor
        · rintro (old | new)
          · exact .inl old
          · exact .inr (.inr new)
        · rintro (old | rfl | new)
          · exact .inl old
          · exact .inl listed
          · exact .inr new
      · rw [appendNew, if_neg listed, induction]
        simp [or_assoc]

/-- Releasing a message of one owner leaves alone what another has ready,
unless that one depends on it. -/
theorem ready?_releaseFrontier_of_independent (tracker : Tracker)
    {owner other : NodeId} (different : other ≠ owner)
    (independent : owner ∉ tracker.graph.dependencies other) :
    (tracker.releaseFrontier owner).ready? other = tracker.ready? other := by
  have apart : tracker.frontierMessage other ≠ tracker.frontierMessage owner := by
    intro same
    exact different (congrArg MessageId.owner same)
  apply ready?_congr other (sameSetup_releaseFrontier tracker owner)
  · exact frontier_releaseFrontier_of_ne tracker owner different
  · rw [staged_releaseFrontier, if_neg apart]
  · rw [count_releaseFrontier, if_neg apart]
  · exact length_clock_releaseFrontier tracker owner
  · intro dependency member
    apply entry_releaseFrontier_of_ne
    rintro rfl
    exact independent member

theorem ready?_advance_of_independent (tracker : Tracker) {owner other : NodeId}
    (different : other ≠ owner)
    (independent : owner ∉ tracker.graph.dependencies other) :
    (tracker.advance owner).1.ready? other = tracker.ready? other := by
  fun_induction advance tracker owner with
  | case1 => rfl
  | case2 tracker payload ready final released step induction =>
      rw [step] at induction
      exact (induction independent).trans
        (ready?_releaseFrontier_of_independent tracker different independent)

theorem ready?_advance_self (tracker : Tracker) (owner : NodeId) :
    (tracker.advance owner).1.ready? owner = none := by
  fun_induction advance tracker owner with
  | case1 tracker blocked => exact blocked
  | case2 tracker payload ready final released step induction =>
      rw [step] at induction
      exact induction

/-- A cascade whose worklist names every owner that has something ready ends
with nothing ready. -/
theorem drained_cascade (tracker : Tracker) (pending : List NodeId)
    (coherent : tracker.graph.Coherent)
    (blocked : ∀ owner, owner ∉ pending → tracker.ready? owner = none) :
    (tracker.cascade pending).1.Drained := by
  fun_induction cascade tracker pending with
  | case1 tracker =>
      intro owner
      exact blocked owner (by simp)
  | case2 tracker owner rest after step induction =>
      have unmoved := releases_advance tracker owner
      have finished := ready?_advance_self tracker owner
      rw [step] at unmoved finished
      cases unmoved
      apply induction coherent
      intro other notPending
      by_cases same : other = owner
      · subst same
        exact finished
      · exact blocked other (by simp [same, notPending])
  | case3 tracker owner rest after first more step final released tail
      induction =>
      have setup := (releases_advance tracker owner).sameSetup
      have finished := ready?_advance_self tracker owner
      rw [step] at setup finished
      rw [tail] at induction
      apply induction
      · rw [setup.graph]
        exact coherent
      · intro other notPending
        rw [mem_appendNew, not_or] at notPending
        obtain ⟨notRest, notDependent⟩ := notPending
        by_cases same : other = owner
        · subst same
          exact finished
        · have independent : owner ∉ tracker.graph.dependencies other := by
            intro member
            exact notDependent (coherent.dependent other owner member
              (fun equal => same equal.symm))
          have unchanged := ready?_advance_of_independent tracker same independent
          rw [step] at unchanged
          rw [unchanged]
          exact blocked other (by simp [same, notRest])

theorem ready?_sight_of_ne (tracker : Tracker) (sender : NodeId)
    (payload : Payload) {owner : NodeId}
    (different : tracker.frontierMessage owner ≠ payload.message) :
    (tracker.sight sender payload).ready? owner = tracker.ready? owner := by
  apply ready?_congr owner (sameSetup_sight tracker sender payload)
  · exact frontier_sight tracker sender owner payload
  · simp [staged_sight, different]
  · simp [count_sight, different]
  · rw [clock_sight]
  · intro dependency _
    rw [clock_sight]

/-- Recording a payload leaves nothing ready behind. -/
theorem Drained.record {tracker : Tracker} (drained : tracker.Drained)
    (causal : tracker.policy = .causal) (coherent : tracker.graph.Coherent)
    (sender : NodeId) (payload : Payload) :
    (tracker.record sender payload).tracker.Drained := by
  have recording := recording_record causal sender payload
  generalize tracker.record sender payload = recorded at recording
  cases recording with
  | duplicate => exact drained
  | stale => exact drained
  | early fresh above =>
      intro owner
      have different : tracker.frontierMessage owner ≠ payload.message := by
        intro same
        simp only [frontierMessage, Payload.message, MessageId.mk.injEq] at same
        obtain ⟨rfl, here⟩ := same
        rw [here] at above
        exact UInt32.lt_irrefl _ above
      rw [ready?_sight_of_ne tracker sender payload different]
      exact drained owner
  | next fresh here =>
      apply drained_cascade
      · rw [(sameSetup_sight tracker sender payload).graph]
        exact coherent
      · intro owner notPending
        have different : tracker.frontierMessage owner ≠ payload.message := by
          intro same
          exact notPending
            (List.mem_singleton.mpr (congrArg MessageId.owner same))
        rw [ready?_sight_of_ne tracker sender payload different]
        exact drained owner

end Tracker

end CausalCast
