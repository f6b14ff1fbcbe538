import CausalCast.Proofs.Tracker.Releases

/-!
# Recording under the immediate policy

Under the immediate policy no frontier ever moves, so every message that has a
proper number is counted for good, and its counter is the number of its
witnesses.  A message is released by its first witness, if that one brought
data, and never again.
-/

namespace CausalCast

namespace Tracker

/-- The tables of a tracker that releases at once. -/
structure Prompt (tracker : Tracker) : Prop where
  immediate : tracker.policy = .immediate
  frontier_eq : ∀ owner, tracker.frontier owner = 1
  count_eq : ∀ message : MessageId, 1 ≤ message.uid.toNat →
    tracker.count message = (tracker.witnessesOf message).length

theorem prompt_new (me : NodeId) (nodeCount : Nat) (graph : CausalityGraph) :
    (new me nodeCount graph .immediate).Prompt where
  immediate := rfl
  frontier_eq := by
    intro owner
    simp only [frontier, new, List.getD_eq_getElem?_getD,
      List.getElem?_replicate]
    split <;> rfl
  count_eq := by
    intro message _
    simp [count, new, witnessesOf]

theorem count_countOne (tracker : Tracker) (message other : MessageId) :
    (tracker.countOne message).count other =
      if other = message then tracker.count other + 1
      else tracker.count other := by
  simp only [count, countOne, Std.HashMap.getD_insert, beq_iff_eq]
  by_cases same : other = message
  · simp [same]
  · have different : ¬message = other := fun equal => same equal.symm
    simp [same, different]

section Prompt

variable {tracker : Tracker} {sender : NodeId} {payload : Payload}
  (prompt : tracker.Prompt)
  (fresh : tracker.contains sender payload.message = false)
  (positive : 1 ≤ payload.uid.toNat)

include prompt fresh positive

theorem Prompt.record_eq :
    (tracker.record sender payload).tracker =
        (tracker.witness sender payload.message).countOne payload.message ∧
      (tracker.record sender payload).released =
        if tracker.witnessesOf payload.message = [] ∧
            payload.isAck = false then [payload]
        else [] := by
  have unreleased : ¬payload.uid < tracker.frontier payload.owner := by
    rw [prompt.frontier_eq, UInt32.lt_iff_toNat_lt]
    exact Nat.not_lt.mpr positive
  have first : ((tracker.witness sender payload.message).countOne
      payload.message).count payload.message =
        (tracker.witnessesOf payload.message).length + 1 := by
    rw [count_countOne, if_pos rfl, ← prompt.count_eq payload.message positive]
    rfl
  simp only [record, fresh, Bool.false_eq_true, if_false, unreleased,
    prompt.immediate, settleImmediate, first]
  cases witnesses : tracker.witnessesOf payload.message with
  | nil => cases payload.isAck <;> simp
  | cons witness rest => simp

theorem Prompt.record_of_fresh :
    (tracker.record sender payload).tracker.Prompt := by
  have lengths := length_witnessesOf_insert
    (witnesses_witness tracker sender payload.message) fresh
  rw [(prompt.record_eq fresh positive).1]
  refine ⟨prompt.immediate, prompt.frontier_eq, ?_⟩
  intro message messagePositive
  have counted := prompt.count_eq message messagePositive
  change _ = ((tracker.witness sender payload.message).witnessesOf
    message).length
  rw [count_countOne, lengths, ← counted]
  rfl

end Prompt

theorem Prompt.record {tracker : Tracker} (prompt : tracker.Prompt)
    (sender : NodeId) {payload : Payload}
    (positive : 1 ≤ payload.uid.toNat) :
    (tracker.record sender payload).tracker.Prompt := by
  cases known : tracker.contains sender payload.message with
  | true =>
      rw [record_of_contains known]
      exact prompt
  | false => exact prompt.record_of_fresh known positive

end Tracker

end CausalCast
