import CausalCast.Proofs.Ensemble.Convergence

/-!
# Agreement at idle

When no node has unacknowledged data, all messages are delivered everywhere.
Moreover nothing can change until the next message is originated, because
whatever is still under way is known already.
-/

namespace CausalCast

namespace Ensemble

namespace Invariant

variable {ensemble : Ensemble} (invariant : ensemble.Invariant)

include invariant

/-- A node that is informed learns nothing from what is vouched for. -/
theorem heard_eq (informed : ensemble.Informed) {id : NodeId}
    (member : ensemble.membership.contains id = true) {payload : Payload}
    (vouched : ensemble.Vouched payload.sender payload) :
    (ensemble.node id).heard payload = ensemble.node id := by
  have sound := invariant.nodeSound member
  have valid := sound.problem?_eq_none invariant.chronicle vouched
  have sender := informed id member payload.sender vouched.member
    payload.original vouched.genuine
  have self := informed id member id member payload.original vouched.genuine
  rw [Payload.message_original] at sender self
  have unmoved := Node.witnessed_of_contains _ _ _ sender
  cases ack : payload.isAck with
  | true =>
      rw [(Node.heard_of_ack valid ack).1]
      exact unmoved
  | false =>
      rw [(Node.heard_of_data valid ack sound.broadcast).1, unmoved]
      apply Node.witnessed_of_contains
      rw [sound.me_eq]
      exact self

/-- No step but an origination changes a tracker or an output log. -/
theorem unchanged (informed : ensemble.Informed) {after : Ensemble}
    (step : Quiet ensemble after) {id : NodeId}
    (member : ensemble.membership.contains id = true) :
    (after.node id).tracker = (ensemble.node id).tracker ∧
      (after.node id).output = (ensemble.node id).output := by
  have sound := invariant.nodeSound member
  have effect := step.effect id
  unfold node
  generalize after.links id = link at effect ⊢
  cases effect with
  | none => exact ⟨rfl, rfl⟩
  | sender step =>
      have only := (Link.senderMove_of_stepSender step).queuesOnly
      exact ⟨only.tracker_eq, only.output_eq⟩
  | retransmitter step =>
      have only := (Link.retransmitterMove_of_stepRetransmitter step).queuesOnly
      exact ⟨only.tracker_eq, only.output_eq⟩
  | tick => exact ⟨rfl, rfl⟩
  | arrive aloft =>
      obtain ⟨payload, bytes, fits, vouched⟩ := invariant.air _ aloft
      have only := Node.queuesOnly_sendAll sound.proper.sendingOpen
        ((ensemble.node id).replies payload)
      rw [Link.node_withNode, invariant.handleDatagram_eq member bytes fits
        vouched, Node.handlePayload_eq sound.proper,
        invariant.heard_eq informed member vouched]
      exact ⟨only.tracker_eq, only.output_eq⟩

end Invariant

theorem Informed.quiet {before after : Ensemble}
    (invariant : before.Invariant) (informed : before.Informed)
    (step : Quiet before after) : after.Informed := by
  intro id member witness witnessMember payload genuine
  rw [step.membership_eq] at member witnessMember
  rw [messages, step.history_eq] at genuine
  rw [(invariant.unchanged informed step member).1]
  exact informed id member witness witnessMember payload genuine

theorem unchanged_of_quiet {before after : Ensemble}
    (invariant : before.Invariant) (informed : before.Informed)
    (steps : Relation.ReflTransGen Quiet before after) :
    after.Invariant ∧ after.Informed ∧
      ∀ id, before.membership.contains id = true →
        after.membership.contains id = true ∧
          (after.node id).tracker = (before.node id).tracker ∧
          (after.node id).output = (before.node id).output := by
  induction steps with
  | refl => exact ⟨invariant, informed, fun _ member => ⟨member, rfl, rfl⟩⟩
  | tail _ step induction =>
      obtain ⟨middle, middleInformed, same⟩ := induction
      refine ⟨middle.quiet step, middleInformed.quiet middle step, ?_⟩
      intro id member
      obtain ⟨middleMember, tracker, output⟩ := same id member
      have last := middle.unchanged middleInformed step middleMember
      refine ⟨?_, last.1.trans tracker, last.2.trans output⟩
      rw [step.membership_eq]
      exact middleMember

end Ensemble

end CausalCast
