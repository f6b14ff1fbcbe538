import CausalCast.Proofs.Link.Exchanges

/-!
# How the loops of a link end

A step that ends a loop changes little: the loop gives up its end of the queue
that it was reading, and with it everything that waits there, and drops what it
holds.  On a supervised station its failure orders the others to stop.  The
count of data is not touched, and neither is what the other loop holds.
-/

namespace CausalCast

theorem Queue.eq_of_enqueue_error {α : Type} {queue after : Queue α} {item : α}
    {error : QueueError}
    (refused : queue.enqueue item = (after, .error error)) :
    after = queue := by
  cases opened : queue.hasConsumer with
  | true => simp [enqueue, handOver?, announce, opened] at refused
  | false =>
      rw [enqueue_of_consumerGone item opened] at refused
      exact (Prod.mk.inj refused).1.symm

@[simp] theorem Queue.toList_dropConsumer {α : Type} (queue : Queue α) :
    queue.dropConsumer.toList = [] := rfl

namespace Node

theorem eq_of_post_error {node after : Node} {message : Message}
    {error : QueueError} (refused : node.post message = (after, .error error)) :
    after = node := by
  cases queued : node.sending.enqueue message with
  | mk sending outcome =>
      simp only [post, queued, Prod.mk.injEq] at refused
      obtain ⟨rfl, rfl⟩ := refused
      rw [Queue.eq_of_enqueue_error queued]

theorem eq_of_park_error {node after : Node} {message : Message}
    {error : QueueError} (refused : node.park message = (after, .error error)) :
    after = node := by
  cases queued : node.retransmissions.enqueue message with
  | mk retransmissions outcome =>
      simp only [park, queued, Prod.mk.injEq] at refused
      obtain ⟨rfl, rfl⟩ := refused
      rw [Queue.eq_of_enqueue_error queued]

theorem eq_of_afterSend_ended {node after : Node} {message : Message}
    {mishap? : Option Mishap} {result : LoopResult}
    (ended : node.afterSend message mishap? = (after, some result)) :
    after = node := by
  unfold afterSend at ended
  split at ended
  · exact (Prod.mk.inj ended).1.symm
  · split at ended
    · simp at ended
    · split at ended
      · simp at ended
      case h_2 refused =>
          obtain ⟨rfl, _⟩ := Prod.mk.inj ended
          exact eq_of_park_error refused

theorem discountUnacked_countUnacked (node : Node) (payload : Payload) :
    (node.countUnacked payload).discountUnacked payload = node := by
  unfold countUnacked discountUnacked
  split <;> rfl

theorem eq_of_send_error {node after : Node} {payload : Payload}
    {recipient : NodeId} {error : QueueError}
    (failed : node.send payload recipient = (after, .error error)) :
    after = node := by
  unfold send at failed
  dsimp only at failed
  split at failed
  · simp at failed
  case h_2 refused =>
      obtain ⟨rfl, _⟩ := Prod.mk.inj failed
      rw [eq_of_post_error refused, discountUnacked_countUnacked]

end Node

namespace Station

theorem node_of_land_ended {station after : Station} {flight : Flight}
    {result : LoopResult}
    (ended : station.land flight = (after, .ended result)) :
    after.node = station.node := by
  unfold land at ended
  dsimp only at ended
  split at ended
  case h_1 closing =>
      obtain ⟨rfl, _⟩ := Prod.mk.inj ended
      exact Node.eq_of_afterSend_ended (Prod.ext rfl closing)
  case h_2 => simp at ended

theorem node_of_sender_ended {station after : Station} {flight : Option Flight}
    {result : LoopResult}
    (ended : station.stepSender flight = some (after, .ended result)) :
    after.node = station.node := by
  cases flight with
  | none =>
      simp only [stepSender] at ended
      split at ended
      case h_1 =>
          obtain ⟨rfl, _⟩ := Prod.mk.inj (Option.some.inj ended)
          rfl
      case h_2 => contradiction
      case h_3 => split at ended <;> simp at ended
  | some flying =>
      simp only [stepSender] at ended
      split at ended
      case isFalse => contradiction
      case isTrue due => exact node_of_land_ended (Option.some.inj ended)

theorem node_of_retransmitter_ended {station after : Station}
    {held : Option Message} {result : LoopResult}
    (ended : station.stepRetransmitter held = some (after, .ended result)) :
    after.node = station.node := by
  cases held with
  | none =>
      simp only [stepRetransmitter] at ended
      split at ended
      case h_1 =>
          obtain ⟨rfl, _⟩ := Prod.mk.inj (Option.some.inj ended)
          rfl
      case h_2 => contradiction
      case h_3 => split at ended <;> simp at ended
  | some message =>
      simp only [stepRetransmitter] at ended
      split at ended
      case h_1 => contradiction
      case h_2 =>
          obtain ⟨rfl, _⟩ := Prod.mk.inj (Option.some.inj ended)
          rfl
      case h_3 =>
          split at ended
          case isTrue => simp at ended
          case isFalse =>
              split at ended
              · simp at ended
              case h_2 refused =>
                  obtain ⟨rfl, _⟩ := Prod.mk.inj (Option.some.inj ended)
                  exact Node.eq_of_post_error refused

/-- The end of the sender closes the sending queue; it may order a stop. -/
theorem exists_node_closeLoop_sender (station : Station)
    (result : LoopResult) :
    ∃ stopped, (station.node.stopped = true → stopped = true) ∧
      (station.closeLoop .sender result).node =
        { station.node with
          sending := station.node.sending.dropConsumer
          stopped := stopped } := by
  simp only [closeLoop]
  split
  · exact ⟨true, fun _ => rfl, rfl⟩
  · exact ⟨station.node.stopped, id, rfl⟩

/-- The end of the retransmitter closes the retransmission queue; it may order
a stop. -/
theorem exists_node_closeLoop_retransmitter (station : Station)
    (result : LoopResult) :
    ∃ stopped, (station.closeLoop .retransmitter result).node =
      { station.node with
        retransmissions := station.node.retransmissions.dropConsumer
        stopped := stopped } := by
  simp only [closeLoop]
  split
  · exact ⟨true, rfl⟩
  · exact ⟨station.node.stopped, rfl⟩

end Station

namespace Link

/-- The last step of the sender, with the outcomes of the sends in it. -/
def endSender (link : Link) (outcomes : List (Option Mishap)) : Option Link :=
  let wire := { Wire.new with outcomes := outcomes }
  match { link.station with wire := wire }.stepSender link.flight with
  | some (after, .ended result) =>
      some { link with
        station := after.closeLoop .sender result
        flight := none }
  | _ => none

def endRetransmitter (link : Link) : Option Link :=
  match link.station.stepRetransmitter link.held with
  | some (after, .ended result) =>
      some { link with
        station := after.closeLoop .retransmitter result
        held := none }
  | _ => none

theorem of_endSender {link after : Link} {outcomes : List (Option Mishap)}
    (ended : link.endSender outcomes = some after) :
    after.flight = none ∧ after.held = link.held ∧
      ∃ stopped, after.node =
        { link.node with
          sending := link.node.sending.dropConsumer
          stopped := stopped } := by
  unfold endSender at ended
  dsimp only at ended
  split at ended
  case h_2 => contradiction
  case h_1 station result moved =>
      obtain rfl := Option.some.inj ended
      obtain ⟨stopped, _, closed⟩ :=
        station.exists_node_closeLoop_sender result
      rw [Station.node_of_sender_ended moved] at closed
      exact ⟨rfl, rfl, stopped, closed⟩

theorem of_endRetransmitter {link after : Link}
    (ended : link.endRetransmitter = some after) :
    after.flight = link.flight ∧ after.held = none ∧
      ∃ stopped, after.node =
        { link.node with
          retransmissions := link.node.retransmissions.dropConsumer
          stopped := stopped } := by
  unfold endRetransmitter at ended
  split at ended
  case h_2 => contradiction
  case h_1 station result moved =>
      obtain rfl := Option.some.inj ended
      obtain ⟨stopped, closed⟩ :=
        station.exists_node_closeLoop_retransmitter result
      rw [Station.node_of_retransmitter_ended moved] at closed
      exact ⟨rfl, rfl, stopped, closed⟩

end Link

end CausalCast
