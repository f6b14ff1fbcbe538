import CausalCast.Proofs.Link.Loops
import CausalCast.Proofs.Node.Operations
import CausalCast.Proofs.Node.Race

/-!
# What the other loops of a node leave to its producer

The producer of a node shares it with loops that hear and acknowledge, empty
the sending queue and fill it again, and may come to an end.  What the producer
relies on, they leave alone: who the node is, how many messages it has handed
to the link, and which lines it has written for them.
-/

namespace CausalCast

namespace Node

theorem works_of_stage {node after : Node} {payload : Payload}
    {stage next : Stage}
    (stepped : stage.step node payload = some (after, next)) :
    Works node after := by
  cases stage with
  | asking =>
      obtain ⟨rfl, _⟩ := Prod.mk.inj (Option.some.inj stepped)
      exact .refl node
  | marking =>
      unfold Stage.step at stepped
      dsimp only at stepped
      split at stepped
      case h_1 =>
          obtain ⟨rfl, _⟩ := Prod.mk.inj (Option.some.inj stepped)
          exact .refl node
      case h_2 marked | h_3 marked =>
          obtain ⟨rfl, _⟩ := Prod.mk.inj (Option.some.inj stepped)
          exact works_of_insert marked
  | sending rest =>
      cases rest with
      | nil =>
          obtain ⟨rfl, _⟩ := Prod.mk.inj (Option.some.inj stepped)
          exact .refl node
      | cons peer rest =>
          unfold Stage.step at stepped
          dsimp only at stepped
          split at stepped
          case h_1 sent | h_2 sent =>
              obtain ⟨rfl, _⟩ := Prod.mk.inj (Option.some.inj stepped)
              exact works_of_send sent
  | returned => contradiction

/-! ## What may happen in between -/

/-- Two states of a node between which others than its producer were at work.
Of the sending queue nothing is known but that it is not opened again. -/
structure Beside (before after : Node) : Prop where
  node_eq : after =
    { before with
      tracker := after.tracker
      sending := after.sending
      retransmissions := after.retransmissions
      output := after.output
      stopped := after.stopped
      unacked := after.unacked
      now := after.now }
  setup : before.tracker.SameSetup after.tracker
  length_clock : after.tracker.clock.length = before.tracker.clock.length
  announced_eq : OutputEvent.announced after.logged =
    OutputEvent.announced before.logged
  outputOpen : after.output.isOpen = true → before.output.isOpen = true
  sendingOpen : after.sending.hasConsumer = true →
    before.sending.hasConsumer = true
  stopped : before.stopped = true → after.stopped = true

theorem Works.beside {before after : Node} (works : Works before after) :
    Beside before after := by
  have stopped : after.stopped = before.stopped := by rw [works.node_eq]
  have now : after.now = before.now := by rw [works.node_eq]
  constructor
  case node_eq =>
    rw [stopped, now]
    exact works.node_eq
  case setup => exact works.setup
  case length_clock => exact works.length_clock
  case announced_eq => exact works.announced_eq
  case outputOpen => exact fun opened => works.outputOpen.symm.trans opened
  case sendingOpen => exact fun opened => works.sendingOpen.symm.trans opened
  case stopped => exact fun before => stopped.trans before

namespace Beside

theorem refl (node : Node) : Beside node node :=
  (Works.refl node).beside

theorem trans {first second third : Node} (left : Beside first second)
    (right : Beside second third) : Beside first third := by
  refine ⟨?_, left.setup.trans right.setup,
    right.length_clock.trans left.length_clock,
    right.announced_eq.trans left.announced_eq,
    left.outputOpen ∘ right.outputOpen, left.sendingOpen ∘ right.sendingOpen,
    right.stopped ∘ left.stopped⟩
  rw [right.node_eq, left.node_eq]

end Beside

theorem beside_tick (node : Node) : Beside node node.tick :=
  ⟨rfl, .refl _, rfl, rfl, id, id, id⟩

theorem beside_stop (node : Node) : Beside node node.stop :=
  ⟨rfl, .refl _, rfl, rfl, id, id, fun _ => rfl⟩

/-- The sending queue may hold anything after others were at work on it. -/
theorem beside_queue (node : Node) (queue : Queue Message)
    (opened : queue.hasConsumer = true → node.sending.hasConsumer = true) :
    Beside node { node with sending := queue } :=
  ⟨rfl, .refl _, rfl, rfl, id, opened, id⟩

theorem beside_meet (node : Node) (arrival : Arrival) :
    Beside node (node.meet arrival).1 := by
  cases arrival with
  | datagram bytes => exact (works_handleDatagram node bytes).beside
  | failedReceive mishap | failedWait mishap =>
      unfold meet afterMishap
      dsimp only
      split <;> exact .refl node
  | idleWait => exact .refl node
  | stop => exact beside_stop node

end Node

namespace Station

open Node (Beside Works)

variable {station after : Station}

theorem works_land (station : Station) (flight : Flight) :
    Works station.node (station.land flight).1.node := by
  unfold land
  dsimp only
  split <;> exact Node.works_afterSend station.node flight.message _

theorem beside_of_stepSender {flight : Option Flight} {next : LoopState}
    (stepped : station.stepSender flight = some (after, next)) :
    Beside station.node after.node := by
  cases flight with
  | some flight =>
      simp only [stepSender] at stepped
      split at stepped
      case isTrue =>
          have landed := Option.some.inj stepped
          have works := works_land station flight
          rw [landed] at works
          exact works.beside
      case isFalse => contradiction
  | none =>
      simp only [stepSender] at stepped
      split at stepped
      case h_1 =>
          obtain ⟨rfl, _⟩ := Prod.mk.inj (Option.some.inj stepped)
          exact .refl _
      case h_2 => contradiction
      case h_3 message rest taken =>
          have opened := (Queue.of_dequeue taken).2
          have took := station.node.beside_queue rest
            fun known => opened.symm.trans known
          split at stepped
          case h_1 =>
              obtain ⟨rfl, _⟩ := Prod.mk.inj (Option.some.inj stepped)
              exact took.trans (Node.works_discountUnacked _ _).beside
          case h_2 =>
              obtain ⟨rfl, _⟩ := Prod.mk.inj (Option.some.inj stepped)
              exact took

theorem works_of_stepRetransmitter {held : Option Message} {next : LoopState}
    (stepped : station.stepRetransmitter held = some (after, next)) :
    Works station.node after.node := by
  cases held with
  | none =>
      simp only [stepRetransmitter] at stepped
      split at stepped
      case h_1 =>
          obtain ⟨rfl, _⟩ := Prod.mk.inj (Option.some.inj stepped)
          exact .refl _
      case h_2 => contradiction
      case h_3 =>
          split at stepped
          all_goals
            obtain ⟨rfl, _⟩ := Prod.mk.inj (Option.some.inj stepped)
            exact Node.works_of_link rfl rfl
  | some message =>
      simp only [stepRetransmitter] at stepped
      split at stepped
      case h_1 => contradiction
      case h_2 =>
          obtain ⟨rfl, _⟩ := Prod.mk.inj (Option.some.inj stepped)
          exact .refl _
      case h_3 =>
          split at stepped
          case isTrue =>
              obtain ⟨rfl, _⟩ := Prod.mk.inj (Option.some.inj stepped)
              exact Node.works_of_link rfl rfl
          case isFalse =>
              split at stepped
              case h_1 posted | h_2 posted =>
                  obtain ⟨rfl, _⟩ := Prod.mk.inj (Option.some.inj stepped)
                  exact Node.works_of_post posted

theorem beside_of_stepReceiver {next : LoopState}
    (stepped : station.stepReceiver = some (after, next)) :
    Beside station.node after.node := by
  unfold stepReceiver at stepped
  split at stepped
  case isTrue =>
      obtain ⟨rfl, _⟩ := Prod.mk.inj (Option.some.inj stepped)
      exact .refl _
  case isFalse =>
      split at stepped
      case h_1 =>
          split at stepped
          case isTrue => contradiction
          case isFalse =>
              obtain ⟨rfl, _⟩ := Prod.mk.inj (Option.some.inj stepped)
              exact .refl _
      case h_2 =>
          split at stepped
          case h_1 => contradiction
          case h_2 arrival rest arrived =>
              have met := station.node.beside_meet arrival
              dsimp only at stepped
              split at stepped
              all_goals
                obtain ⟨rfl, _⟩ := Prod.mk.inj (Option.some.inj stepped)
                exact met

/-- The loops that are no producers work beside one. -/
theorem beside_of_stepLoop {state next : LoopState}
    (other : ∀ production number pausedUntil,
      state ≠ .producing production number pausedUntil)
    (stepped : station.stepLoop state = some (after, next)) :
    Beside station.node after.node := by
  cases state with
  | sending flight => exact beside_of_stepSender stepped
  | retransmitting held => exact (works_of_stepRetransmitter stepped).beside
  | receiving => exact beside_of_stepReceiver stepped
  | producing production number pausedUntil =>
      exact absurd rfl (other production number pausedUntil)
  | ended => contradiction

theorem beside_closeLoop (station : Station) (task : Task)
    (result : LoopResult) :
    Beside station.node (station.closeLoop task result).node := by
  have ending {closed : Node} (beside : Beside station.node closed) :
      Beside station.node
        (if station.supervised && result ≠ .completed then closed.stop
        else closed) := by
    split
    case isTrue => exact beside.trans (Node.beside_stop _)
    case isFalse => exact beside
  apply ending
  cases task with
  | sender => exact station.node.beside_queue _ fun opened => by contradiction
  | retransmitter =>
      have works : Works station.node { station.node with
          retransmissions := station.node.retransmissions.dropConsumer } :=
        Node.works_of_link rfl rfl
      exact works.beside
  | receiver | workload | broadcasts | messagesTo => exact .refl _

end Station

end CausalCast
