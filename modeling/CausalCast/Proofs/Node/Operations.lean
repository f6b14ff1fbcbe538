import CausalCast.Proofs.Node.Effects

/-!
# What an operation of a node leaves alone

The operations by which a node hears, acknowledges, relays and sends go through
its tracker, its queues and its log.  They work whether or not the queues and
the log are open; they open and close nothing, take no time, and write no lines
but deliveries.
-/

namespace CausalCast

namespace OutputLog

theorem deliverAll_of_closed {log : OutputLog} (closed : log.isOpen = false)
    (payloads : List Payload) : log.deliverAll payloads = log := by
  induction payloads with
  | nil => rfl
  | cons payload rest induction =>
      have emitted : log.emit (.delivered payload) = log := by
        simp [emit, closed]
      change (log.emit (.delivered payload)).deliverAll rest = log
      rw [emitted, induction]

theorem announced_deliverAll (log : OutputLog) (payloads : List Payload) :
    OutputEvent.announced (log.deliverAll payloads).events.toList =
        OutputEvent.announced log.events.toList ∧
      (log.deliverAll payloads).isOpen = log.isOpen := by
  cases opened : log.isOpen with
  | true =>
      obtain ⟨stillOpen, events⟩ := deliverAll_of_isOpen opened payloads
      refine ⟨?_, stillOpen⟩
      rw [events, OutputEvent.announced_append_delivered]
  | false =>
      rw [deliverAll_of_closed opened]
      exact ⟨rfl, opened⟩

end OutputLog

theorem Queue.hasConsumer_enqueue {α : Type} (queue : Queue α) (item : α) :
    (queue.enqueue item).1.hasConsumer = queue.hasConsumer := by
  unfold enqueue handOver?
  cases opened : queue.hasConsumer <;> simp [announce, retract, opened]

namespace Node

/-- Two states of a node between which one of its operations was carried
out. -/
structure Works (before after : Node) : Prop where
  node_eq : after =
    { before with
      tracker := after.tracker
      sending := after.sending
      retransmissions := after.retransmissions
      output := after.output
      unacked := after.unacked }
  setup : before.tracker.SameSetup after.tracker
  length_clock : after.tracker.clock.length = before.tracker.clock.length
  announced_eq : OutputEvent.announced after.logged =
    OutputEvent.announced before.logged
  outputOpen : after.output.isOpen = before.output.isOpen
  sendingOpen : after.sending.hasConsumer = before.sending.hasConsumer

namespace Works

theorem refl (node : Node) : Works node node :=
  ⟨rfl, .refl _, rfl, rfl, rfl, rfl⟩

theorem trans {first second third : Node} (left : Works first second)
    (right : Works second third) : Works first third := by
  refine ⟨?_, left.setup.trans right.setup,
    right.length_clock.trans left.length_clock,
    right.announced_eq.trans left.announced_eq,
    right.outputOpen.trans left.outputOpen,
    right.sendingOpen.trans left.sendingOpen⟩
  rw [right.node_eq, left.node_eq]

end Works

theorem works_of_link {before after : Node}
    (node_eq : after =
      { before with
        sending := after.sending
        retransmissions := after.retransmissions
        unacked := after.unacked })
    (sendingOpen : after.sending.hasConsumer = before.sending.hasConsumer) :
    Works before after := by
  have tracker : after.tracker = before.tracker := by rw [node_eq]
  have output : after.output = before.output := by rw [node_eq]
  constructor
  case node_eq =>
    rw [tracker, output]
    exact node_eq
  case setup =>
    rw [tracker]
    exact .refl _
  case length_clock => rw [tracker]
  case announced_eq => rw [logged, logged, output]
  case outputOpen => rw [output]
  case sendingOpen => exact sendingOpen

theorem works_countUnacked (node : Node) (payload : Payload) :
    Works node (node.countUnacked payload) := by
  unfold countUnacked
  split <;> exact works_of_link rfl rfl

theorem works_discountUnacked (node : Node) (payload : Payload) :
    Works node (node.discountUnacked payload) := by
  unfold discountUnacked
  split <;> exact works_of_link rfl rfl

theorem works_of_post {node after : Node} {message : Message}
    {outcome : Except QueueError Unit}
    (posted : node.post message = (after, outcome)) : Works node after := by
  obtain ⟨rfl, _⟩ := Prod.mk.inj posted
  exact works_of_link rfl (Queue.hasConsumer_enqueue _ _)

theorem works_of_park {node after : Node} {message : Message}
    {outcome : Except QueueError Unit}
    (parked : node.park message = (after, outcome)) : Works node after := by
  obtain ⟨rfl, _⟩ := Prod.mk.inj parked
  exact works_of_link rfl rfl

theorem works_of_send {node after : Node} {payload : Payload}
    {recipient : NodeId} {outcome : Except QueueError Unit}
    (sent : node.send payload recipient = (after, outcome)) :
    Works node after := by
  unfold send at sent
  dsimp only at sent
  have counted := node.works_countUnacked payload
  split at sent
  case h_1 posted =>
      obtain ⟨rfl, _⟩ := Prod.mk.inj sent
      exact counted.trans (works_of_post posted)
  case h_2 refused =>
      obtain ⟨rfl, _⟩ := Prod.mk.inj sent
      exact (counted.trans (works_of_post refused)).trans
        (works_discountUnacked _ payload)

theorem works_sendEach (node : Node) (payload : Payload)
    (recipients : List NodeId) :
    Works node (node.sendEach payload recipients).1 := by
  induction recipients generalizing node with
  | nil => exact .refl node
  | cons recipient rest induction =>
      unfold sendEach
      split
      case h_1 sent => exact (works_of_send sent).trans (induction _)
      case h_2 refused => exact works_of_send refused

theorem works_witnessed (node : Node) (sender : NodeId) (payload : Payload) :
    Works node (node.witnessed sender payload) := by
  obtain ⟨announced, opened⟩ := node.output.announced_deliverAll
    (node.tracker.record sender payload).released
  exact ⟨rfl, Tracker.sameSetup_record _ _ _,
    Tracker.length_clock_record _ _ _, announced, opened, rfl⟩

theorem works_of_insert {node after : Node} {sender : NodeId}
    {payload : Payload} {sighting : Tracker.Sighting}
    (recorded : node.insert sender payload = .ok (after, sighting)) :
    Works node after := by
  rw [eq_witnessed_of_insert recorded]
  exact works_witnessed node sender payload

theorem works_of_uniformReliableBroadcast {node after : Node}
    {payload : Payload} {isFirst : Bool}
    (relayed : node.uniformReliableBroadcast payload = .ok (after, isFirst)) :
    Works node after := by
  unfold uniformReliableBroadcast at relayed
  split at relayed
  case isTrue =>
      obtain ⟨rfl, _⟩ := Prod.mk.inj (Except.ok.inj relayed)
      exact .refl node
  case isFalse =>
      split at relayed
      case h_1 => contradiction
      case h_2 marked =>
          obtain ⟨rfl, _⟩ := Prod.mk.inj (Except.ok.inj relayed)
          exact works_of_insert marked
      case h_3 marked =>
          obtain ⟨rfl, _⟩ := Prod.mk.inj (Except.ok.inj relayed)
          exact (works_of_insert marked).trans (works_sendEach _ _ _)

theorem works_handlePayload (node : Node) (payload : Payload) :
    Works node (node.handlePayload payload) := by
  unfold handlePayload
  split
  case h_1 => exact .refl node
  case h_2 recorded =>
      have first := works_of_insert recorded
      split
      case isTrue => exact first
      case isFalse =>
          split
          case h_1 refused => exact first.trans (works_of_send refused)
          case h_2 acknowledged =>
              have second := first.trans (works_of_send acknowledged)
              split
              case isTrue => exact second
              case isFalse =>
                  split
                  case h_1 => exact second
                  case h_2 relayed =>
                      exact second.trans
                        (works_of_uniformReliableBroadcast relayed)

theorem works_handleDatagram (node : Node) (bytes : List UInt8) :
    Works node (node.handleDatagram bytes) := by
  unfold handleDatagram
  split
  · exact works_handlePayload node _
  · exact .refl node

theorem works_afterSend (node : Node) (message : Message)
    (mishap? : Option Mishap) :
    Works node (node.afterSend message mishap?).1 := by
  unfold afterSend
  split
  case h_1 => exact .refl node
  case h_2 =>
      split
      case isTrue => exact .refl node
      case isFalse =>
          split
          case h_1 parked => exact works_of_park parked
          case h_2 refused => exact works_of_park refused

end Node

end CausalCast
