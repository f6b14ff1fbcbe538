import CausalCast.Proofs.Node.Effects
import CausalCast.Station

/-!
# The loops of a link, step by step

A link is a station together with what its two loops hold: the sender may have
a message in flight, and the retransmitter may hold one until it is due.  A
step of a loop is the station's own step, taken with any outcomes of the
transport; a step that ends the loop is not a step of the link.  `SenderMove`
and `RetransmitterMove` list everything that such a step can do, so that what
it preserves is read off case by case.
-/

namespace CausalCast

/-- A station with what its sender and its retransmitter hold. -/
structure Link where
  station : Station
  flight : Option Flight
  held : Option Message

/-- Two states of a node between which only the link was at work, or time
passed. -/
structure Node.QueuesOnly (before after : Node) : Prop where
  node_eq : after =
    { before with
      sending := after.sending
      retransmissions := after.retransmissions
      unacked := after.unacked
      now := after.now }
  sendingOpen : after.sending.hasConsumer = before.sending.hasConsumer
  retransmissionsOpen :
    after.retransmissions.hasConsumer = before.retransmissions.hasConsumer

namespace Node.QueuesOnly

variable {before after : Node} (only : QueuesOnly before after)

include only

theorem me_eq : after.me = before.me := by
  rw [only.node_eq]

theorem membership_eq : after.membership = before.membership := by
  rw [only.node_eq]

theorem workload_eq : after.workload = before.workload := by
  rw [only.node_eq]

theorem settings_eq : after.settings = before.settings := by
  rw [only.node_eq]

theorem timer_eq : after.timer = before.timer := by
  rw [timer, only.settings_eq]
  rfl

theorem tracker_eq : after.tracker = before.tracker := by
  rw [only.node_eq]

theorem output_eq : after.output = before.output := by
  rw [only.node_eq]

theorem enqueued_eq : after.enqueued = before.enqueued := by
  rw [only.node_eq]

theorem proper (proper : before.Proper) : after.Proper := by
  rw [only.node_eq]
  exact ⟨proper.me_eq, proper.nodeCount_eq, proper.member, proper.length_clock,
    only.sendingOpen.trans proper.sendingOpen,
    only.retransmissionsOpen.trans proper.retransmissionsOpen,
    proper.outputOpen, proper.running⟩

end Node.QueuesOnly

@[simp] theorem Node.sending_discountUnacked (node : Node)
    (payload : Payload) :
    (node.discountUnacked payload).sending = node.sending := by
  unfold discountUnacked
  split <;> rfl

@[simp] theorem Node.retransmissions_discountUnacked (node : Node)
    (payload : Payload) :
    (node.discountUnacked payload).retransmissions = node.retransmissions := by
  unfold discountUnacked
  split <;> rfl

theorem Node.queuesOnly_discountUnacked (node : Node) (payload : Payload) :
    QueuesOnly node (node.discountUnacked payload) := by
  unfold discountUnacked
  split <;> exact ⟨rfl, rfl, rfl⟩

theorem Node.stamped_of_leaving {node : Node} {message stamped : Message}
    {datagram : Datagram}
    (departure : node.departure message = .leaving stamped datagram) :
    stamped = { message with payload := message.payload.stamped node.me } := by
  unfold Node.departure at departure
  split at departure
  · contradiction
  · dsimp only at departure
    split at departure
    · contradiction
    · exact (Departure.leaving.inj departure).1.symm

theorem Node.queuesOnly_tick (node : Node) : QueuesOnly node node.tick :=
  ⟨rfl, rfl, rfl⟩

theorem Node.queuesOnly_sendAll {node : Node}
    (opened : node.sending.hasConsumer = true) (parcels : List Parcel) :
    QueuesOnly node (node.sendAll parcels) := by
  obtain ⟨sending, _, stillOpen, sent⟩ := sendAll_of_open opened parcels
  rw [sent]
  exact ⟨rfl, stillOpen.trans opened.symm, rfl⟩

namespace Link

def node (link : Link) : Node :=
  link.station.node

def withNode (link : Link) (node : Node) : Link :=
  { link with station := { link.station with node := node } }

/-- A link whose loops hold nothing. -/
def idle (station : Station) : Link :=
  ⟨station, none, none⟩

/-- One step of the sender, with the outcomes of the sends in it, and the
datagrams that leave. -/
def stepSender (link : Link) (outcomes : List (Option Mishap)) :
    Option (Link × List Datagram) :=
  let wire := { Wire.new with outcomes := outcomes }
  match { link.station with wire := wire }.stepSender link.flight with
  | some (after, .sending flight) =>
      some ({ link with station := after, flight := flight },
        after.wire.sent.toList)
  | _ => none

def stepRetransmitter (link : Link) : Option Link :=
  match link.station.stepRetransmitter link.held with
  | some (after, .retransmitting held) =>
      some { link with station := after, held := held }
  | _ => none

def tick (link : Link) : Link :=
  { link with station := link.station.tick }

def inFlight (link : Link) : List Message :=
  (link.flight.map Flight.message).toList

/-- All messages that the link holds: in the sending queue, in the sender's
hand, in the retransmission queue, and in the retransmitter's hand. -/
def pipeline (link : Link) : List Message :=
  link.node.sending.toList ++ link.inFlight ++
    link.node.retransmissions.toList ++ link.held.toList

@[simp] theorem node_withNode (link : Link) (node : Node) :
    (link.withNode node).node = node := rfl

@[simp] theorem flight_withNode (link : Link) (node : Node) :
    (link.withNode node).flight = link.flight := rfl

@[simp] theorem held_withNode (link : Link) (node : Node) :
    (link.withNode node).held = link.held := rfl

/-! ## The sender -/

/-- What a step of the sender can do. -/
inductive SenderMove (link after : Link) (datagrams : List Datagram) : Prop where
  /-- It takes a message that cannot be sent, and drops it. -/
  | abandon {message : Message} {rest : Queue Message}
      (empty : link.flight = none)
      (taken : link.node.sending.toList = message :: rest.toList)
      (opened : rest.hasConsumer = link.node.sending.hasConsumer)
      (departure : link.node.departure message = .abandoned)
      (node_eq : after.node =
        { link.node with sending := rest }.discountUnacked message.payload)
      (flight_eq : after.flight = none) (held_eq : after.held = link.held)
      (nothing : datagrams = [])
  /-- It takes a message up. -/
  | depart {message stamped : Message} {rest : Queue Message}
      {datagram : Datagram} {arrivesAt : Nat}
      (empty : link.flight = none)
      (taken : link.node.sending.toList = message :: rest.toList)
      (opened : rest.hasConsumer = link.node.sending.hasConsumer)
      (departure : link.node.departure message = .leaving stamped datagram)
      (node_eq : after.node = { link.node with sending := rest })
      (flight_eq : after.flight = some ⟨stamped, datagram, arrivesAt⟩)
      (held_eq : after.held = link.held) (nothing : datagrams = [])
  /-- It has sent an acknowledgement, or tried to, and forgets it. -/
  | forget {flight : Flight} (flying : link.flight = some flight)
      (ack : flight.message.payload.isAck = true)
      (node_eq : after.node = link.node)
      (flight_eq : after.flight = none) (held_eq : after.held = link.held)
      (left : ∀ datagram ∈ datagrams, datagram = flight.datagram)
  /-- It has sent data, or tried to, and parks it. -/
  | park {flight : Flight} {parked : Queue Message}
      (flying : link.flight = some flight)
      (data : flight.message.payload.isAck = false)
      (items : parked.toList = link.node.retransmissions.toList ++
        [flight.message.transmitted link.node.now])
      (opened : parked.hasConsumer = link.node.retransmissions.hasConsumer)
      (node_eq : after.node = { link.node with retransmissions := parked })
      (flight_eq : after.flight = none) (held_eq : after.held = link.held)
      (left : ∀ datagram ∈ datagrams, datagram = flight.datagram)

end Link

theorem Queue.hasConsumer_of_tryDequeue {α : Type} {queue rest : Queue α}
    {item : α} (taken : queue.tryDequeue = some (item, rest)) :
    rest.hasConsumer = queue.hasConsumer := by
  unfold tryDequeue take? at taken
  split at taken
  case h_1 head tail step =>
      split at step
      · obtain ⟨rfl, rfl⟩ := Prod.mk.inj (Option.some.inj step)
        obtain ⟨rfl, rfl⟩ := Prod.mk.inj (Option.some.inj taken)
        rfl
      · contradiction
  case h_2 => contradiction

theorem Queue.hasConsumer_of_enqueue {α : Type} {queue filled : Queue α}
    {item : α} (accepted : queue.enqueue item = (filled, .ok ())) :
    filled.hasConsumer = queue.hasConsumer := by
  cases opened : queue.hasConsumer with
  | false =>
      rw [enqueue_of_consumerGone item opened] at accepted
      simp at accepted
  | true =>
      simp only [enqueue, handOver?, announce, opened, if_true, Prod.mk.injEq,
        and_true] at accepted
      rw [← accepted]

theorem Queue.of_dequeue {α : Type} {queue rest : Queue α} {item : α}
    {stopped : Bool} (taken : queue.dequeue stopped = .item item rest) :
    queue.toList = item :: rest.toList ∧
      rest.hasConsumer = queue.hasConsumer := by
  unfold dequeue at taken
  split at taken
  · contradiction
  · split at taken
    case h_1 found =>
        obtain ⟨rfl, rfl⟩ := Dequeued.item.inj taken
        exact ⟨(toList_of_tryDequeue found).1, hasConsumer_of_tryDequeue found⟩
    case h_2 =>
        split at taken <;> contradiction

theorem Wire.mem_sent_of_send {wire : Wire} {datagram other : Datagram}
    (member : other ∈ (wire.send datagram).1.sent.toList) :
    other ∈ wire.sent.toList ∨ other = datagram := by
  unfold send at member
  cases outcome : wire.outcome with
  | none => simpa [outcome] using member
  | some mishap => exact .inl (by simpa [outcome] using member)

theorem Simulator.mem_sent_of_send {simulator : Simulator} {wire : Wire}
    {datagram other : Datagram}
    (member : other ∈ (simulator.send wire datagram).2.1.sent.toList) :
    other ∈ wire.sent.toList ∨ other = datagram := by
  have transmitted : ∀ twice,
      other ∈ (transmit wire datagram twice).1.sent.toList →
        other ∈ wire.sent.toList ∨ other = datagram := by
    intro twice found
    unfold transmit at found
    cases first : wire.send datagram with
    | mk after outcome =>
        have fromFirst : other ∈ after.sent.toList →
            other ∈ wire.sent.toList ∨ other = datagram := by
          intro inFirst
          have inSent : other ∈ (wire.send datagram).1.sent.toList := by
            rw [first]
            exact inFirst
          exact Wire.mem_sent_of_send inSent
        rw [first] at found
        cases outcome with
        | error mishap => exact fromFirst found
        | ok length =>
            cases twice with
            | false => exact fromFirst found
            | true =>
                rcases Wire.mem_sent_of_send found with inFirst | same
                · exact fromFirst inFirst
                · exact .inr same
  unfold send at member
  cases fate : simulator.fate datagram.bytes with
  | drop =>
      rw [fate] at member
      exact .inl member
  | send twice =>
      apply transmitted twice
      cases sent : transmit wire datagram twice with
      | mk after outcome =>
          simp only [fate, sent] at member
          cases outcome <;> exact member

theorem Node.of_afterSend {node after : Node} {message : Message}
    {mishap? : Option Mishap}
    (continued : node.afterSend message mishap? = (after, none)) :
    message.payload.isAck = true ∧ after = node ∨
      message.payload.isAck = false ∧ ∃ parked,
        node.retransmissions.enqueue (message.transmitted node.now) =
          (parked, .ok ()) ∧
        after = { node with retransmissions := parked } := by
  unfold afterSend at continued
  cases fatal : mishap?.filter (!·.isTransient) with
  | some mishap => simp [fatal] at continued
  | none =>
      cases ack : message.payload.isAck with
      | true =>
          simp only [fatal, ack, if_true, Prod.mk.injEq, and_true] at continued
          exact .inl ⟨rfl, continued.symm⟩
      | false =>
          cases enqueued : node.retransmissions.enqueue
              (message.transmitted node.now) with
          | mk parked outcome =>
              simp only [fatal, ack, Bool.false_eq_true, if_false, park,
                enqueued] at continued
              cases outcome with
              | error refused => simp at continued
              | ok _ =>
                  simp only [Prod.mk.injEq, and_true] at continued
                  exact .inr ⟨rfl, parked, rfl, continued.symm⟩

theorem Station.of_land {station after : Station} {flight : Flight}
    {next : Option Flight}
    (landed : station.land flight = (after, .sending next)) :
    next = none ∧
      (∃ mishap?, station.node.afterSend flight.message mishap? =
        (after.node, none)) ∧
      ∀ other ∈ after.wire.sent.toList,
        other ∈ station.wire.sent.toList ∨ other = flight.datagram := by
  have left : ∀ other ∈
      (station.simulator.send station.wire flight.datagram).2.1.sent.toList,
      other ∈ station.wire.sent.toList ∨ other = flight.datagram :=
    fun other member => Simulator.mem_sent_of_send member
  unfold land at landed
  dsimp only at landed
  generalize station.simulator.send station.wire flight.datagram = sent
    at landed left
  obtain ⟨simulator, wire, outcome⟩ := sent
  cases outcome with
  | ok length =>
      dsimp only at landed
      cases result : station.node.afterSend flight.message none with
      | mk node result? =>
          cases result? <;> simp only [result, Prod.mk.injEq, reduceCtorEq,
            and_false, LoopState.sending.injEq] at landed
          obtain ⟨rfl, rfl⟩ := landed
          exact ⟨rfl, ⟨none, result⟩, left⟩
  | error mishap =>
      dsimp only at landed
      cases result : station.node.afterSend flight.message (some mishap) with
      | mk node result? =>
          cases result? <;> simp only [result, Prod.mk.injEq, reduceCtorEq,
            and_false, LoopState.sending.injEq] at landed
          obtain ⟨rfl, rfl⟩ := landed
          exact ⟨rfl, ⟨some mishap, result⟩, left⟩

namespace Link

theorem senderMove_of_stepSender {link after : Link}
    {outcomes : List (Option Mishap)} {datagrams : List Datagram}
    (step : link.stepSender outcomes = some (after, datagrams)) :
    SenderMove link after datagrams := by
  unfold stepSender at step
  dsimp only at step
  split at step
  case h_2 => contradiction
  case h_1 station flight moved =>
      obtain ⟨rfl, rfl⟩ := Prod.mk.inj (Option.some.inj step)
      cases hand : link.flight with
      | none =>
          rw [hand] at moved
          simp only [Station.stepSender] at moved
          split at moved
          case h_1 => simp at moved
          case h_2 => contradiction
          case h_3 message rest taken =>
              obtain ⟨items, opened⟩ := Queue.of_dequeue taken
              split at moved
              case h_1 departure =>
                  simp only [Option.some.injEq, Prod.mk.injEq,
                    LoopState.sending.injEq] at moved
                  obtain ⟨rfl, rfl⟩ := moved
                  exact .abandon hand items opened departure rfl rfl rfl rfl
              case h_2 stamped datagram departure =>
                  simp only [Option.some.injEq, Prod.mk.injEq,
                    LoopState.sending.injEq] at moved
                  obtain ⟨rfl, rfl⟩ := moved
                  exact .depart hand items opened departure rfl rfl rfl rfl
      | some flying =>
          rw [hand] at moved
          simp only [Station.stepSender] at moved
          split at moved
          case isFalse => contradiction
          case isTrue due =>
              obtain ⟨rfl, ⟨mishap?, continued⟩, sent⟩ :=
                Station.of_land (Option.some.inj moved)
              have left : ∀ other ∈ station.wire.sent.toList,
                  other = flying.datagram := by
                intro other member
                rcases sent other member with old | same
                · simp [Wire.new] at old
                · exact same
              rcases Node.of_afterSend continued with
                ⟨ack, same⟩ | ⟨data, parked, enqueued, same⟩
              · exact .forget hand ack same rfl rfl left
              · exact .park hand data (Queue.toList_enqueue enqueued).1
                  (Queue.hasConsumer_of_enqueue enqueued) same rfl rfl left

theorem SenderMove.queuesOnly {link after : Link} {datagrams : List Datagram}
    (move : SenderMove link after datagrams) :
    Node.QueuesOnly link.node after.node := by
  cases move with
  | @abandon message rest _ _ opened _ node_eq =>
      have discounted := Node.queuesOnly_discountUnacked
        { link.node with sending := rest } message.payload
      rw [node_eq]
      exact ⟨discounted.node_eq, discounted.sendingOpen.trans opened,
        discounted.retransmissionsOpen⟩
  | depart _ _ opened _ node_eq =>
      rw [node_eq]
      exact ⟨rfl, opened, rfl⟩
  | forget _ _ node_eq =>
      rw [node_eq]
      exact ⟨rfl, rfl, rfl⟩
  | park _ _ _ opened node_eq =>
      rw [node_eq]
      exact ⟨rfl, rfl, opened⟩

/-! ## The retransmitter -/

/-- What a step of the retransmitter can do. -/
inductive RetransmitterMove (link after : Link) : Prop where
  /-- It takes a message whose recipient has seen it, and drops it. -/
  | settleNext {message : Message} {rest : Queue Message}
      (empty : link.held = none)
      (taken : link.node.retransmissions.toList = message :: rest.toList)
      (opened : rest.hasConsumer = link.node.retransmissions.hasConsumer)
      (seen : link.node.isAcknowledged message = true)
      (node_eq : after.node =
        { link.node with retransmissions := rest }.settle)
      (flight_eq : after.flight = link.flight) (held_eq : after.held = none)
  /-- It takes a message up. -/
  | hold {message : Message} {rest : Queue Message}
      (empty : link.held = none)
      (taken : link.node.retransmissions.toList = message :: rest.toList)
      (opened : rest.hasConsumer = link.node.retransmissions.hasConsumer)
      (unseen : link.node.isAcknowledged message = false)
      (node_eq : after.node = { link.node with retransmissions := rest })
      (flight_eq : after.flight = link.flight)
      (held_eq : after.held = some message)
  /-- The message it holds is due, and its recipient has seen it. -/
  | settleHeld {message : Message} (holding : link.held = some message)
      (seen : link.node.isAcknowledged message = true)
      (node_eq : after.node = link.node.settle)
      (flight_eq : after.flight = link.flight) (held_eq : after.held = none)
  /-- The message it holds is due and goes back to the sending queue. -/
  | requeue {message : Message} {filled : Queue Message}
      (holding : link.held = some message)
      (unseen : link.node.isAcknowledged message = false)
      (items : filled.toList = link.node.sending.toList ++ [message])
      (opened : filled.hasConsumer = link.node.sending.hasConsumer)
      (node_eq : after.node = { link.node with sending := filled })
      (flight_eq : after.flight = link.flight) (held_eq : after.held = none)

theorem retransmitterMove_of_stepRetransmitter {link after : Link}
    (step : link.stepRetransmitter = some after) :
    RetransmitterMove link after := by
  unfold stepRetransmitter at step
  split at step
  case h_2 => contradiction
  case h_1 station held moved =>
      obtain rfl := Option.some.inj step
      cases hand : link.held with
      | none =>
          rw [hand] at moved
          simp only [Station.stepRetransmitter] at moved
          split at moved
          case h_1 => simp at moved
          case h_2 => contradiction
          case h_3 message rest taken =>
              obtain ⟨items, opened⟩ := Queue.of_dequeue taken
              split at moved
              case isTrue seen =>
                  simp only [Option.some.injEq, Prod.mk.injEq,
                    LoopState.retransmitting.injEq] at moved
                  obtain ⟨rfl, rfl⟩ := moved
                  exact .settleNext hand items opened seen rfl rfl rfl
              case isFalse unseen =>
                  simp only [Option.some.injEq, Prod.mk.injEq,
                    LoopState.retransmitting.injEq] at moved
                  obtain ⟨rfl, rfl⟩ := moved
                  exact .hold hand items opened (Bool.not_eq_true _ ▸ unseen)
                    rfl rfl rfl
      | some message =>
          rw [hand] at moved
          simp only [Station.stepRetransmitter] at moved
          split at moved
          case h_1 => contradiction
          case h_2 => simp at moved
          case h_3 =>
              split at moved
              case isTrue seen =>
                  simp only [Option.some.injEq, Prod.mk.injEq,
                    LoopState.retransmitting.injEq] at moved
                  obtain ⟨rfl, rfl⟩ := moved
                  exact .settleHeld hand seen rfl rfl rfl
              case isFalse unseen =>
                  cases posted : link.station.node.sending.enqueue message with
                  | mk filled accepted =>
                      simp only [Node.post, posted] at moved
                      cases accepted with
                      | error refused => simp at moved
                      | ok _ =>
                          simp only [Option.some.injEq, Prod.mk.injEq,
                            LoopState.retransmitting.injEq] at moved
                          obtain ⟨rfl, rfl⟩ := moved
                          exact .requeue hand (Bool.not_eq_true _ ▸ unseen)
                            (Queue.toList_enqueue posted).1
                            (Queue.hasConsumer_of_enqueue posted) rfl rfl rfl

theorem RetransmitterMove.queuesOnly {link after : Link}
    (move : RetransmitterMove link after) :
    Node.QueuesOnly link.node after.node := by
  cases move with
  | settleNext _ _ opened _ node_eq =>
      rw [node_eq]
      exact ⟨rfl, rfl, opened⟩
  | hold _ _ opened _ node_eq =>
      rw [node_eq]
      exact ⟨rfl, rfl, opened⟩
  | settleHeld _ _ node_eq =>
      rw [node_eq]
      exact ⟨rfl, rfl, rfl⟩
  | requeue _ _ _ opened node_eq =>
      rw [node_eq]
      exact ⟨rfl, opened, rfl⟩

end Link

end CausalCast
