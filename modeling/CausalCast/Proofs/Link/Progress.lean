import CausalCast.Proofs.Link.Exchanges

/-!
# What a link can always do

A link that can send never gets stuck.  Whatever waits in its queues can be
brought out again: the loops, and enough time, lead to a state in which nothing
is left but data that was sent just now and whose recipient is not known to
have seen it.
-/

namespace CausalCast

namespace Queue

variable {α : Type} {queue : Queue α} {item : α}

theorem exists_dequeue {rest : List α} (items : queue.toList = item :: rest) :
    ∃ remaining, queue.dequeue false = .item item remaining ∧
      remaining.toList = rest := by
  cases taken : queue.tryDequeue with
  | none =>
      have empty : queue.items.pop? = none := by
        unfold tryDequeue take? at taken
        cases popped : queue.items.pop? with
        | none => rfl
        | some _ => simp [popped] at taken
      have nothing := Fifo.pop?_eq_none_iff.mp empty
      rw [toList, nothing] at items
      contradiction
  | some pair =>
      obtain ⟨first, remaining⟩ := pair
      have order := (toList_of_tryDequeue taken).1
      rw [items] at order
      obtain ⟨rfl, rfl⟩ := List.cons.inj order
      exact ⟨remaining, by simp [dequeue, taken], rfl⟩

theorem exists_enqueue (opened : queue.hasConsumer = true) (item : α) :
    ∃ filled, queue.enqueue item = (filled, .ok ()) := by
  simp [enqueue, handOver?, announce, opened]

end Queue

/-- A simulator that neither loses nor repeats a datagram. -/
def Simulator.Faultless (simulator : Simulator) : Prop :=
  simulator.model = {}

namespace Simulator

variable {simulator : Simulator}

@[simp] theorem model_observe (simulator : Simulator) (bytes : List UInt8) :
    (simulator.observe bytes).model = simulator.model := by
  unfold observe
  split <;> rfl

theorem model_send (simulator : Simulator) (wire : Wire) (datagram : Datagram) :
    (simulator.send wire datagram).1.model = simulator.model := by
  unfold send
  dsimp only
  split
  · simp
  · split <;> simp

theorem Faultless.send (faultless : simulator.Faultless)
    (datagram : Datagram) :
    (simulator.send Wire.new datagram).2.2 = .ok datagram.bytes.length ∧
      (simulator.send Wire.new datagram).2.1.sent.toList = [datagram] := by
  have fate : simulator.fate datagram.bytes = .send false := by
    unfold Faultless at faultless
    simp [Simulator.fate, faultless]
  simp [Simulator.send, fate, transmit, Wire.send, Wire.outcome, Wire.new]

end Simulator

namespace Station

theorem model_land (station : Station) (flight : Flight) :
    (station.land flight).1.simulator.model = station.simulator.model := by
  unfold land
  dsimp only
  split <;> exact Simulator.model_send _ _ _

theorem model_stepSender {station after : Station} {flight : Option Flight}
    {state : LoopState}
    (step : station.stepSender flight = some (after, state)) :
    after.simulator.model = station.simulator.model := by
  cases flight with
  | none =>
      simp only [stepSender] at step
      split at step
      case h_1 =>
          obtain ⟨rfl, _⟩ := Prod.mk.inj (Option.some.inj step)
          rfl
      case h_2 => contradiction
      case h_3 =>
          split at step
          all_goals
            obtain ⟨rfl, _⟩ := Prod.mk.inj (Option.some.inj step)
            rfl
  | some flying =>
      simp only [stepSender] at step
      split at step
      case isFalse => contradiction
      case isTrue =>
          have landed := model_land station flying
          rw [Option.some.inj step] at landed
          exact landed

theorem model_stepRetransmitter {station after : Station}
    {held : Option Message} {state : LoopState}
    (step : station.stepRetransmitter held = some (after, state)) :
    after.simulator.model = station.simulator.model := by
  cases held with
  | none =>
      simp only [stepRetransmitter] at step
      split at step
      case h_1 =>
          obtain ⟨rfl, _⟩ := Prod.mk.inj (Option.some.inj step)
          rfl
      case h_2 => contradiction
      case h_3 =>
          split at step
          all_goals
            obtain ⟨rfl, _⟩ := Prod.mk.inj (Option.some.inj step)
            rfl
  | some message =>
      simp only [stepRetransmitter] at step
      split at step
      case h_1 => contradiction
      case h_2 =>
          obtain ⟨rfl, _⟩ := Prod.mk.inj (Option.some.inj step)
          rfl
      case h_3 =>
          split at step
          case isTrue =>
              obtain ⟨rfl, _⟩ := Prod.mk.inj (Option.some.inj step)
              rfl
          case isFalse =>
              split at step
              all_goals
                obtain ⟨rfl, _⟩ := Prod.mk.inj (Option.some.inj step)
                rfl

end Station

namespace Node.QueuesOnly

theorem refl (node : Node) : QueuesOnly node node :=
  ⟨rfl, rfl, rfl⟩

theorem trans {first second third : Node} (left : QueuesOnly first second)
    (right : QueuesOnly second third) : QueuesOnly first third := by
  refine ⟨?_, right.sendingOpen.trans left.sendingOpen,
    right.retransmissionsOpen.trans left.retransmissionsOpen⟩
  rw [right.node_eq, left.node_eq]

theorem departure_eq {before after : Node} (only : QueuesOnly before after)
    (message : Message) : after.departure message = before.departure message := by
  rw [departure, departure, only.membership_eq, only.me_eq]

theorem isAcknowledged_eq {before after : Node}
    (only : QueuesOnly before after) (message : Message) :
    after.isAcknowledged message = before.isAcknowledged message := by
  rw [isAcknowledged, isAcknowledged, only.tracker_eq]

end Node.QueuesOnly

theorem Node.exists_afterSend {node : Node}
    (opened : node.retransmissions.hasConsumer = true) (message : Message) :
    ∃ after, node.afterSend message none = (after, none) := by
  cases ack : message.payload.isAck with
  | true => exact ⟨node, by simp [afterSend, ack]⟩
  | false =>
      obtain ⟨filled, enqueued⟩ :=
        Queue.exists_enqueue opened (message.transmitted node.now)
      exact ⟨{ node with retransmissions := filled },
        by simp [afterSend, ack, park, enqueued]⟩

theorem Message.Alike.isAcknowledged_eq {node : Node} {left right : Message}
    (alike : left.Alike right) :
    node.isAcknowledged left = node.isAcknowledged right := by
  have identity : left.payload.message = right.payload.message := by
    have originals := congrArg Payload.message alike.original_eq
    exact originals
  rw [Node.isAcknowledged, Node.isAcknowledged, alike.recipient_eq, identity]

/-- Among some datagrams is one that brings a message from a node to its
recipient. -/
def Node.Sent (node : Node) (message : Message) (sent : List Datagram) : Prop :=
  ∃ address, node.membership.address? message.recipient = some address ∧
    (⟨address, (message.payload.stamped node.me).toBytes⟩ : Datagram) ∈ sent

theorem Node.sent_of_leaving {node : Node} {message stamped : Message}
    {datagram : Datagram}
    (departure : node.departure message = .leaving stamped datagram) :
    node.Sent message [datagram] := by
  unfold Node.departure at departure
  split at departure
  case h_1 => contradiction
  case h_2 address known =>
      dsimp only at departure
      split at departure
      case h_1 => contradiction
      case h_2 bytes encoded =>
          obtain ⟨_, rfl⟩ := Departure.leaving.inj departure
          refine ⟨address, known, ?_⟩
          rw [Payload.toBytes_of_encode encoded]
          exact List.mem_singleton.mpr rfl

theorem Node.Sent.congr {node : Node} {message other : Message}
    {sent : List Datagram} (found : node.Sent message sent)
    (recipient : other.recipient = message.recipient)
    (payload : other.payload.stamped node.me =
      message.payload.stamped node.me) : node.Sent other sent := by
  unfold Sent
  rw [recipient, payload]
  exact found

theorem Node.Sent.mono {node : Node} {message : Message}
    {sent more : List Datagram} (found : node.Sent message sent)
    (subset : sent ⊆ more) : node.Sent message more := by
  obtain ⟨address, known, listed⟩ := found
  exact ⟨address, known, subset listed⟩

theorem Node.QueuesOnly.sent_iff {before after : Node}
    (only : QueuesOnly before after) {message : Message}
    {sent : List Datagram} :
    after.Sent message sent ↔ before.Sent message sent := by
  rw [Node.Sent, Node.Sent, only.membership_eq, only.me_eq]

namespace Link

/-! ## Courses -/

/-- What the loops of a link and the time can make of it, with the datagrams
that leave on the way. -/
inductive Course (origin : Link) : Link → List Datagram → Prop where
  | start : Course origin origin []
  | sender {link after : Link} {sent datagrams : List Datagram}
      (outcomes : List (Option Mishap)) :
      Course origin link sent →
      link.stepSender outcomes = some (after, datagrams) →
      Course origin after (sent ++ datagrams)
  | retransmitter {link after : Link} {sent : List Datagram} :
      Course origin link sent →
      link.stepRetransmitter = some after → Course origin after sent
  | tick {link : Link} {sent : List Datagram} :
      Course origin link sent → Course origin link.tick sent

theorem Course.trans {first second third : Link} {left right : List Datagram}
    (before : Course first second left) (after : Course second third right) :
    Course first third (left ++ right) := by
  induction after with
  | start => simpa using before
  | sender outcomes _ step induction =>
      rw [← List.append_assoc]
      exact induction.sender outcomes step
  | retransmitter _ step induction => exact induction.retransmitter step
  | tick _ induction => exact induction.tick

theorem Course.queuesOnly {link after : Link} {sent : List Datagram}
    (course : Course link after sent) :
    Node.QueuesOnly link.node after.node := by
  induction course with
  | start => exact .refl _
  | sender _ _ step induction =>
      exact induction.trans (senderMove_of_stepSender step).queuesOnly
  | retransmitter _ step induction =>
      exact induction.trans (retransmitterMove_of_stepRetransmitter step).queuesOnly
  | tick _ induction => exact induction.trans (Node.queuesOnly_tick _)

theorem model_stepSender {link after : Link} {outcomes : List (Option Mishap)}
    {datagrams : List Datagram}
    (step : link.stepSender outcomes = some (after, datagrams)) :
    after.station.simulator.model = link.station.simulator.model := by
  unfold stepSender at step
  dsimp only at step
  split at step
  case h_2 => contradiction
  case h_1 station flight moved =>
      obtain ⟨rfl, _⟩ := Prod.mk.inj (Option.some.inj step)
      have kept := Station.model_stepSender moved
      exact kept

theorem model_stepRetransmitter {link after : Link}
    (step : link.stepRetransmitter = some after) :
    after.station.simulator.model = link.station.simulator.model := by
  unfold stepRetransmitter at step
  split at step
  case h_2 => contradiction
  case h_1 station held moved =>
      obtain rfl := Option.some.inj step
      have kept := Station.model_stepRetransmitter moved
      exact kept

theorem Course.faultless {link after : Link} {sent : List Datagram}
    (course : Course link after sent)
    (faultless : link.station.simulator.Faultless) :
    after.station.simulator.Faultless := by
  induction course with
  | start => exact faultless
  | sender _ _ step induction => exact (model_stepSender step).trans induction
  | retransmitter _ step induction =>
      exact (model_stepRetransmitter step).trans induction
  | tick _ induction => exact induction

/-! ## Steps that are always possible -/

section Steps

variable {link : Link} {message : Message}

theorem exists_stepSender_of_sending (running : link.node.stopped = false)
    (empty : link.flight = none) {rest : List Message}
    (items : link.node.sending.toList = message :: rest) :
    ∃ after, link.stepSender [] = some (after, []) := by
  obtain ⟨remaining, taken, _⟩ := Queue.exists_dequeue items
  have dequeued : link.station.node.sending.dequeue
      link.station.node.stopped = .item message remaining := by
    have still : link.station.node.stopped = false := running
    rw [still]
    exact taken
  cases departure : { link.station.node with
      sending := remaining }.departure message <;>
    simp [stepSender, Station.stepSender, empty, dequeued, departure, Wire.new]

theorem exists_stepSender_of_flying
    (opened : link.node.retransmissions.hasConsumer = true)
    (faultless : link.station.simulator.Faultless) {flight : Flight}
    (flying : link.flight = some flight)
    (due : flight.arrivesAt ≤ link.node.now) :
    ∃ after, link.stepSender [] = some (after, [flight.datagram]) := by
  obtain ⟨node, continued⟩ := Node.exists_afterSend opened flight.message
  obtain ⟨accepted, left⟩ := faultless.send flight.datagram
  have dueThen : flight.arrivesAt ≤ link.station.node.now := due
  have wire : ({ Wire.new with outcomes := [] } : Wire) = Wire.new := rfl
  simp only [stepSender, wire, Station.stepSender, flying, dueThen, if_true,
    Station.land]
  generalize link.station.simulator.send Wire.new flight.datagram = sent
    at accepted left ⊢
  obtain ⟨simulator, after, outcome⟩ := sent
  have continuedThen : link.station.node.afterSend flight.message none =
    (node, none) := continued
  simp only at accepted left
  simp [accepted, left, continuedThen]

theorem exists_stepRetransmitter_of_waiting
    (running : link.node.stopped = false) (empty : link.held = none)
    {rest : List Message}
    (items : link.node.retransmissions.toList = message :: rest) :
    ∃ after, link.stepRetransmitter = some after := by
  obtain ⟨remaining, taken, _⟩ := Queue.exists_dequeue items
  have dequeued : link.station.node.retransmissions.dequeue
      link.station.node.stopped = .item message remaining := by
    have still : link.station.node.stopped = false := running
    rw [still]
    exact taken
  by_cases seen : { link.station.node with
      retransmissions := remaining }.isAcknowledged message = true <;>
    simp [stepRetransmitter, Station.stepRetransmitter, empty, dequeued, seen]

theorem exists_stepRetransmitter_of_held
    (running : link.node.stopped = false)
    (opened : link.node.sending.hasConsumer = true)
    (holding : link.held = some message)
    (due : message.sentAt + link.node.settings.retransmissionOffset ≤
      link.node.now) :
    ∃ after, link.stepRetransmitter = some after := by
  obtain ⟨filled, enqueued⟩ := Queue.exists_enqueue opened message
  have polled : link.station.node.timer.poll? message.sentAt
      link.station.node.now link.station.node.stopped = some true := by
    have still : link.station.node.stopped = false := running
    have dueThen : link.station.node.timer.isDue message.sentAt
        link.station.node.now = true := by
      exact decide_eq_true due
    simp [RetransmitTimer.poll?, still, dueThen]
  have posted : link.station.node.post message =
      ({ link.station.node with sending := filled }, .ok ()) := by
    have accepted : link.station.node.sending.enqueue message =
      (filled, .ok ()) := enqueued
    simp [Node.post, accepted]
  by_cases seen : link.station.node.isAcknowledged message = true <;>
    simp [stepRetransmitter, Station.stepRetransmitter, holding, polled, seen,
      posted]

end Steps

/-! ## Waiting -/

/-- The link some milliseconds later, when nothing else has happened. -/
def later (link : Link) : Nat → Link
  | 0 => link
  | milliseconds + 1 => (link.later milliseconds).tick

theorem course_later (link : Link) (milliseconds : Nat) :
    Course link (link.later milliseconds) [] := by
  induction milliseconds with
  | zero => exact .start
  | succ milliseconds induction => exact induction.tick

theorem later_eq (link : Link) (milliseconds : Nat) :
    link.later milliseconds = link.withNode
      { link.node with now := link.node.now + milliseconds } := by
  induction milliseconds with
  | zero => rfl
  | succ milliseconds induction =>
      rw [later, induction]
      rfl

/-! ## Sending everything -/

theorem exists_landed {link : Link} (proper : link.node.Proper)
    (faultless : link.station.simulator.Faultless) {flight : Flight}
    (flying : link.flight = some flight) :
    ∃ after, Course link after [flight.datagram] ∧ after.flight = none ∧
      after.held = link.held ∧ after.node.sending = link.node.sending ∧
      ∀ message ∈ after.node.retransmissions.toList,
        message ∈ link.node.retransmissions.toList ∨
          message.payload = flight.message.payload ∧
            message.recipient = flight.message.recipient := by
  have waited := link.course_later flight.arrivesAt
  have ready := link.later_eq flight.arrivesAt
  generalize link.later flight.arrivesAt = arrived at waited ready
  have still : arrived.flight = some flight := by
    rw [ready]
    exact flying
  have due : flight.arrivesAt ≤ arrived.node.now := by
    rw [ready]
    exact Nat.le_add_left _ _
  have opened := (waited.queuesOnly.proper proper).retransmissionsOpen
  obtain ⟨after, step⟩ := exists_stepSender_of_flying opened
    (waited.faultless faultless) still due
  have course := waited.sender [] step
  rw [List.nil_append] at course
  refine ⟨after, course, ?_⟩
  cases senderMove_of_stepSender step with
  | abandon empty =>
      rw [still] at empty
      contradiction
  | depart empty =>
      rw [still] at empty
      contradiction
  | forget _ _ node_eq flight_eq held_eq =>
      refine ⟨flight_eq, ?_, ?_, ?_⟩
      · rw [held_eq, ready]
        rfl
      · rw [node_eq, ready]
        rfl
      · intro message member
        rw [node_eq, ready] at member
        exact .inl member
  | @park landed parked landing _ items _ node_eq flight_eq held_eq =>
      rw [still] at landing
      obtain rfl := Option.some.inj landing
      refine ⟨flight_eq, ?_, ?_, ?_⟩
      · rw [held_eq, ready]
        rfl
      · rw [node_eq, ready]
        rfl
      · intro message member
        rw [node_eq] at member
        simp only [items, List.mem_append, List.mem_singleton] at member
        rcases member with old | rfl
        · rw [ready] at old
          exact .inl old
        · exact .inr ⟨rfl, rfl⟩

/-- Messages were taken from the sending queue: each was sent, unless there is
no way to its recipient, and perhaps parked. -/
structure Drained (link after : Link) (sent : List Datagram) : Prop where
  course : Course link after sent
  held_eq : after.held = link.held
  subset : after.node.sending.toList ⊆ link.node.sending.toList
  gone : ∀ message ∈ link.node.sending.toList,
    message ∈ after.node.sending.toList ∨
      link.node.departure message = .abandoned ∨ link.node.Sent message sent
  parked : ∀ other ∈ after.node.retransmissions.toList,
    other ∈ link.node.retransmissions.toList ∨
      ∃ message ∈ link.node.sending.toList,
        other.Alike message ∧ link.node.Sent other sent

theorem Drained.refl (link : Link) : Drained link link [] :=
  ⟨.start, rfl, List.Subset.refl _, fun _ queued => .inl queued,
    fun _ waiting => .inl waiting⟩

theorem Drained.trans {first second third : Link} {left right : List Datagram}
    (before : Drained first second left) (after : Drained second third right) :
    Drained first third (left ++ right) := by
  have only := before.course.queuesOnly
  refine ⟨before.course.trans after.course, after.held_eq.trans before.held_eq,
    List.Subset.trans after.subset before.subset, ?_, ?_⟩
  · intro message queued
    rcases before.gone message queued with left | abandoned | found
    · rcases after.gone message left with last | abandoned | found
      · exact .inl last
      · rw [only.departure_eq] at abandoned
        exact .inr (.inl abandoned)
      · exact .inr (.inr ((only.sent_iff.mp found).mono
          (List.subset_append_right _ _)))
    · exact .inr (.inl abandoned)
    · exact .inr (.inr (found.mono (List.subset_append_left _ _)))
  · intro other waiting
    rcases after.parked other waiting with old | ⟨message, queued, alike, found⟩
    · rcases before.parked other old with older | ⟨message, queued, alike, found⟩
      · exact .inl older
      · exact .inr ⟨message, queued, alike,
          found.mono (List.subset_append_left _ _)⟩
    · exact .inr ⟨message, before.subset queued, alike,
        (only.sent_iff.mp found).mono (List.subset_append_right _ _)⟩

theorem exists_drained_next {link : Link} (proper : link.node.Proper)
    (faultless : link.station.simulator.Faultless)
    (empty : link.flight = none) {message : Message} {rest : List Message}
    (items : link.node.sending.toList = message :: rest) :
    ∃ after sent, Drained link after sent ∧ after.flight = none ∧
      after.node.sending.toList = rest := by
  obtain ⟨after, step⟩ :=
    exists_stepSender_of_sending proper.running empty items
  have course := Course.start.sender [] step
  cases senderMove_of_stepSender step with
  | @abandon dropped remaining _ taken _ departure node_eq flight_eq held_eq =>
      rw [items] at taken
      obtain ⟨rfl, rfl⟩ := List.cons.inj taken
      have left : after.node.sending.toList = remaining.toList := by
        rw [node_eq, Node.sending_discountUnacked]
      refine ⟨after, [], ⟨course, held_eq, ?_, ?_, ?_⟩, flight_eq, left⟩
      · rw [left, items]
        exact List.subset_cons_self _ _
      · intro other queued
        rw [items] at queued
        rw [left]
        rcases List.mem_cons.mp queued with rfl | inRest
        · exact .inr (.inl departure)
        · exact .inl inRest
      · intro other waiting
        rw [node_eq, Node.retransmissions_discountUnacked] at waiting
        exact .inl waiting
  | @depart taken stamped remaining datagram arrivesAt _ order _ departure
      node_eq flight_eq held_eq =>
      rw [items] at order
      obtain ⟨rfl, rfl⟩ := List.cons.inj order
      have only := course.queuesOnly
      obtain ⟨final, landing, finalFlight, finalHeld, finalSending,
        parked⟩ := exists_landed (only.proper proper)
          (course.faultless faultless) flight_eq
      have sent := Node.sent_of_leaving departure
      have same := Node.stamped_of_leaving departure
      have left : final.node.sending.toList = remaining.toList := by
        rw [finalSending, node_eq]
      refine ⟨final, [datagram], ⟨course.trans landing,
        finalHeld.trans held_eq, ?_, ?_, ?_⟩, finalFlight, left⟩
      · rw [left, items]
        exact List.subset_cons_self _ _
      · intro other queued
        rw [items] at queued
        rw [left]
        rcases List.mem_cons.mp queued with rfl | inRest
        · exact .inr (.inr sent)
        · exact .inl inRest
      · intro other waiting
        rcases parked other waiting with old | ⟨payload, recipient⟩
        · rw [node_eq] at old
          exact .inl old
        · right
          rw [same] at payload recipient
          have copied : other.payload.stamped link.node.me =
              message.payload.stamped link.node.me := by
            rw [payload]
            rfl
          have kind : other.isData = message.isData := by
            rw [Message.isData, payload]
            rfl
          refine ⟨message, by rw [items]; exact List.mem_cons_self,
            ⟨recipient, ?_, kind⟩, sent.congr recipient copied⟩
          rw [payload]
          rfl
  | forget flying =>
      rw [empty] at flying
      contradiction
  | park flying =>
      rw [empty] at flying
      contradiction

/-- The sending queue can be emptied. -/
theorem exists_drained {link : Link} (proper : link.node.Proper)
    (faultless : link.station.simulator.Faultless)
    (empty : link.flight = none) :
    ∃ after sent, Drained link after sent ∧ after.flight = none ∧
      after.node.sending.toList = [] := by
  generalize items : link.node.sending.toList = queued
  induction queued generalizing link with
  | nil => exact ⟨link, [], .refl link, empty, items⟩
  | cons message rest induction =>
      obtain ⟨middle, first, taken, middleEmpty, remaining⟩ :=
        exists_drained_next proper faultless empty items
      have properThen := taken.course.queuesOnly.proper proper
      obtain ⟨after, second, others, flight, nothing⟩ := induction properThen
        (taken.course.faultless faultless) middleEmpty remaining
      exact ⟨after, first ++ second, taken.trans others, flight, nothing⟩

/-! ## Taking up what waits -/

/-- Messages were taken up by the retransmitter: what it has put back into the
sending queue is not known to have been seen. -/
structure TakenUp (link after : Link) : Prop where
  course : Course link after []
  flight_eq : after.flight = link.flight
  queued : ∀ other ∈ after.node.sending.toList,
    other ∈ link.node.sending.toList ∨ link.node.isAcknowledged other = false

theorem TakenUp.refl (link : Link) : TakenUp link link :=
  ⟨.start, rfl, fun _ queued => .inl queued⟩

theorem TakenUp.trans {first second third : Link}
    (before : TakenUp first second) (after : TakenUp second third) :
    TakenUp first third := by
  refine ⟨before.course.trans after.course,
    after.flight_eq.trans before.flight_eq, ?_⟩
  intro other queued
  rcases after.queued other queued with old | unseen
  · exact before.queued other old
  · rw [before.course.queuesOnly.isAcknowledged_eq] at unseen
    exact .inr unseen

theorem exists_released {link : Link} (proper : link.node.Proper)
    {message : Message} (holding : link.held = some message) :
    ∃ after, TakenUp link after ∧ after.held = none ∧
      after.node.retransmissions = link.node.retransmissions := by
  have waited := link.course_later
    (message.sentAt + link.node.settings.retransmissionOffset)
  have ready := link.later_eq
    (message.sentAt + link.node.settings.retransmissionOffset)
  generalize link.later
    (message.sentAt + link.node.settings.retransmissionOffset) = arrived
      at waited ready
  have still : arrived.held = some message := by
    rw [ready]
    exact holding
  have due : message.sentAt + arrived.node.settings.retransmissionOffset ≤
      arrived.node.now := by
    rw [ready]
    exact Nat.le_add_left _ _
  have only := waited.queuesOnly
  obtain ⟨after, step⟩ := exists_stepRetransmitter_of_held
    (only.proper proper).running (only.proper proper).sendingOpen still due
  have course := waited.retransmitter step
  cases retransmitterMove_of_stepRetransmitter step with
  | settleNext empty =>
      rw [still] at empty
      contradiction
  | hold empty =>
      rw [still] at empty
      contradiction
  | settleHeld _ _ node_eq flight_eq held_eq =>
      refine ⟨after, ⟨course, ?_, ?_⟩, held_eq, ?_⟩
      · rw [flight_eq, ready]
        rfl
      · intro other member
        rw [node_eq, ready] at member
        exact .inl member
      · rw [node_eq, ready]
        rfl
  | @requeue released filled releasing unseen items _ node_eq flight_eq
      held_eq =>
      rw [still] at releasing
      obtain rfl := Option.some.inj releasing
      refine ⟨after, ⟨course, ?_, ?_⟩, held_eq, ?_⟩
      · rw [flight_eq, ready]
        rfl
      · intro other member
        rw [node_eq] at member
        simp only [items, List.mem_append, List.mem_singleton] at member
        rcases member with old | rfl
        · rw [ready] at old
          exact .inl old
        · rw [only.isAcknowledged_eq] at unseen
          exact .inr unseen
      · rw [node_eq, ready]
        rfl

theorem exists_takenUp_next {link : Link} (proper : link.node.Proper)
    (empty : link.held = none) {message : Message} {rest : List Message}
    (items : link.node.retransmissions.toList = message :: rest) :
    ∃ after, TakenUp link after ∧ after.held = none ∧
      after.node.retransmissions.toList = rest := by
  obtain ⟨after, step⟩ :=
    exists_stepRetransmitter_of_waiting proper.running empty items
  have course := Course.start.retransmitter step
  cases retransmitterMove_of_stepRetransmitter step with
  | @settleNext settled remaining _ taken _ _ node_eq flight_eq held_eq =>
      rw [items] at taken
      obtain ⟨rfl, rfl⟩ := List.cons.inj taken
      refine ⟨after, ⟨course, flight_eq, ?_⟩, held_eq, ?_⟩
      · intro other member
        rw [node_eq] at member
        exact .inl member
      · rw [node_eq]
        rfl
  | @hold taken remaining _ order _ _ node_eq flight_eq held_eq =>
      rw [items] at order
      obtain ⟨rfl, rfl⟩ := List.cons.inj order
      obtain ⟨final, release, finalHeld, waiting⟩ :=
        exists_released (course.queuesOnly.proper proper) held_eq
      have first : TakenUp link after := by
        refine ⟨course, flight_eq, ?_⟩
        intro other member
        rw [node_eq] at member
        exact .inl member
      refine ⟨final, first.trans release, finalHeld, ?_⟩
      rw [waiting, node_eq]
  | settleHeld holding =>
      rw [empty] at holding
      contradiction
  | requeue holding =>
      rw [empty] at holding
      contradiction

theorem exists_takenUp_all {link : Link} (proper : link.node.Proper)
    (empty : link.held = none) :
    ∃ after, TakenUp link after ∧ after.held = none ∧
      after.node.retransmissions.toList = [] := by
  generalize items : link.node.retransmissions.toList = waiting
  induction waiting generalizing link with
  | nil => exact ⟨link, .refl link, empty, items⟩
  | cons message rest induction =>
      obtain ⟨middle, first, middleEmpty, remaining⟩ :=
        exists_takenUp_next proper empty items
      have properThen := first.course.queuesOnly.proper proper
      obtain ⟨after, others, held, nothing⟩ :=
        induction properThen middleEmpty remaining
      exact ⟨after, first.trans others, held, nothing⟩

/-- All that the retransmitter holds or has waiting can be taken up. -/
theorem exists_takenUp {link : Link} (proper : link.node.Proper) :
    ∃ after, TakenUp link after ∧ after.held = none ∧
      after.node.retransmissions.toList = [] := by
  cases holding : link.held with
  | none => exact exists_takenUp_all proper holding
  | some message =>
      obtain ⟨middle, first, middleEmpty, _⟩ :=
        exists_released proper holding
      have properThen := first.course.queuesOnly.proper proper
      obtain ⟨after, others, held, nothing⟩ :=
        exists_takenUp_all properThen middleEmpty
      exact ⟨after, first.trans others, held, nothing⟩

/-! ## Flushing -/

/-- After a link was flushed nothing is left in it but data that was sent on
the way and whose recipient is not known to have seen it. -/
structure Flushed (link after : Link) (sent : List Datagram) : Prop where
  course : Course link after sent
  flight_eq : after.flight = none
  held_eq : after.held = none
  sending_eq : after.node.sending.toList = []
  gone : ∀ message ∈ link.node.sending.toList,
    link.node.departure message = .abandoned ∨ link.node.Sent message sent
  waiting : ∀ message ∈ after.node.retransmissions.toList,
    link.node.isAcknowledged message = false ∧ link.node.Sent message sent

theorem exists_emptyHanded {link : Link} (proper : link.node.Proper)
    (faultless : link.station.simulator.Faultless) :
    ∃ after sent, Course link after sent ∧ after.flight = none ∧
      after.node.sending = link.node.sending := by
  cases flying : link.flight with
  | none => exact ⟨link, [], .start, flying, rfl⟩
  | some flight =>
      obtain ⟨after, course, flight_eq, _, sending, _⟩ :=
        exists_landed proper faultless flying
      exact ⟨after, _, course, flight_eq, sending⟩

/-- Every link over a faultless wire can be flushed.  The sending queue is
emptied twice: what is left after the first time is taken up again, so that what
is known to have arrived is settled. -/
theorem exists_flushed {link : Link} (proper : link.node.Proper)
    (faultless : link.station.simulator.Faultless) :
    ∃ after sent, Flushed link after sent := by
  obtain ⟨landed, first, landing, landedEmpty, sending⟩ :=
    exists_emptyHanded proper faultless
  have landedOnly := landing.queuesOnly
  obtain ⟨drained, second, draining, drainedEmpty, nothing⟩ :=
    exists_drained (landedOnly.proper proper) (landing.faultless faultless)
      landedEmpty
  have drainedCourse := landing.trans draining.course
  have drainedOnly := drainedCourse.queuesOnly
  obtain ⟨collected, collecting, collectedFree, noneLeft⟩ :=
    exists_takenUp (drainedOnly.proper proper)
  have collectedCourse := drainedCourse.trans collecting.course
  have collectedOnly := collectedCourse.queuesOnly
  obtain ⟨after, third, again, flight_eq, sending_eq⟩ :=
    exists_drained (collectedOnly.proper proper)
      (collectedCourse.faultless faultless)
      (collecting.flight_eq.trans drainedEmpty)
  refine ⟨after, _, collectedCourse.trans again.course, flight_eq,
    again.held_eq.trans collectedFree, sending_eq, ?_, ?_⟩
  · intro message member
    rw [← sending] at member
    rcases draining.gone message member with left | abandoned | found
    · rw [nothing] at left
      contradiction
    · rw [landedOnly.departure_eq] at abandoned
      exact .inl abandoned
    · right
      apply (landedOnly.sent_iff.mp found).mono
      intro datagram left
      simp [left]
  · intro message member
    rcases again.parked message member with
      old | ⟨origin, queued, alike, found⟩
    · rw [noneLeft] at old
      contradiction
    · rcases collecting.queued origin queued with old | unknown
      · rw [nothing] at old
        contradiction
      · constructor
        · rw [alike.isAcknowledged_eq, ← drainedOnly.isAcknowledged_eq]
          exact unknown
        · apply (collectedOnly.sent_iff.mp found).mono
          exact List.subset_append_right _ _

end Link

end CausalCast
