import CausalCast.Proofs.Link.Endings
import CausalCast.Proofs.Link.Progress
import Mathlib.Logic.Relation

/-!
# What the sender makes of its queue

Here the sender of a station is alone at work, over any transport, until it is
stopped or the transport fails for good.  What it does then is a plain function
of the content of its queue: each message that has an address and fits in a
datagram is handed to the transport once and in order, and data is parked
afterwards.  A message that cannot be sent leaves no trace but the count of
data.  The messages that the sender does not take stay in the queue while it is
at work.  When it ends it gives up its end of the queue, and they are lost.

Sends take time and have outcomes, so the run is followed step by step; the
sends that were ordered are noted down as calls.
-/

namespace CausalCast

namespace Queue

variable {α : Type} {queue : Queue α} {stopped : Bool}

theorem toList_eq_nil_of_tryDequeue (nothing : queue.tryDequeue = none) :
    queue.toList = [] := by
  unfold tryDequeue take? at nothing
  cases popped : queue.items.pop? with
  | none => exact Fifo.pop?_eq_none_iff.mp popped
  | some pair => simp [popped] at nothing

theorem depth_of_dequeue {item : α} {rest : Queue α}
    (taken : queue.dequeue stopped = .item item rest) :
    rest.depth = queue.depth - 1 := by
  unfold dequeue at taken
  split at taken
  · contradiction
  · split at taken
    case h_1 found =>
        obtain ⟨rfl, rfl⟩ := Dequeued.item.inj taken
        exact (toList_of_tryDequeue found).2
    case h_2 => split at taken <;> contradiction

theorem of_dequeue_ended (ended : queue.dequeue stopped = .ended) :
    stopped = true ∨ queue.toList = [] ∧ queue.producers = 0 := by
  unfold dequeue at ended
  split at ended
  case isTrue stop => exact .inl stop
  case isFalse =>
      split at ended
      case h_1 => contradiction
      case h_2 nothing =>
          split at ended
          case isTrue none =>
              exact .inr ⟨toList_eq_nil_of_tryDequeue nothing, none⟩
          case isFalse => contradiction

theorem of_dequeue_pending (pending : queue.dequeue stopped = .pending) :
    queue.toList = [] := by
  unfold dequeue at pending
  split at pending
  case isTrue => contradiction
  case isFalse =>
      split at pending
      case h_1 => contradiction
      case h_2 nothing => exact toList_eq_nil_of_tryDequeue nothing

end Queue

/-! ## What goes out for a message -/

namespace Node

/-- The message as it goes out, and its datagram; nothing if there is no
address for it or it does not fit in a datagram. -/
def outgoing? (node : Node) (message : Message) :
    Option (Message × Datagram) :=
  match node.membership.address? message.recipient with
  | none => none
  | some address =>
      let payload := message.payload.stamped node.me
      if payload.encodedLength ≤ Payload.maxDatagram then
        some ({ message with payload := payload }, ⟨address, payload.toBytes⟩)
      else none

/-- Whether a message is data that cannot be sent. -/
def skipsData (node : Node) (message : Message) : Bool :=
  message.isData && (node.outgoing? message).isNone

theorem departure_eq (node : Node) (message : Message) :
    node.departure message =
      match node.outgoing? message with
      | none => .abandoned
      | some (stamped, datagram) => .leaving stamped datagram := by
  unfold departure outgoing?
  cases node.membership.address? message.recipient with
  | none => rfl
  | some address =>
      by_cases fits : message.payload.encodedLength ≤ Payload.maxDatagram
      · simp [Payload.encode, fits, Nat.not_lt_of_le fits]
      · simp [Payload.encode, fits, Nat.lt_of_not_le fits]

end Node

/-! ## Steps of the sender -/

/-- A send that the sender ordered: the message as it goes out, its datagram,
when the send was over, and what went wrong, if anything did. -/
structure Call where
  message : Message
  datagram : Datagram
  time : Nat
  mishap? : Option Mishap

namespace Call

/-- Whether the sender gives up after the send. -/
def isFatal (call : Call) : Bool :=
  call.mishap?.any (!·.isTransient)

/-- What is parked after the send: data, unless the sender gives up. -/
def parked? (call : Call) : Option Message :=
  if call.isFatal || call.message.payload.isAck then none
  else some {
    payload := call.message.payload
    recipient := call.message.recipient
    sentAt := call.time
    attempts := call.message.attempts + 1 }

end Call

inductive LoopState.IsSender : LoopState → Prop where
  | sending (flight : Option Flight) : IsSender (.sending flight)
  | ended (result : LoopResult) : IsSender (.ended result)

namespace Station

/-- The send of a flight that is carried out now. -/
def call (station : Station) (flight : Flight) : Call where
  message := flight.message
  datagram := flight.datagram
  time := station.node.now
  mishap? :=
    match (station.simulator.send station.wire flight.datagram).2.2 with
    | .ok _ => none
    | .error mishap => some mishap

/-- What a step of a sender with an empty hand can do. -/
inductive Taking (station after : Station) (state : LoopState) : Prop where
  | ended (same : after = station) (state_eq : state = .ended .completed)
      (exits : station.node.stopped = true ∨
        station.node.sending.toList = [] ∧ station.node.sending.producers = 0)
  | skip {message : Message} {rest : Queue Message}
      (taken : station.node.sending.dequeue station.node.stopped =
        .item message rest)
      (nothing : station.node.outgoing? message = none)
      (after_eq : after = { station with
        node := { station.node with
          sending := rest }.discountUnacked message.payload })
      (state_eq : state = .sending none)
  | depart {message stamped : Message} {rest : Queue Message}
      {datagram : Datagram}
      (taken : station.node.sending.dequeue station.node.stopped =
        .item message rest)
      (outgoing : station.node.outgoing? message = some (stamped, datagram))
      (after_eq : after = { station with
        node := { station.node with sending := rest } })
      (state_eq : state = .sending (some
        ⟨stamped, datagram, station.node.now + station.sendDelay⟩))

theorem taking_of_stepSender {station after : Station} {state : LoopState}
    (step : station.stepSender none = some (after, state)) :
    Taking station after state := by
  simp only [stepSender] at step
  split at step
  case h_1 ended =>
      obtain ⟨rfl, rfl⟩ := Prod.mk.inj (Option.some.inj step)
      exact .ended rfl rfl (Queue.of_dequeue_ended ended)
  case h_2 => contradiction
  case h_3 message rest taken =>
      have departs : { station.node with sending := rest }.departure message =
          _ := Node.departure_eq _ message
      have same : { station.node with sending := rest }.outgoing? message =
          station.node.outgoing? message := rfl
      rw [same] at departs
      cases outgoing : station.node.outgoing? message with
      | none =>
          simp only [departs, outgoing, Option.some.injEq,
            Prod.mk.injEq] at step
          exact .skip taken outgoing step.1.symm step.2.symm
      | some pair =>
          simp only [departs, outgoing, Option.some.injEq,
            Prod.mk.injEq] at step
          exact .depart taken outgoing step.1.symm step.2.symm

/-- What a step of a sender with a flight in its hand does. -/
structure Landing (station after : Station) (flight : Flight)
    (state : LoopState) : Prop where
  parks : ∃ parked,
    parked.toList = station.node.retransmissions.toList ++
      (station.call flight).parked?.toList ∧
    parked.hasConsumer = true ∧
    after.node = { station.node with retransmissions := parked }
  goes_on : (∃ mishap, (station.call flight).mishap? = some mishap ∧
      mishap.isTransient = false ∧ state = .ended (.failed mishap)) ∨
    (station.call flight).isFatal = false ∧ state = .sending none
  simulator_eq : after.simulator =
    (station.simulator.send station.wire flight.datagram).1
  wire_eq : after.wire =
    (station.simulator.send station.wire flight.datagram).2.1

theorem land_eq (station : Station) (flight : Flight) :
    station.land flight =
      ({ station with
          node := (station.node.afterSend flight.message
            (station.call flight).mishap?).1
          simulator :=
            (station.simulator.send station.wire flight.datagram).1
          wire := (station.simulator.send station.wire flight.datagram).2.1 },
        match (station.node.afterSend flight.message
          (station.call flight).mishap?).2 with
        | some result => .ended result
        | none => .sending none) := by
  unfold land call
  generalize station.simulator.send station.wire flight.datagram = sent
  obtain ⟨simulator, wire, outcome⟩ := sent
  cases outcome with
  | ok length =>
      dsimp only
      generalize station.node.afterSend flight.message none = done
      obtain ⟨node, result?⟩ := done
      cases result? <;> rfl
  | error mishap =>
      dsimp only
      generalize station.node.afterSend flight.message (some mishap) = done
      obtain ⟨node, result?⟩ := done
      cases result? <;> rfl

/-- After a call what is to be parked is parked, and the sender goes on unless
the call was fatal. -/
theorem afterSend_call {station : Station}
    (opened : station.node.retransmissions.hasConsumer = true)
    (flight : Flight) :
    ∃ parked result?,
      station.node.afterSend flight.message (station.call flight).mishap? =
        ({ station.node with retransmissions := parked }, result?) ∧
      parked.toList = station.node.retransmissions.toList ++
        (station.call flight).parked?.toList ∧
      parked.hasConsumer = true ∧
      ((∃ mishap, (station.call flight).mishap? = some mishap ∧
          mishap.isTransient = false ∧ result? = some (.failed mishap)) ∨
        (station.call flight).isFatal = false ∧ result? = none) := by
  have message_eq : (station.call flight).message = flight.message := rfl
  have time_eq : (station.call flight).time = station.node.now := rfl
  generalize station.call flight = call at message_eq time_eq ⊢
  cases filtered : call.mishap?.filter (!·.isTransient) with
  | some mishap =>
      obtain ⟨found, intransient⟩ := Option.filter_eq_some_iff.mp filtered
      have fatal : mishap.isTransient = false := by simpa using intransient
      refine ⟨station.node.retransmissions, some (.failed mishap), ?_, ?_,
        opened, .inl ⟨mishap, found, fatal, rfl⟩⟩
      · simp [Node.afterSend, filtered]
      · simp [Call.parked?, Call.isFatal, found, fatal]
  | none =>
      have transient : call.isFatal = false := by
        cases outcome : call.mishap? with
        | none => simp [Call.isFatal, outcome]
        | some mishap =>
            simp [outcome, Option.filter] at filtered
            simp [Call.isFatal, outcome, filtered]
      cases ack : flight.message.payload.isAck with
      | true =>
          refine ⟨station.node.retransmissions, none, ?_, ?_, opened,
            .inr ⟨transient, rfl⟩⟩
          · simp [Node.afterSend, filtered, ack]
          · simp [Call.parked?, message_eq, ack]
      | false =>
          obtain ⟨filled, enqueued⟩ := Queue.exists_enqueue opened
            (flight.message.transmitted station.node.now)
          refine ⟨filled, none, ?_, ?_, ?_, .inr ⟨transient, rfl⟩⟩
          · simp [Node.afterSend, filtered, ack, Node.park, enqueued]
          · rw [(Queue.toList_enqueue enqueued).1]
            simp [Call.parked?, transient, message_eq, ack, time_eq,
              Message.transmitted]
          · exact (Queue.hasConsumer_of_enqueue enqueued).trans opened

theorem landing_of_stepSender {station after : Station} {flight : Flight}
    {state : LoopState}
    (opened : station.node.retransmissions.hasConsumer = true)
    (step : station.stepSender (some flight) = some (after, state)) :
    Landing station after flight state := by
  simp only [stepSender] at step
  split at step
  case isFalse => contradiction
  case isTrue due =>
      obtain ⟨parked, result?, done, items, stillOpen, goesOn⟩ :=
        afterSend_call opened flight
      rw [land_eq, done] at step
      obtain ⟨rfl, rfl⟩ := Prod.mk.inj (Option.some.inj step)
      refine ⟨⟨parked, items, stillOpen, rfl⟩, ?_, rfl, rfl⟩
      rcases goesOn with ⟨mishap, found, fatal, rfl⟩ | ⟨transient, rfl⟩
      · exact .inl ⟨mishap, found, fatal, rfl⟩
      · exact .inr ⟨transient, rfl⟩

theorem isSender_of_stepLoop {station after : Station} {state next : LoopState}
    (sends : state.IsSender)
    (step : station.stepLoop state = some (after, next)) : next.IsSender := by
  cases sends with
  | ended => contradiction
  | sending flight? =>
      cases flight? with
      | none =>
          cases taking_of_stepSender step with
          | ended _ state_eq => exact state_eq ▸ .ended _
          | skip _ _ _ state_eq | depart _ _ _ state_eq =>
              exact state_eq ▸ .sending _
      | some flight =>
          simp only [stepLoop, stepSender, land_eq] at step
          split at step
          case isFalse => contradiction
          case isTrue =>
              obtain ⟨-, rfl⟩ := Prod.mk.inj (Option.some.inj step)
              split
              · exact .ended _
              · exact .sending _

/-- What a step of the sender leaves behind.  A sender that ends gives up its
end of the sending queue. -/
def closedAt (station : Station) (state : LoopState) : Station :=
  match state.result? with
  | some result => station.closeLoop .sender result
  | none => station

@[simp] theorem closedAt_sending (station : Station)
    (flight : Option Flight) : station.closedAt (.sending flight) = station :=
  rfl

theorem exists_node_closedAt (station : Station) (state : LoopState) :
    ∃ sending stopped, sending.depth = station.node.sending.depth ∧
      sending.producers = station.node.sending.producers ∧
      (station.node.stopped = true → stopped = true) ∧
      (station.closedAt state).node =
        { station.node with sending := sending, stopped := stopped } := by
  unfold closedAt
  split
  case h_1 result _ =>
      obtain ⟨stopped, lasts, closed⟩ :=
        station.exists_node_closeLoop_sender result
      exact ⟨station.node.sending.dropConsumer, stopped, rfl, rfl, lasts,
        closed⟩
  case h_2 => exact ⟨_, _, rfl, rfl, id, rfl⟩

theorem sending_closedAt_ended (station : Station) (result : LoopResult) :
    (station.closedAt (.ended result)).node.sending =
      station.node.sending.dropConsumer := by
  obtain ⟨stopped, _, closed⟩ := station.exists_node_closeLoop_sender result
  exact congrArg Node.sending closed

@[simp] theorem simulator_closedAt (station : Station) (state : LoopState) :
    (station.closedAt state).simulator = station.simulator := by
  unfold closedAt
  split <;> rfl

@[simp] theorem wire_closedAt (station : Station) (state : LoopState) :
    (station.closedAt state).wire = station.wire := by
  unfold closedAt
  split <;> rfl

end Station

/-! ## Runs of the sender -/

/-- A station whose sender is alone at work, and the sends so far. -/
structure Dispatch where
  station : Station
  state : LoopState
  calls : List Call

namespace Dispatch

def start (station : Station) : Dispatch :=
  ⟨station, .sending none, []⟩

def flying (dispatch : Dispatch) : List (Message × Datagram) :=
  match dispatch.state with
  | .sending (some flight) => [(flight.message, flight.datagram)]
  | _ => []

/-- One step of the sender, or of its surroundings: a millisecond passes, or
the station is stopped. -/
inductive Step (dispatch : Dispatch) : Dispatch → Prop where
  | take {after : Station} {state : LoopState}
      (empty : dispatch.state = .sending none)
      (step : dispatch.station.stepLoop dispatch.state =
        some (after, state)) :
      Step dispatch ⟨after.closedAt state, state, dispatch.calls⟩
  | land {after : Station} {state : LoopState} {flight : Flight}
      (flying : dispatch.state = .sending (some flight))
      (step : dispatch.station.stepLoop dispatch.state =
        some (after, state)) :
      Step dispatch ⟨after.closedAt state, state,
        dispatch.calls ++ [dispatch.station.call flight]⟩
  | tick : Step dispatch { dispatch with station := dispatch.station.tick }
  | stop :
      Step dispatch { dispatch with
        station := { dispatch.station with
          node := dispatch.station.node.stop } }

/-- A station that lets its sender run takes these steps. -/
theorem steps_of_runLoop (bound : Nat) (station : Station) {state : LoopState}
    (sends : state.IsSender) (calls : List Call) :
    ∃ made, Relation.ReflTransGen Step ⟨station, state, calls⟩
      ⟨(station.runLoop .sender state bound).1,
        (station.runLoop .sender state bound).2.1, made⟩ := by
  induction bound generalizing station state calls with
  | zero => exact ⟨calls, .refl⟩
  | succ bound induction =>
      rw [Station.runLoop]
      split
      case h_1 => exact ⟨calls, .refl⟩
      case h_2 after next step =>
          have goesOn := Station.isSender_of_stepLoop sends step
          cases sends with
          | ended => contradiction
          | sending flight? =>
              cases flight? with
              | none =>
                  obtain ⟨made, steps⟩ :=
                    induction (after.closedAt next) goesOn calls
                  exact ⟨made, .head (.take rfl step) steps⟩
              | some flight =>
                  obtain ⟨made, steps⟩ := induction (after.closedAt next) goesOn
                    (calls ++ [station.call flight])
                  exact ⟨made, .head (.land rfl step) steps⟩

/-- How far the sender has come: it gives up exactly after a fatal send, which
is then its last, and is done when it is stopped or can get no more messages. -/
inductive Ending (dispatch : Dispatch) (left : List Message) : Prop where
  | atWork {flight : Option Flight} (state_eq : dispatch.state = .sending flight)
      (transient : ∀ call ∈ dispatch.calls, call.isFatal = false)
  | completed (state_eq : dispatch.state = .ended .completed)
      (transient : ∀ call ∈ dispatch.calls, call.isFatal = false)
      (exits : dispatch.station.node.stopped = true ∨
        left = [] ∧ dispatch.station.node.sending.producers = 0)
  | failed {earlier : List Call} {last : Call} {mishap : Mishap}
      (state_eq : dispatch.state = .ended (.failed mishap))
      (calls_eq : dispatch.calls = earlier ++ [last])
      (mishap_eq : last.mishap? = some mishap)
      (fatal : mishap.isTransient = false)
      (transient : ∀ call ∈ earlier, call.isFatal = false)

/-- What becomes of the messages that the sender did not take: they are in the
queue while it is at work, and when it has ended there is no queue to be in. -/
structure Remains (dispatch : Dispatch) (left : List Message) : Prop where
  queued : ∀ flight, dispatch.state = .sending flight →
    dispatch.station.node.sending.toList = left
  dropped : ∀ result, dispatch.state = .ended result →
    dispatch.station.node.sending.toList = [] ∧
      dispatch.station.node.sending.hasConsumer = false

/-- What the sender has done, told by the messages it took from its queue. -/
structure Tallied (before : Station) (dispatch : Dispatch)
    (taken : List Message) : Prop where
  depth_eq : dispatch.station.node.sending.depth =
    before.node.sending.depth - taken.length
  node_eq : dispatch.station.node = { before.node with
    sending := dispatch.station.node.sending
    retransmissions := dispatch.station.node.retransmissions
    unacked := dispatch.station.node.unacked
    stopped := dispatch.station.node.stopped
    now := dispatch.station.node.now }
  opened : dispatch.station.node.retransmissions.hasConsumer = true
  calls_eq : dispatch.calls.map (fun call => (call.message, call.datagram)) ++
    dispatch.flying = taken.filterMap before.node.outgoing?
  parked_eq : dispatch.station.node.retransmissions.toList =
    before.node.retransmissions.toList ++ dispatch.calls.filterMap Call.parked?
  unacked_eq : dispatch.station.node.unacked =
    before.node.unacked - taken.countP before.node.skipsData

/-- A sender that has taken some messages from the front of its queue, and left
the others. -/
structure Faithful (before : Station) (dispatch : Dispatch)
    (taken left : List Message) : Prop where
  queue_eq : before.node.sending.toList = taken ++ left
  tallied : Tallied before dispatch taken
  remains : dispatch.Remains left
  ending : dispatch.Ending left

theorem faithful_start {before : Station}
    (opened : before.node.retransmissions.hasConsumer = true) :
    Faithful before (start before) [] before.node.sending.toList := by
  refine ⟨rfl, ⟨rfl, rfl, opened, rfl, ?_, rfl⟩, ⟨fun _ _ => rfl, ?_⟩,
    .atWork rfl ?_⟩
  · simp [start]
  · intro result ended
    contradiction
  · simp [start]

section Steps

variable {before after : Station} {dispatch : Dispatch}
  {taken left : List Message} {state : LoopState} {calls : List Call}

theorem Tallied.outgoing?_eq (tallied : Tallied before dispatch taken)
    (message : Message) :
    dispatch.station.node.outgoing? message =
      before.node.outgoing? message := by
  rw [tallied.node_eq]
  rfl

/-- What the sender has done does not depend on the content of its queue, on an
order to stop or on the time. -/
theorem Tallied.pass (tallied : Tallied before dispatch taken)
    {sending : Queue Message} {stopped : Bool} {now : Nat}
    (node_eq : after.node = { dispatch.station.node with
      sending := sending, stopped := stopped, now := now })
    (depth_eq : sending.depth = dispatch.station.node.sending.depth) :
    Tallied before { dispatch with station := after } taken := by
  refine ⟨?_, ?_, ?_, tallied.calls_eq, ?_, ?_⟩
  · rw [node_eq]
    exact depth_eq.trans tallied.depth_eq
  · rw [node_eq, tallied.node_eq]
  · rw [node_eq]
    exact tallied.opened
  · rw [node_eq]
    exact tallied.parked_eq
  · rw [node_eq]
    exact tallied.unacked_eq

theorem Tallied.closedAt (tallied : Tallied before ⟨after, state, calls⟩ taken) :
    Tallied before ⟨after.closedAt state, state, calls⟩ taken := by
  obtain ⟨sending, stopped, depth_eq, _, _, node_eq⟩ :=
    after.exists_node_closedAt state
  exact tallied.pass node_eq depth_eq

theorem remains_atWork {flight : Option Flight}
    (queue_eq : after.node.sending.toList = left) :
    Remains ⟨after, .sending flight, calls⟩ left := by
  refine ⟨fun _ _ => queue_eq, ?_⟩
  intro result ended
  contradiction

theorem remains_ended {result : LoopResult} :
    Remains ⟨after.closedAt (.ended result), .ended result, calls⟩ left := by
  constructor
  · intro flight working
    contradiction
  · intro _ _
    simp only [Station.sending_closedAt_ended]
    exact ⟨rfl, rfl⟩

theorem Ending.transient {flight : Option Flight}
    (ending : dispatch.Ending left)
    (working : dispatch.state = .sending flight) :
    ∀ call ∈ dispatch.calls, call.isFatal = false := by
  cases ending with
  | atWork _ transient => exact transient
  | completed state_eq | failed state_eq =>
      rw [working] at state_eq
      contradiction

/-- A message is taken from the queue; if it is data that cannot be sent it is
not counted any more. -/
theorem Faithful.takeOne (faithful : Faithful before dispatch taken left)
    (empty : dispatch.state = .sending none)
    {message : Message} {rest : Queue Message} {flight : Option Flight}
    (item : dispatch.station.node.sending.dequeue
      dispatch.station.node.stopped = .item message rest)
    (node_eq : after.node = { dispatch.station.node with
      sending := rest
      unacked := dispatch.station.node.unacked -
        [message].countP before.node.skipsData })
    (calls_eq : dispatch.calls.map
        (fun call => (call.message, call.datagram)) ++
          (Dispatch.mk after (.sending flight) dispatch.calls).flying =
      (taken ++ [message]).filterMap before.node.outgoing?) :
    Faithful before ⟨after, .sending flight, dispatch.calls⟩
      (taken ++ [message]) rest.toList := by
  have order := (Queue.of_dequeue item).1
  have depth := Queue.depth_of_dequeue item
  have tallied := faithful.tallied
  have queued := faithful.remains.queued none empty
  refine ⟨?_, ⟨?_, ?_, ?_, calls_eq, ?_, ?_⟩, remains_atWork ?_,
    .atWork rfl (faithful.ending.transient empty)⟩
  · rw [faithful.queue_eq, ← queued, order]
    simp
  · rw [node_eq]
    change rest.depth = _
    rw [depth, tallied.depth_eq, List.length_append, Nat.sub_sub]
    rfl
  · rw [node_eq, tallied.node_eq]
  · rw [node_eq]
    exact tallied.opened
  · rw [node_eq]
    exact tallied.parked_eq
  · rw [node_eq, List.countP_append, ← Nat.sub_sub, ← tallied.unacked_eq]
  · rw [node_eq]

theorem Faithful.take (faithful : Faithful before dispatch taken left)
    (empty : dispatch.state = .sending none)
    (step : dispatch.station.stepLoop dispatch.state = some (after, state)) :
    ∃ taken left, Faithful before
      ⟨after.closedAt state, state, dispatch.calls⟩ taken left := by
  have transient := faithful.ending.transient empty
  have tallied := faithful.tallied
  have calls_eq := tallied.calls_eq
  have nothing : dispatch.flying = [] := by
    rw [flying, empty]
  rw [nothing, List.append_nil] at calls_eq
  rw [empty] at step
  cases Station.taking_of_stepSender step with
  | ended same state_eq exits =>
      subst same state_eq
      obtain ⟨sending, stopped, _, producers_eq, lasts, node_eq⟩ :=
        dispatch.station.exists_node_closedAt (.ended .completed)
      refine ⟨taken, left, faithful.queue_eq, Tallied.closedAt ?_,
        remains_ended, .completed rfl transient ?_⟩
      · refine ⟨tallied.depth_eq, tallied.node_eq, tallied.opened, ?_,
          tallied.parked_eq, tallied.unacked_eq⟩
        simp [flying, calls_eq]
      · rw [faithful.remains.queued none empty, ← producers_eq] at exits
        rw [node_eq]
        exact exits.imp_left lasts
  | @skip message rest item missing after_eq state_eq =>
      subst state_eq
      rw [tallied.outgoing?_eq] at missing
      have skipped : [message].countP before.node.skipsData =
          [message].countP Message.isData := by
        simp [List.countP_singleton, Node.skipsData, missing]
      refine ⟨_, _, faithful.takeOne empty item ?_ ?_⟩
      · rw [skipped, Station.closedAt_sending, after_eq]
        exact Node.discountUnacked_of_message _ message
      · simp [flying, calls_eq, missing]
  | @depart message stamped rest datagram item outgoing after_eq state_eq =>
      subst state_eq
      rw [tallied.outgoing?_eq] at outgoing
      have counted : [message].countP before.node.skipsData = 0 := by
        simp [Node.skipsData, outgoing]
      refine ⟨_, _, faithful.takeOne empty item ?_ ?_⟩
      · rw [counted, Station.closedAt_sending, after_eq]
        rfl
      · simp [flying, calls_eq, outgoing]

theorem Faithful.land (faithful : Faithful before dispatch taken left)
    {flight : Flight} (inHand : dispatch.state = .sending (some flight))
    (step : dispatch.station.stepLoop dispatch.state = some (after, state)) :
    Faithful before
      ⟨after.closedAt state, state,
        dispatch.calls ++ [dispatch.station.call flight]⟩ taken left := by
  have transient := faithful.ending.transient inHand
  have tallied := faithful.tallied
  have calls_eq := tallied.calls_eq
  have last : dispatch.flying =
      [((dispatch.station.call flight).message,
        (dispatch.station.call flight).datagram)] := by
    rw [flying, inHand]
    rfl
  rw [last] at calls_eq
  rw [inHand] at step
  obtain ⟨⟨parked, items, opened, node_eq⟩, goesOn, _, _⟩ :=
    Station.landing_of_stepSender tallied.opened step
  have nothing : (Dispatch.mk after state
      (dispatch.calls ++ [dispatch.station.call flight])).flying = [] := by
    rcases goesOn with ⟨_, _, _, state_eq⟩ | ⟨_, state_eq⟩
    · rw [flying, state_eq]
    · rw [flying, state_eq]
  have landed : Tallied before
      ⟨after, state, dispatch.calls ++ [dispatch.station.call flight]⟩
      taken := by
    refine ⟨?_, ?_, ?_, ?_, ?_, ?_⟩
    · rw [node_eq]
      exact tallied.depth_eq
    · rw [node_eq, tallied.node_eq]
    · rw [node_eq]
      exact opened
    · rw [nothing, List.append_nil, List.map_append]
      exact calls_eq
    · rw [node_eq, List.filterMap_append, ← List.append_assoc,
        ← tallied.parked_eq]
      exact items
    · rw [node_eq]
      exact tallied.unacked_eq
  refine ⟨faithful.queue_eq, landed.closedAt, ?_, ?_⟩
  · rcases goesOn with ⟨mishap, _, _, rfl⟩ | ⟨_, rfl⟩
    · exact remains_ended
    · apply remains_atWork
      rw [Station.closedAt_sending, node_eq]
      exact faithful.remains.queued _ inHand
  · rcases goesOn with ⟨_, mishap_eq, fatal, state_eq⟩ | ⟨harmless, state_eq⟩
    · exact .failed state_eq rfl mishap_eq fatal transient
    · refine .atWork state_eq ?_
      intro call member
      rcases List.mem_append.mp member with old | new
      · exact transient call old
      · rw [List.mem_singleton.mp new]
        exact harmless

theorem Faithful.pass (faithful : Faithful before dispatch taken left)
    (stopped : Bool) (now : Nat)
    (node_eq : after.node = { dispatch.station.node with
      stopped := stopped, now := now })
    (lasts : dispatch.station.node.stopped = true → stopped = true) :
    Faithful before { dispatch with station := after } taken left := by
  have sending_eq : after.node.sending = dispatch.station.node.sending := by
    rw [node_eq]
  refine ⟨faithful.queue_eq, faithful.tallied.pass node_eq rfl, ⟨?_, ?_⟩, ?_⟩
  · rw [sending_eq]
    exact faithful.remains.queued
  · rw [sending_eq]
    exact faithful.remains.dropped
  · cases faithful.ending with
    | atWork state_eq transient => exact .atWork state_eq transient
    | failed state_eq calls_eq mishap_eq fatal transient =>
        exact .failed state_eq calls_eq mishap_eq fatal transient
    | completed state_eq transient exits =>
        refine .completed state_eq transient ?_
        rw [node_eq]
        exact exits.imp_left lasts

theorem Faithful.step {next : Dispatch}
    (faithful : Faithful before dispatch taken left)
    (step : Step dispatch next) :
    ∃ taken left, Faithful before next taken left := by
  cases step with
  | take empty step => exact faithful.take empty step
  | land inHand step => exact ⟨taken, left, faithful.land inHand step⟩
  | tick => exact ⟨taken, left, faithful.pass _ _ rfl id⟩
  | stop => exact ⟨taken, left, faithful.pass true _ rfl fun _ => rfl⟩

theorem faithful_of_run
    (opened : before.node.retransmissions.hasConsumer = true)
    (run : Relation.ReflTransGen Step (start before) dispatch) :
    ∃ taken left, Faithful before dispatch taken left := by
  induction run with
  | refl => exact ⟨_, _, faithful_start opened⟩
  | tail _ step induction =>
      obtain ⟨taken, left, faithful⟩ := induction
      exact faithful.step step

end Steps

end Dispatch

/-! ## What leaves -/

/-- The outcome of a send that comes after a number of others. -/
def Wire.outcomeAt (wire : Wire) (index : Nat) : Option Mishap :=
  wire.outcomes[index]?.getD wire.standing

theorem Wire.send_eq (wire : Wire) (datagram : Datagram) :
    wire.send datagram =
      ({ wire with
          outcomes := wire.outcomes.drop 1
          sent := if (wire.outcomeAt 0).isNone then wire.sent.push datagram
            else wire.sent },
        match wire.outcomeAt 0 with
        | none => .ok datagram.bytes.length
        | some mishap => .error mishap) := by
  have first : wire.outcome = wire.outcomeAt 0 := by
    unfold outcome outcomeAt
    cases wire.outcomes <;> rfl
  unfold send
  rw [first, List.drop_one]
  cases wire.outcomeAt 0 <;> rfl

theorem Simulator.Faultless.send_eq {simulator : Simulator}
    (faultless : simulator.Faultless) (wire : Wire) (datagram : Datagram) :
    (simulator.send wire datagram).2 = wire.send datagram := by
  have fate : simulator.fate datagram.bytes = .send false := by
    unfold Faultless at faultless
    simp [Simulator.fate, faultless]
  simp only [Simulator.send, fate, transmit]
  generalize wire.send datagram = sent
  obtain ⟨after, outcome⟩ := sent
  cases outcome <;> rfl

namespace Dispatch

/-- The wire behind a faultless simulator: it gives out its outcomes in turn,
and what leaves is what was sent without a mishap. -/
structure Wired (before : Station) (dispatch : Dispatch) : Prop where
  model_eq : dispatch.station.simulator.model = before.simulator.model
  outcomes_eq : dispatch.station.wire.outcomes =
    before.wire.outcomes.drop dispatch.calls.length
  standing_eq : dispatch.station.wire.standing = before.wire.standing
  mishaps_eq : dispatch.calls.map Call.mishap? =
    (List.range dispatch.calls.length).map before.wire.outcomeAt
  sent_eq : dispatch.station.wire.sent.toList = before.wire.sent.toList ++
    (dispatch.calls.filter (·.mishap?.isNone)).map Call.datagram

theorem Wired.closedAt {before after : Station} {state : LoopState}
    {calls : List Call} (wired : Wired before ⟨after, state, calls⟩) :
    Wired before ⟨after.closedAt state, state, calls⟩ := by
  constructor
  · rw [Station.simulator_closedAt]
    exact wired.model_eq
  · rw [Station.wire_closedAt]
    exact wired.outcomes_eq
  · rw [Station.wire_closedAt]
    exact wired.standing_eq
  · exact wired.mishaps_eq
  · rw [Station.wire_closedAt]
    exact wired.sent_eq

theorem Wired.land {before after : Station} {dispatch : Dispatch}
    {state : LoopState} {flight : Flight} (wired : Wired before dispatch)
    (faultless : before.simulator.Faultless)
    (landing : Station.Landing dispatch.station after flight state) :
    Wired before ⟨after.closedAt state, state,
      dispatch.calls ++ [dispatch.station.call flight]⟩ := by
  have still : dispatch.station.simulator.Faultless :=
    wired.model_eq.trans faultless
  have next : dispatch.station.wire.outcomeAt 0 =
      before.wire.outcomeAt dispatch.calls.length := by
    rw [Wire.outcomeAt, wired.outcomes_eq, wired.standing_eq]
    simp [Wire.outcomeAt]
  have sent := still.send_eq dispatch.station.wire flight.datagram
  rw [Wire.send_eq, next] at sent
  have wire_eq := landing.wire_eq
  have mishap_eq : (dispatch.station.call flight).mishap? =
      before.wire.outcomeAt dispatch.calls.length := by
    rw [Station.call, sent]
    cases before.wire.outcomeAt dispatch.calls.length <;> rfl
  rw [sent] at wire_eq
  refine Wired.closedAt ⟨?_, ?_, ?_, ?_, ?_⟩
  · rw [landing.simulator_eq, Simulator.model_send]
    exact wired.model_eq
  · rw [wire_eq]
    simp [wired.outcomes_eq]
  · rw [wire_eq]
    exact wired.standing_eq
  · simp [wired.mishaps_eq, mishap_eq, List.range_succ]
  · rw [wire_eq]
    cases outcome : before.wire.outcomeAt dispatch.calls.length with
    | none =>
        simp [wired.sent_eq, mishap_eq, outcome]
        rfl
    | some mishap => simp [wired.sent_eq, mishap_eq, outcome]

theorem wired_start (before : Station) : Wired before (start before) := by
  constructor <;> simp [start]

theorem Wired.take {before after : Station} {dispatch : Dispatch}
    {state : LoopState} (wired : Wired before dispatch)
    (taking : Station.Taking dispatch.station after state) :
    Wired before ⟨after.closedAt state, state, dispatch.calls⟩ := by
  have same : after.simulator = dispatch.station.simulator ∧
      after.wire = dispatch.station.wire := by
    cases taking with
    | ended same => rw [same]; exact ⟨rfl, rfl⟩
    | skip _ _ after_eq => rw [after_eq]; exact ⟨rfl, rfl⟩
    | depart _ _ after_eq => rw [after_eq]; exact ⟨rfl, rfl⟩
  obtain ⟨simulator_eq, wire_eq⟩ := same
  refine Wired.closedAt ⟨?_, ?_, ?_, wired.mishaps_eq, ?_⟩
  · rw [simulator_eq]
    exact wired.model_eq
  · rw [wire_eq]
    exact wired.outcomes_eq
  · rw [wire_eq]
    exact wired.standing_eq
  · rw [wire_eq]
    exact wired.sent_eq

theorem wired_of_run {before : Station} {dispatch : Dispatch}
    (opened : before.node.retransmissions.hasConsumer = true)
    (faultless : before.simulator.Faultless)
    (run : Relation.ReflTransGen Step (start before) dispatch) :
    Wired before dispatch := by
  induction run with
  | refl => exact wired_start before
  | tail earlier step induction =>
      obtain ⟨_, _, faithful⟩ := faithful_of_run opened earlier
      cases step with
      | take empty step =>
          rw [empty] at step
          exact induction.take (Station.taking_of_stepSender step)
      | land inHand step =>
          rw [inHand] at step
          exact induction.land faultless
            (Station.landing_of_stepSender faithful.tallied.opened step)
      | tick | stop =>
          exact ⟨induction.model_eq, induction.outcomes_eq,
            induction.standing_eq, induction.mishaps_eq, induction.sent_eq⟩

/-- The sender waits only when its queue is empty or a send takes its time. -/
theorem Faithful.waits {before : Station} {dispatch : Dispatch}
    {taken left : List Message} (faithful : Faithful before dispatch taken left)
    (nothing : dispatch.station.stepLoop dispatch.state = none) :
    (∃ result, dispatch.state = .ended result) ∨
      dispatch.state = .sending none ∧
        dispatch.station.node.sending.toList = [] ∨
      ∃ flight, dispatch.state = .sending (some flight) ∧
        dispatch.station.node.now < flight.arrivesAt := by
  cases faithful.ending with
  | completed state_eq | failed state_eq => exact .inl ⟨_, state_eq⟩
  | @atWork flight? state_eq =>
      right
      rw [state_eq] at nothing ⊢
      cases flight? with
      | none =>
          simp only [Station.stepLoop, Station.stepSender] at nothing
          split at nothing
          case h_1 => contradiction
          case h_2 pending =>
              exact .inl ⟨rfl, Queue.of_dequeue_pending pending⟩
          case h_3 => split at nothing <;> contradiction
      | some flight =>
          simp only [Station.stepLoop, Station.stepSender] at nothing
          split at nothing
          case isTrue => contradiction
          case isFalse early =>
              exact .inr ⟨flight, rfl, Nat.lt_of_not_le early⟩

/-- The number of attempts of what is parked does not overflow. -/
theorem Faithful.toNat_attempts {before : Station} {dispatch : Dispatch}
    {taken left : List Message} (faithful : Faithful before dispatch taken left)
    (few : ∀ message ∈ before.node.sending.toList,
      message.attempts < 4294967295) {call : Call}
    (member : call ∈ dispatch.calls) :
    (call.message.attempts + 1).toNat = call.message.attempts.toNat + 1 := by
  have listed : (call.message, call.datagram) ∈
      taken.filterMap before.node.outgoing? := by
    rw [← faithful.tallied.calls_eq]
    exact List.mem_append_left _ (List.mem_map_of_mem member)
  obtain ⟨message, wasTaken, outgoing⟩ := List.mem_filterMap.mp listed
  have same : call.message.attempts = message.attempts := by
    unfold Node.outgoing? at outgoing
    split at outgoing
    case h_1 => contradiction
    case h_2 =>
        dsimp only at outgoing
        split at outgoing
        case isTrue =>
            have stamped := (Prod.mk.inj (Option.some.inj outgoing)).1
            rw [← stamped]
        case isFalse => contradiction
  have bound : message.attempts < 4294967295 := by
    apply few
    rw [faithful.queue_eq]
    exact List.mem_append_left _ wasTaken
  have boundNat : message.attempts.toNat < 4294967295 := bound
  rw [same, UInt32.toNat_add]
  exact Nat.mod_eq_of_lt (Nat.succ_lt_succ boundNat)

/-- Let the sender of a station work alone for any number of steps, over any
transport and with a stop at any time.  It has taken some messages from the
front of its queue.  Up to its end the others are still there, untouched; once
it has ended they are gone with its end of the queue, which refuses whatever
comes later, though its depth still counts them.  Of those it took, the ones that
have an address and fit in a datagram were handed to the transport, once each and
in order.  The data among them is parked in the same order, with one more
attempt, unless the send was fatal; an acknowledgement never is.  The count of
data is lower by the data that cannot be sent.  The sender ends with the error of
a fatal send, which is then its last, or when it is stopped or can get no more
messages; otherwise it waits only when its queue is empty or a send takes its
time.  Over a faultless simulator the sends have the outcomes of the wire in
turn, and the datagrams that leave are those that were sent without a mishap. -/
theorem dispatched_in_order {before : Station} {dispatch : Dispatch}
    (opened : before.node.retransmissions.hasConsumer = true)
    (few : ∀ message ∈ before.node.sending.toList,
      message.attempts < 4294967295)
    (counted : before.node.sending.toList.countP Message.isData ≤
      before.node.unacked)
    (run : Relation.ReflTransGen Step (start before) dispatch) :
    let after := dispatch.station.node
    ∃ taken left, before.node.sending.toList = taken ++ left ∧
      (∀ flight, dispatch.state = .sending flight →
        after.sending.toList = left) ∧
      (∀ result, dispatch.state = .ended result →
        after.sending.toList = [] ∧ ∀ message,
          after.sending.enqueue message =
            (after.sending, .error .consumerGone)) ∧
      after.sending.depth = before.node.sending.depth - taken.length ∧
      (dispatch.calls.map fun call => (call.message, call.datagram)) ++
        dispatch.flying = taken.filterMap before.node.outgoing? ∧
      after.retransmissions.toList = before.node.retransmissions.toList ++
        dispatch.calls.filterMap Call.parked? ∧
      (∀ call ∈ dispatch.calls, (call.message.attempts + 1).toNat =
        call.message.attempts.toNat + 1) ∧
      after.unacked + taken.countP before.node.skipsData =
        before.node.unacked ∧
      after = { before.node with
        sending := after.sending
        retransmissions := after.retransmissions
        unacked := after.unacked
        stopped := after.stopped
        now := after.now } ∧
      dispatch.Ending left ∧
      (dispatch.station.stepLoop dispatch.state = none →
        (∃ result, dispatch.state = .ended result) ∨
        dispatch.state = .sending none ∧ after.sending.toList = [] ∨
        ∃ flight, dispatch.state = .sending (some flight) ∧
          after.now < flight.arrivesAt) ∧
      (before.simulator.Faultless →
        dispatch.calls.map Call.mishap? =
          (List.range dispatch.calls.length).map before.wire.outcomeAt ∧
        dispatch.station.wire.sent.toList = before.wire.sent.toList ++
          (dispatch.calls.filter (·.mishap?.isNone)).map Call.datagram) := by
  obtain ⟨taken, left, faithful⟩ := faithful_of_run opened run
  have tallied := faithful.tallied
  refine ⟨taken, left, faithful.queue_eq, faithful.remains.queued, ?_,
    tallied.depth_eq, tallied.calls_eq, tallied.parked_eq,
    fun call member => faithful.toNat_attempts few member, ?_,
    tallied.node_eq, faithful.ending, faithful.waits, ?_⟩
  · intro result ended
    obtain ⟨empty, gone⟩ := faithful.remains.dropped result ended
    exact ⟨empty, fun message => Queue.enqueue_of_consumerGone message gone⟩
  · have skipped : taken.countP before.node.skipsData ≤
        before.node.sending.toList.countP Message.isData := by
      rw [faithful.queue_eq, List.countP_append]
      apply Nat.le_add_right_of_le
      apply List.countP_mono_left
      intro message _ skips
      exact (Bool.and_eq_true_iff.mp skips).1
    rw [tallied.unacked_eq]
    exact Nat.sub_add_cancel (Nat.le_trans skipped counted)
  · intro faultless
    have wired := wired_of_run opened faultless run
    exact ⟨wired.mishaps_eq, wired.sent_eq⟩

/-- Of four messages the first is parked although its send timed out, the second
has no address, and the third takes the sender down, and the fourth with it. -/
theorem dispatched_in_order_of_pair :
    ∃ before dispatch, before.node.retransmissions.hasConsumer = true ∧
      (∀ message ∈ before.node.sending.toList,
        message.attempts < 4294967295) ∧
      before.node.sending.toList.countP Message.isData ≤ before.node.unacked ∧
      Relation.ReflTransGen Step (start before) dispatch ∧
      dispatch.state = .ended (.failed .crash) ∧
      dispatch.calls.map Call.mishap? = [some (.fault .timedOut), some .crash] ∧
      dispatch.station.node.retransmissions.toList =
        [(Message.new (Payload.data 1 1 [49] 3) 2 0).transmitted 0] ∧
      dispatch.station.node.sending.toList = [] ∧
      ∃ taken left, before.node.sending.toList = taken ++ left ∧
        left.length = 1 ∧
        dispatch.calls.map (fun call => (call.message, call.datagram)) ++
          dispatch.flying = taken.filterMap before.node.outgoing? := by
  obtain ⟨node, created⟩ : ∃ node, Node.create 1 .pair (.empty 3)
      (.broadcast 1) {} = .ok node := ⟨_, rfl⟩
  let before := { Station.new (node.sendAll
      [⟨Payload.data 1 1 [49] 3, 2⟩, ⟨Payload.data 1 2 [49] 3, 9⟩,
        ⟨Payload.data 1 3 [49] 3, 2⟩, ⟨Payload.data 1 4 [49] 3, 2⟩]) with
    wire := { Wire.new with
      outcomes := [some (.fault .timedOut), some .crash] } }
  obtain rfl := Except.ok.inj created
  obtain ⟨dispatch, run, state_eq, mishaps, retransmissions, depth⟩ :
      ∃ dispatch, Relation.ReflTransGen Step (start before) dispatch ∧
        dispatch.state = .ended (.failed .crash) ∧
        dispatch.calls.map Call.mishap? =
          [some (.fault .timedOut), some .crash] ∧
        dispatch.station.node.retransmissions.toList =
          [(Message.new (Payload.data 1 1 [49] 3) 2 0).transmitted 0] ∧
        dispatch.station.node.sending.depth = 1 :=
    ⟨_, .tail (.tail (.tail (.tail (.tail .refl (.take rfl rfl))
      (.land rfl rfl)) (.take rfl rfl)) (.take rfl rfl)) (.land rfl rfl),
      rfl, rfl, rfl, rfl⟩
  have few : ∀ message ∈ before.node.sending.toList,
      message.attempts < 4294967295 := by
    decide
  have counted : before.node.sending.toList.countP Message.isData ≤
      before.node.unacked := by
    decide
  have four : before.node.sending.toList.length = 4 := rfl
  have deep : before.node.sending.depth = 4 := rfl
  obtain ⟨taken, left, queue_eq, _, dropped, depth_eq, calls_eq, _⟩ :=
    dispatched_in_order rfl few counted run
  rw [queue_eq, List.length_append] at four
  rw [depth, deep] at depth_eq
  exact ⟨before, dispatch, rfl, few, counted, run, state_eq, mishaps,
    retransmissions, (dropped _ state_eq).1, taken, left, queue_eq, by omega,
    calls_eq⟩

/-- The second of two messages does not stay queued when the send of the first
is fatal: the queue is empty and takes no third, and it still counts one. -/
theorem dropped_after_fatal_send :
    ∃ before dispatch, before.node.retransmissions.hasConsumer = true ∧
      before.node.sending.toList =
        [Message.new (Payload.data 1 1 [49] 3) 2 0,
          Message.new (Payload.data 1 2 [50] 3) 2 0] ∧
      Relation.ReflTransGen Step (start before) dispatch ∧
      dispatch.state = .ended (.failed (.fault .permissionDenied)) ∧
      dispatch.calls.map (·.message.payload.uid) = [1] ∧
      dispatch.station.node.sending.toList = [] ∧
      (dispatch.station.node.sending.enqueue
        (Message.new (Payload.data 1 3 [51] 3) 2 0)).2 =
          .error .consumerGone ∧
      dispatch.station.node.sending.depth = 1 := by
  obtain ⟨node, created⟩ : ∃ node, Node.create 1 .pair (.empty 3)
      (.broadcast 1) {} = .ok node := ⟨_, rfl⟩
  let before := { Station.new (node.sendAll
      [⟨Payload.data 1 1 [49] 3, 2⟩, ⟨Payload.data 1 2 [50] 3, 2⟩]) with
    wire := { Wire.new with outcomes := [some (.fault .permissionDenied)] } }
  obtain rfl := Except.ok.inj created
  exact ⟨before, _, rfl, rfl,
    .tail (.tail .refl (.take rfl rfl)) (.land rfl rfl), rfl, rfl, rfl, rfl,
    rfl⟩

end Dispatch

end CausalCast
