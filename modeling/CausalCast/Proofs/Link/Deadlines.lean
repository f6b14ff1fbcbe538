import CausalCast.Proofs.Link.Progress
import CausalCast.Proofs.Link.Steps

/-!
# Deadlines

In virtual time a millisecond passes only when both loops of a link wait.  Then
no message overstays its deadline: the retransmitter looks at one message at a
time, but what waits behind that message was sent later and so is due later.
That the messages stay in the order in which they were sent is what the sender
contributes: it parks a message with the time at which its send was over.

The loops cannot keep the time from passing.  If the offset between two
transmissions is at least a millisecond, they take only so many turns before
both have to wait.
-/

namespace CausalCast

namespace Link

/-- Neither loop can do anything, whatever the transport would do. -/
def Waits (link : Link) : Prop :=
  (∀ outcomes, link.stepSender outcomes = none) ∧
    link.stepRetransmitter = none

/-- The sender waits while it has nothing to send, and the retransmitter while
the message that it holds is not due. -/
theorem waits_of_early {link : Link} {message : Message}
    (running : link.node.stopped = false) (empty : link.flight = none)
    (nothing : link.node.sending.toList = [])
    (holding : link.held = some message)
    (early : link.node.now < link.node.timer.deadline message.sentAt) :
    link.Waits := by
  constructor
  · intro outcomes
    cases dequeued : link.station.node.sending.dequeue
        link.station.node.stopped with
    | item message rest =>
        have taken := (Queue.of_dequeue dequeued).1
        rw [node] at nothing
        rw [nothing] at taken
        contradiction
    | ended | pending =>
        simp [stepSender, Station.stepSender, empty, dequeued]
  · have pending : link.station.node.timer.poll? message.sentAt
        link.station.node.now link.station.node.stopped = none := by
      have still : link.station.node.stopped = false := running
      have undue : link.station.node.timer.isDue message.sentAt
          link.station.node.now = false :=
        decide_eq_false (Nat.not_le_of_lt early)
      simp [RetransmitTimer.poll?, still, undue]
    simp [stepRetransmitter, Station.stepRetransmitter, holding, pending]

/-- One step of one of the loops. -/
inductive Turn (link : Link) : Link → Prop where
  | sender {after : Link} {outcomes : List (Option Mishap)}
      {datagrams : List Datagram}
      (step : link.stepSender outcomes = some (after, datagrams)) :
      Turn link after
  | retransmitter {after : Link} (step : link.stepRetransmitter = some after) :
      Turn link after

theorem Turn.now_eq {link after : Link} (turn : link.Turn after) :
    after.node.now = link.node.now := by
  cases turn with
  | sender step => exact (senderMove_of_stepSender step).now_eq
  | retransmitter step =>
      exact (retransmitterMove_of_stepRetransmitter step).now_eq

/-- What waits for its acknowledgement, in the order in which the retransmitter
looks at it. -/
def awaiting (link : Link) : List Message :=
  link.held.toList ++ link.node.retransmissions.toList

theorem awaiting_of_held {link : Link} {message : Message}
    (holding : link.held = some message) :
    link.awaiting = message :: link.node.retransmissions.toList := by
  simp [awaiting, holding]

theorem awaiting_of_empty {link : Link} (empty : link.held = none) :
    link.awaiting = link.node.retransmissions.toList := by
  simp [awaiting, empty]

theorem SenderMove.awaiting {link after : Link} {datagrams : List Datagram}
    (move : SenderMove link after datagrams) :
    after.awaiting = link.awaiting ∨ ∃ message : Message,
      after.awaiting = link.awaiting ++ [message.transmitted link.node.now] := by
  cases move with
  | abandon _ _ _ _ node_eq _ held_eq =>
      left
      rw [Link.awaiting, node_eq, held_eq, Node.retransmissions_discountUnacked]
      rfl
  | depart _ _ _ _ node_eq _ held_eq =>
      left
      rw [Link.awaiting, node_eq, held_eq]
      rfl
  | forget _ _ node_eq _ held_eq =>
      left
      rw [Link.awaiting, node_eq, held_eq]
      rfl
  | @park flight _ _ _ items _ node_eq _ held_eq =>
      right
      refine ⟨flight.message, ?_⟩
      rw [Link.awaiting, node_eq, held_eq, items, ← List.append_assoc]
      rfl

theorem RetransmitterMove.awaiting {link after : Link}
    (move : RetransmitterMove link after) :
    after.awaiting <:+ link.awaiting := by
  cases move with
  | settleNext empty taken _ _ node_eq _ held_eq =>
      rw [awaiting_of_empty empty, awaiting_of_empty held_eq, taken, node_eq]
      exact List.suffix_cons _ _
  | hold empty taken _ _ node_eq _ held_eq =>
      have same : after.awaiting = link.awaiting := by
        rw [awaiting_of_empty empty, awaiting_of_held held_eq, taken, node_eq]
      exact same ▸ List.suffix_rfl
  | settleHeld holding _ node_eq _ held_eq =>
      rw [awaiting_of_held holding, awaiting_of_empty held_eq, node_eq]
      exact List.suffix_cons _ _
  | requeue holding _ _ _ node_eq _ held_eq =>
      rw [awaiting_of_held holding, awaiting_of_empty held_eq, node_eq]
      exact List.suffix_cons _ _

/-! ## Nothing is overdue -/

/-- What waits for its acknowledgement is in the order in which it was sent, and
none of it is past its deadline. -/
structure Timely (link : Link) : Prop where
  ordered : link.awaiting.Pairwise fun first second =>
    first.sentAt ≤ second.sentAt
  past : ∀ message ∈ link.awaiting, message.sentAt ≤ link.node.now
  inTime : ∀ message ∈ link.awaiting,
    link.node.now ≤ link.node.timer.deadline message.sentAt

theorem Fresh.timely {link : Link} (fresh : link.Fresh) : link.Timely := by
  have nothing : link.awaiting = [] := by
    have parts := fresh.at_rest.1
    simp only [pipeline, List.append_eq_nil_iff] at parts
    rw [awaiting, parts.1.2, parts.2]
    rfl
  constructor <;> simp [nothing]

theorem Timely.congr {link after : Link} (timely : link.Timely)
    (awaiting_eq : after.awaiting = link.awaiting)
    (timer_eq : after.node.timer = link.node.timer)
    (now_eq : after.node.now = link.node.now) : after.Timely := by
  constructor
  · rw [awaiting_eq]
    exact timely.ordered
  · rw [awaiting_eq, now_eq]
    exact timely.past
  · rw [awaiting_eq, now_eq, timer_eq]
    exact timely.inTime

theorem Timely.stir {link after : Link} (timely : link.Timely)
    (proper : link.node.Proper) (stir : link.Stir after) : after.Timely := by
  have stirred := stir.stirred proper
  have timer_eq := (Step.stir stir : Step Waits link after).ages proper
  refine timely.congr ?_ timer_eq.timer_eq stirred.now_eq
  rw [awaiting, stirred.held_eq, stirred.retransmissions_eq]
  rfl

theorem Timely.sender {link after : Link} {datagrams : List Datagram}
    (timely : link.Timely) (move : SenderMove link after datagrams) :
    after.Timely := by
  have timer_eq := move.queuesOnly.timer_eq
  rcases move.awaiting with same | ⟨message, parked⟩
  · exact timely.congr same timer_eq move.now_eq
  · constructor
    · rw [parked]
      apply List.pairwise_append.mpr
      refine ⟨timely.ordered, List.pairwise_singleton _ _, ?_⟩
      intro earlier waiting last member
      rw [List.mem_singleton.mp member]
      exact timely.past earlier waiting
    · intro other member
      rw [move.now_eq]
      rw [parked] at member
      rcases List.mem_append.mp member with old | new
      · exact timely.past other old
      · rw [List.mem_singleton.mp new]
        exact Nat.le_refl _
    · intro other member
      rw [move.now_eq, timer_eq]
      rw [parked] at member
      rcases List.mem_append.mp member with old | new
      · exact timely.inTime other old
      · rw [List.mem_singleton.mp new]
        exact Nat.le_add_right _ _

theorem Timely.retransmitter {link after : Link} (timely : link.Timely)
    (move : RetransmitterMove link after) : after.Timely := by
  have left := move.awaiting
  have timer_eq := move.queuesOnly.timer_eq
  constructor
  · exact timely.ordered.sublist left.sublist
  · intro message member
    rw [move.now_eq]
    exact timely.past message (left.subset member)
  · intro message member
    rw [move.now_eq, timer_eq]
    exact timely.inTime message (left.subset member)

/-- While both loops wait nothing is due.  The retransmitter has the message
that is due first in its hand. -/
theorem Waits.lt_deadline {link : Link} (waits : link.Waits)
    (proper : link.node.Proper) (timely : link.Timely) {message : Message}
    (member : message ∈ link.awaiting) :
    link.node.now < link.node.timer.deadline message.sentAt := by
  cases holding : link.held with
  | none =>
      rw [awaiting_of_empty holding] at member
      cases items : link.node.retransmissions.toList with
      | nil =>
          rw [items] at member
          contradiction
      | cons next rest =>
          obtain ⟨after, step⟩ :=
            exists_stepRetransmitter_of_waiting proper.running holding items
          rw [waits.2] at step
          contradiction
  | some first =>
      have ordered := timely.ordered
      rw [awaiting_of_held holding] at ordered member
      have early : link.node.now < link.node.timer.deadline first.sentAt := by
        apply Nat.lt_of_not_le
        intro due
        obtain ⟨after, step⟩ := exists_stepRetransmitter_of_held
          proper.running proper.sendingOpen holding due
        rw [waits.2] at step
        contradiction
      rcases List.mem_cons.mp member with rfl | behind
      · exact early
      · have later := (List.pairwise_cons.mp ordered).1 message behind
        exact Nat.lt_of_lt_of_le early (Nat.add_le_add_right later _)

theorem Timely.tick {link : Link} (timely : link.Timely)
    (proper : link.node.Proper) (waits : link.Waits) : link.tick.Timely :=
  ⟨timely.ordered, fun message member => Nat.le_succ_of_le
    (timely.past message member),
    fun _ member => waits.lt_deadline proper timely member⟩

theorem Timely.step {link after : Link} (timely : link.Timely)
    (proper : link.node.Proper) (step : Step Waits link after) :
    after.Timely := by
  cases step with
  | stir stir => exact timely.stir proper stir
  | sender step => exact timely.sender (senderMove_of_stepSender step)
  | retransmitter step =>
      exact timely.retransmitter (retransmitterMove_of_stepRetransmitter step)
  | tick waits => exact timely.tick proper waits

theorem Fresh.steps_timely {origin link : Link} (fresh : origin.Fresh)
    (steps : Relation.ReflTransGen (Step Waits) origin link) :
    link.Timely := by
  induction steps with
  | refl => exact fresh.timely
  | tail earlier step induction =>
      exact induction.step (fresh.steps_keep earlier).1 step

/-! ## The loops come to rest -/

/-- How many of the messages that wait for their acknowledgement are due. -/
def dueCount (link : Link) : Nat :=
  link.awaiting.countP fun message =>
    link.node.timer.isDue message.sentAt link.node.now

/-- A bound on how many turns the loops can take while no time passes.  Each
turn brings a message nearer to where it has to wait; only a message that is due
goes back to where it began. -/
def effort (link : Link) : Nat :=
  4 * (link.node.sending.toList.length + link.dueCount) +
    3 * link.flight.toList.length +
    2 * link.node.retransmissions.toList.length + link.held.toList.length

theorem dueCount_congr {link after : Link}
    (awaiting_eq : after.awaiting = link.awaiting)
    (timer_eq : after.node.timer = link.node.timer)
    (now_eq : after.node.now = link.node.now) : after.dueCount = link.dueCount := by
  rw [dueCount, awaiting_eq, timer_eq, now_eq]
  rfl

theorem SenderMove.dueCount_eq {link after : Link} {datagrams : List Datagram}
    (move : SenderMove link after datagrams)
    (positive : 1 ≤ link.node.settings.retransmissionOffset) :
    after.dueCount = link.dueCount := by
  have timer_eq := move.queuesOnly.timer_eq
  rcases move.awaiting with same | ⟨message, parked⟩
  · exact dueCount_congr same timer_eq move.now_eq
  · have early : link.node.timer.isDue link.node.now link.node.now = false := by
      apply decide_eq_false
      exact Nat.not_le_of_lt (Nat.lt_add_of_pos_right positive)
    rw [dueCount, parked, timer_eq, move.now_eq, List.countP_append]
    simp [dueCount, Message.transmitted, early]

theorem RetransmitterMove.dueCount_le {link after : Link}
    (move : RetransmitterMove link after) : after.dueCount ≤ link.dueCount := by
  have timer_eq := move.queuesOnly.timer_eq
  rw [dueCount, dueCount, timer_eq, move.now_eq]
  exact move.awaiting.sublist.countP_le

theorem dueCount_of_released {link after : Link} {message : Message}
    (holding : link.held = some message)
    (step : link.stepRetransmitter = some after)
    (held_eq : after.held = none)
    (retransmissions_eq :
      after.node.retransmissions = link.node.retransmissions) :
    link.dueCount = after.dueCount + 1 := by
  have move := retransmitterMove_of_stepRetransmitter step
  have timer_eq := move.queuesOnly.timer_eq
  have released := decide_eq_true (due_of_stepRetransmitter holding step)
  rw [dueCount, dueCount, awaiting_of_held holding, awaiting_of_empty held_eq,
    retransmissions_eq, timer_eq, move.now_eq]
  exact List.countP_cons_of_pos released

theorem SenderMove.effort_lt {link after : Link} {datagrams : List Datagram}
    (move : SenderMove link after datagrams)
    (positive : 1 ≤ link.node.settings.retransmissionOffset) :
    after.effort < link.effort := by
  have dueCount_eq := move.dueCount_eq positive
  cases move with
  | abandon empty taken _ _ node_eq flight_eq held_eq =>
      simp only [effort, dueCount_eq, empty, taken, node_eq, flight_eq, held_eq,
        Node.sending_discountUnacked, Node.retransmissions_discountUnacked,
        List.length_cons]
      omega
  | depart empty taken _ _ node_eq flight_eq held_eq =>
      simp only [effort, dueCount_eq, empty, taken, node_eq, flight_eq, held_eq,
        List.length_cons, Option.toList_none, Option.toList_some,
        List.length_nil]
      omega
  | forget flying _ node_eq flight_eq held_eq =>
      simp only [effort, dueCount_eq, flying, node_eq, flight_eq, held_eq,
        Option.toList_none, Option.toList_some, List.length_nil,
        List.length_cons]
      omega
  | park flying _ items _ node_eq flight_eq held_eq =>
      simp only [effort, dueCount_eq, flying, items, node_eq, flight_eq, held_eq,
        Option.toList_none, Option.toList_some, List.length_nil,
        List.length_cons, List.length_append]
      omega

theorem effort_lt_of_stepRetransmitter {link after : Link}
    (step : link.stepRetransmitter = some after) :
    after.effort < link.effort := by
  have move := retransmitterMove_of_stepRetransmitter step
  have dueCount_le := move.dueCount_le
  cases move with
  | settleNext empty taken _ _ node_eq flight_eq held_eq =>
      simp only [effort, empty, taken, node_eq, flight_eq, held_eq, Node.settle,
        List.length_cons] at dueCount_le ⊢
      omega
  | hold empty taken _ _ node_eq flight_eq held_eq =>
      simp only [effort, empty, taken, node_eq, flight_eq, held_eq,
        List.length_cons, Option.toList_none, Option.toList_some,
        List.length_nil] at dueCount_le ⊢
      omega
  | settleHeld holding _ node_eq flight_eq held_eq =>
      simp only [effort, holding, node_eq, flight_eq, held_eq, Node.settle,
        Option.toList_none, Option.toList_some, List.length_nil,
        List.length_cons] at dueCount_le ⊢
      omega
  | requeue holding _ items _ node_eq flight_eq held_eq =>
      have dueCount_eq := dueCount_of_released holding step held_eq (by rw [node_eq])
      simp only [effort, dueCount_eq, holding, items, node_eq, flight_eq, held_eq,
        Option.toList_none, Option.toList_some, List.length_nil,
        List.length_cons, List.length_append]
      omega

theorem Turn.effort_lt {link after : Link} (turn : link.Turn after)
    (positive : 1 ≤ link.node.settings.retransmissionOffset) :
    after.effort < link.effort := by
  cases turn with
  | sender step => exact (senderMove_of_stepSender step).effort_lt positive
  | retransmitter step => exact effort_lt_of_stepRetransmitter step

theorem Turn.settings_eq {link after : Link} (turn : link.Turn after) :
    after.node.settings = link.node.settings := by
  cases turn with
  | sender step =>
      exact (senderMove_of_stepSender step).queuesOnly.settings_eq
  | retransmitter step =>
      exact (retransmitterMove_of_stepRetransmitter step).queuesOnly.settings_eq

theorem exists_turn_of_not_waits {link : Link} (busy : ¬link.Waits) :
    ∃ after, link.Turn after := by
  by_contra nothing
  apply busy
  constructor
  · intro outcomes
    cases step : link.stepSender outcomes with
    | none => rfl
    | some result => exact absurd ⟨result.1, .sender step⟩ nothing
  · cases step : link.stepRetransmitter with
    | none => rfl
    | some after => exact absurd ⟨after, .retransmitter step⟩ nothing

/-- The loops can go on until both wait, and no time passes meanwhile. -/
theorem exists_waits (link : Link)
    (positive : 1 ≤ link.node.settings.retransmissionOffset) :
    ∃ rested, Relation.ReflTransGen Turn link rested ∧ rested.Waits ∧
      rested.node.now = link.node.now := by
  induction bound : link.effort using Nat.strongRecOn
      generalizing link with
  | _ bound induction =>
      by_cases waits : link.Waits
      · exact ⟨link, .refl, waits, rfl⟩
      · obtain ⟨after, turn⟩ := exists_turn_of_not_waits waits
        have less := turn.effort_lt positive
        rw [bound] at less
        rw [← turn.settings_eq] at positive
        obtain ⟨rested, turns, waits, now_eq⟩ :=
          induction _ less after positive rfl
        exact ⟨rested, turns.head turn, waits, now_eq.trans turn.now_eq⟩

end Link

end CausalCast
