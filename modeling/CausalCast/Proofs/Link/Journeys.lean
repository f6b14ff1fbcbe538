import CausalCast.Proofs.Link.Progress
import CausalCast.Proofs.Link.Steps

/-!
# Journeys

A message that is handed to a link goes round in it: from the sending queue
into the sender's hand, from there into the retransmission queue and into the
retransmitter's hand, and then back into the sending queue, until it is dropped.
A journey follows one message through all of this, whatever else the link has
to do, and keeps a diary: when its transmissions began, when they were over,
when it was put back, and by how much the count of data was lowered for it.

Most steps of a link are about other messages.  `Move` lists what a step can
mean to the message that is followed.
-/

namespace CausalCast

/-! ## Places -/

/-- Where in a link a message is, or how it has left the link. -/
inductive Place where
  /-- In the sending queue, behind a number of others. -/
  | queued (ahead : Nat)
  /-- In the sender's hand. -/
  | flying
  /-- In the retransmission queue, behind a number of others. -/
  | parked (ahead : Nat)
  /-- In the retransmitter's hand. -/
  | held
  /-- Dropped at some time, since its recipient was known to have seen it. -/
  | settled (time : Nat)
  /-- Dropped, since there was no way to its recipient. -/
  | abandoned
deriving DecidableEq

/-- A place as far as it matters how a journey goes on. -/
inductive Leg where
  | queued
  | flying
  /-- The message waits for its acknowledgement or its deadline. -/
  | waiting
  | settled (time : Nat)
  | abandoned
deriving DecidableEq

namespace Place

def leg : Place → Leg
  | queued _ => .queued
  | flying => .flying
  | parked _ | held => .waiting
  | settled time => .settled time
  | abandoned => .abandoned

end Place

def Leg.isOver : Leg → Bool
  | settled _ | abandoned => true
  | _ => false

def Link.at? (link : Link) : Place → Option Message
  | .queued ahead => link.node.sending.toList[ahead]?
  | .flying => link.flight.map Flight.message
  | .parked ahead => link.node.retransmissions.toList[ahead]?
  | .held => link.held
  | .settled _ | .abandoned => none

/-! ## Journeys -/

/-- A message on its way through a link, and what has become of it so far. -/
structure Journey where
  link : Link
  /-- The message as it was when the journey began. -/
  message : Message
  place : Place
  /-- When its transmissions began. -/
  departures : List Nat
  /-- When they were over and it was parked. -/
  parkings : List Nat
  /-- When it was put back into the sending queue. -/
  returns : List Nat
  /-- By how much the count of data was lowered in steps that were about it. -/
  discounted : Nat

namespace Journey

def isOver (journey : Journey) : Bool :=
  journey.place.leg.isOver

/-- A loop takes a step with the message itself. -/
def moved (journey : Journey) (after : Link) (place : Place) : Journey :=
  { journey with
    link := after
    place := place
    discounted := journey.discounted +
      (journey.link.node.unacked - after.node.unacked) }

/-- The link takes a step without the message, which may advance in its
queue. -/
def passed (journey : Journey) (after : Link) (place : Place) : Journey :=
  { journey with link := after, place := place }

def viaSender (journey : Journey) (after : Link) : Journey :=
  let now := journey.link.node.now
  match journey.place, journey.link.flight with
  | .flying, _ =>
      { journey.moved after
          (.parked journey.link.node.retransmissions.toList.length) with
        parkings := journey.parkings ++ [now] }
  | .queued 0, none =>
      if after.flight.isSome then
        { journey.moved after .flying with
          departures := journey.departures ++ [now] }
      else journey.moved after .abandoned
  | .queued (ahead + 1), none => journey.passed after (.queued ahead)
  | place, _ => journey.passed after place

def viaRetransmitter (journey : Journey) (after : Link) : Journey :=
  let node := journey.link.node
  match journey.place, journey.link.held with
  | .held, _ =>
      if node.isAcknowledged journey.message then
        journey.moved after (.settled node.now)
      else
        { journey.moved after (.queued node.sending.toList.length) with
          returns := journey.returns ++ [node.now] }
  | .parked 0, none =>
      if node.isAcknowledged journey.message then
        journey.moved after (.settled node.now)
      else journey.moved after .held
  | .parked (ahead + 1), none => journey.passed after (.parked ahead)
  | place, _ => journey.passed after place

/-- Whether the retransmitter looks at the message in its next step. -/
def isLookedAt (journey : Journey) : Bool :=
  match journey.place with
  | .held => true
  | .parked 0 => journey.link.held.isNone
  | _ => false

/-- One step of the link, as the journey notes it down. -/
inductive Step (pace : Link → Prop) (journey : Journey) : Journey → Prop where
  | stir {after : Link} (stir : journey.link.Stir after) :
      Step pace journey (journey.passed after journey.place)
  | sender {after : Link} {outcomes : List (Option Mishap)}
      {datagrams : List Datagram}
      (step : journey.link.stepSender outcomes = some (after, datagrams)) :
      Step pace journey (journey.viaSender after)
  | retransmitter {after : Link}
      (step : journey.link.stepRetransmitter = some after) :
      Step pace journey (journey.viaRetransmitter after)
  | tick (passes : pace journey.link) :
      Step pace journey (journey.passed journey.link.tick journey.place)

/-- A journey begins with any data that a link holds. -/
structure Begins (pace : Link → Prop) (origin : Link) (journey : Journey) :
    Prop where
  reached : Relation.ReflTransGen (Link.Step pace) origin journey.link
  found : journey.link.at? journey.place = some journey.message
  data : journey.message.isData = true
  departures : journey.departures = []
  parkings : journey.parkings = []
  returns : journey.returns = []
  discounted : journey.discounted = 0

/-- The message is where the journey says, as far as the link tells messages
apart. -/
def Carries (journey : Journey) : Prop :=
  journey.isOver = true ∨ ∃ message,
    journey.link.at? journey.place = some message ∧
      message.Alike journey.message

/-- What a step can mean to the message that is followed. -/
inductive Move (journey after : Journey) : Prop where
  /-- The step is about others, or the retransmitter takes the message up. -/
  | rest
      (same : after.departures = journey.departures ∧
        after.parkings = journey.parkings ∧ after.returns = journey.returns)
      (leg : after.place.leg = journey.place.leg)
      (kept : ∀ message, journey.link.at? journey.place = some message →
        after.link.at? after.place = some message)
      (discounted : after.discounted = journey.discounted)
  /-- The sender begins to transmit it. -/
  | depart {message stamped : Message}
      (before : journey.link.at? journey.place = some message)
      (leg : journey.place.leg = .queued)
      (eq : after = { journey.moved after.link .flying with
        departures := journey.departures ++ [journey.link.node.now] })
      (behind : after.link.at? after.place = some stamped)
      (alike : stamped.Alike message)
      (unacked : after.link.node.unacked = journey.link.node.unacked)
  /-- The sender drops it. -/
  | abandon (leg : journey.place.leg = .queued)
      (eq : after = journey.moved after.link .abandoned)
      (unacked : after.link.node.unacked + 1 = journey.link.node.unacked)
  /-- The sender has transmitted it, and parks it. -/
  | park {message : Message} {ahead : Nat}
      (before : journey.link.at? journey.place = some message)
      (leg : journey.place.leg = .flying)
      (eq : after = { journey.moved after.link (.parked ahead) with
        parkings := journey.parkings ++ [journey.link.node.now] })
      (behind : after.link.at? after.place =
        some (message.transmitted journey.link.node.now))
      (unacked : after.link.node.unacked = journey.link.node.unacked)
  /-- The retransmitter drops it. -/
  | settle {message : Message}
      (before : journey.link.at? journey.place = some message)
      (leg : journey.place.leg = .waiting)
      (seen : journey.link.node.isAcknowledged journey.message = true)
      (eq : after =
        journey.moved after.link (.settled journey.link.node.now))
      (unacked : after.link.node.unacked + 1 = journey.link.node.unacked)
  /-- The retransmitter puts it back. -/
  | requeue {message : Message} {ahead : Nat}
      (before : journey.link.at? journey.place = some message)
      (leg : journey.place.leg = .waiting)
      (unseen : journey.link.node.isAcknowledged journey.message = false)
      (due : journey.link.node.timer.deadline message.sentAt ≤
        journey.link.node.now)
      (eq : after = { journey.moved after.link (.queued ahead) with
        returns := journey.returns ++ [journey.link.node.now] })
      (behind : after.link.at? after.place = some message)
      (unacked : after.link.node.unacked = journey.link.node.unacked)

/-! ## The steps of a journey -/

theorem getElem?_of_isPrefix {α : Type} {left right : List α} {index : Nat}
    {item : α} (initial : left <+: right) (found : left[index]? = some item) :
    right[index]? = some item := by
  obtain ⟨more, rfl⟩ := initial
  have inRange := (List.getElem?_eq_some_iff.mp found).1
  rw [List.getElem?_append_left inRange]
  exact found

theorem unacked_pos_of_found {link : Link} {place : Place} {message : Message}
    (counted : link.Counted) (found : link.at? place = some message)
    (data : message.isData = true) : 0 < link.node.unacked := by
  have carried : message ∈ link.pipeline := by
    rw [Link.mem_pipeline]
    cases place with
    | queued ahead => exact .inl (List.mem_of_getElem? found)
    | flying =>
        right
        left
        exact Option.mem_toList.mpr found
    | parked ahead => exact .inr (.inr (.inl (List.mem_of_getElem? found)))
    | held => exact .inr (.inr (.inr (Option.mem_toList.mpr found)))
    | settled | abandoned => contradiction
  rw [counted.unacked_eq]
  exact List.countP_pos_iff.mpr ⟨message, carried, data⟩

section Moves

variable {journey : Journey} {after : Link}

theorem Move.ofPassed {place : Place} (leg : place.leg = journey.place.leg)
    (kept : ∀ message, journey.link.at? journey.place = some message →
      after.at? place = some message) :
    Move journey (journey.passed after place) :=
  .rest ⟨rfl, rfl, rfl⟩ leg kept rfl

theorem at?_of_isOver (gone : journey.isOver = true) (link : Link) :
    link.at? journey.place = none := by
  unfold isOver at gone
  cases place : journey.place with
  | settled | abandoned => rfl
  | queued | flying | parked | held =>
      rw [place] at gone
      contradiction

theorem Move.ofOver (gone : journey.isOver = true) :
    Move journey (journey.passed after journey.place) := by
  refine .ofPassed rfl ?_
  intro message found
  rw [at?_of_isOver gone] at found
  contradiction

theorem Carries.exists_found (carries : journey.Carries)
    (underWay : journey.isOver = false) :
    ∃ message, journey.link.at? journey.place = some message ∧
      message.Alike journey.message :=
  carries.resolve_left (Bool.eq_false_iff.mp underWay)

theorem Carries.alike {message : Message} (carries : journey.Carries)
    (found : journey.link.at? journey.place = some message) :
    message.Alike journey.message := by
  rcases carries with gone | ⟨carried, isCarried, alike⟩
  · rw [at?_of_isOver gone] at found
    contradiction
  · rw [found] at isCarried
    rw [Option.some.inj isCarried]
    exact alike

theorem Carries.isData {message : Message} (carries : journey.Carries)
    (found : journey.link.at? journey.place = some message)
    (data : journey.message.isData = true) : message.isData = true := by
  rw [(carries.alike found).isData_eq]
  exact data

theorem move_of_stirred (stirred : Link.Stirred journey.link after) :
    Move journey (journey.passed after journey.place) := by
  refine .ofPassed rfl ?_
  intro message found
  cases place : journey.place with
  | queued ahead =>
      rw [place] at found
      exact getElem?_of_isPrefix stirred.queued found
  | flying | parked | held | settled | abandoned =>
      simpa only [Link.at?, stirred.flight_eq, stirred.held_eq,
        stirred.retransmissions_eq, place] using found

theorem move_of_taken {taken : Message} {rest : List Message}
    (carries : journey.Carries) (empty : journey.link.flight = none)
    (order : journey.link.node.sending.toList = taken :: rest)
    (sending : after.node.sending.toList = rest)
    (retransmissions : after.node.retransmissions =
      journey.link.node.retransmissions)
    (held : after.held = journey.link.held)
    (other : journey.place ≠ .queued 0) :
    Move journey (journey.viaSender after) := by
  cases place : journey.place with
  | queued ahead =>
      cases ahead with
      | zero => exact absurd place other
      | succ ahead =>
          have step : journey.viaSender after =
              journey.passed after (.queued ahead) := by
            simp [viaSender, place, empty]
          rw [step]
          refine .ofPassed (by rw [place]; rfl) ?_
          intro message found
          rw [place] at found
          simpa [Link.at?, order, sending] using found
  | flying =>
      have underWay : journey.isOver = false := by
        rw [isOver, place]
        rfl
      obtain ⟨message, found, _⟩ := carries.exists_found underWay
      simp [place, Link.at?, empty] at found
  | parked | held =>
      have step : journey.viaSender after =
          journey.passed after journey.place := by
        simp [viaSender, place]
      rw [step]
      refine .ofPassed rfl ?_
      simp only [place, Link.at?, retransmissions, held, imp_self, implies_true]
  | settled | abandoned =>
      have step : journey.viaSender after =
          journey.passed after journey.place := by
        simp [viaSender, place]
      rw [step]
      exact .ofOver (by rw [isOver, place]; rfl)

theorem move_of_landed {flight : Flight}
    (flying : journey.link.flight = some flight)
    (sending : after.node.sending = journey.link.node.sending)
    (retransmissions : journey.link.node.retransmissions.toList <+:
      after.node.retransmissions.toList)
    (held : after.held = journey.link.held)
    (other : journey.place ≠ .flying) :
    Move journey (journey.viaSender after) := by
  have step : journey.viaSender after =
      journey.passed after journey.place := by
    cases place : journey.place with
    | queued ahead => cases ahead <;> simp [viaSender, place, flying]
    | flying => exact absurd place other
    | parked | held | settled | abandoned => simp [viaSender, place]
  rw [step]
  cases place : journey.place with
  | flying => exact absurd place other
  | settled | abandoned =>
      rw [← place]
      exact .ofOver (by rw [isOver, place]; rfl)
  | queued | held =>
      rw [← place]
      refine .ofPassed rfl ?_
      simp only [place, Link.at?, sending, held, imp_self, implies_true]
  | parked ahead =>
      refine .ofPassed (by rw [place]) ?_
      intro message found
      rw [place] at found
      exact getElem?_of_isPrefix retransmissions found

theorem move_of_senderMove {datagrams : List Datagram}
    (carries : journey.Carries) (data : journey.message.isData = true)
    (counted : journey.link.Counted)
    (move : Link.SenderMove journey.link after datagrams) :
    Move journey (journey.viaSender after) := by
  cases move with
  | @abandon message rest empty order _ departure node_eq flight_eq held_eq =>
      by_cases first : journey.place = .queued 0
      case neg =>
          apply move_of_taken carries empty order _ _ held_eq first
          · rw [node_eq, Node.sending_discountUnacked]
          · rw [node_eq, Node.retransmissions_discountUnacked]
      case pos =>
          have found : journey.link.at? journey.place = some message := by
            simp [first, Link.at?, order]
          have isData := carries.isData found data
          have positive := unacked_pos_of_found counted found isData
          have step : journey.viaSender after =
              journey.moved after .abandoned := by
            simp [viaSender, first, empty, flight_eq]
          rw [step]
          refine .abandon (by rw [first]; rfl) rfl ?_
          change after.node.unacked + 1 = _
          rw [node_eq, Node.unacked_discountUnacked]
          simp only [List.countP_singleton, isData, if_true]
          exact Nat.sub_add_cancel positive
  | @depart message stamped rest datagram arrivesAt empty order _ departure
      node_eq flight_eq held_eq =>
      by_cases first : journey.place = .queued 0
      case neg =>
          apply move_of_taken carries empty order _ _ held_eq first
          · rw [node_eq]
          · rw [node_eq]
      case pos =>
          have found : journey.link.at? journey.place = some message := by
            simp [first, Link.at?, order]
          have step : journey.viaSender after =
              { journey.moved after .flying with
                departures :=
                  journey.departures ++ [journey.link.node.now] } := by
            simp [viaSender, first, empty, flight_eq]
          have behind : after.at? .flying = some stamped := by
            simp [Link.at?, flight_eq]
          have alike : stamped.Alike message := by
            rw [Node.stamped_of_leaving departure]
            exact ⟨rfl, rfl, rfl⟩
          rw [step]
          refine .depart found (by rw [first]; rfl) rfl behind alike ?_
          change after.node.unacked = _
          rw [node_eq]
  | @forget flight flying ack node_eq flight_eq held_eq =>
      apply move_of_landed flying _ _ held_eq
      · intro inHand
        have found : journey.link.at? journey.place = some flight.message := by
          simp [inHand, Link.at?, flying]
        have isData := carries.isData found data
        simp [Message.isData, ack] at isData
      · rw [node_eq]
      · simp only [node_eq, List.prefix_rfl]
  | @park flight parked flying isData items _ node_eq flight_eq held_eq =>
      by_cases inHand : journey.place = .flying
      case neg =>
          apply move_of_landed flying _ _ held_eq inHand
          · rw [node_eq]
          · rw [node_eq]
            change _ <+: parked.toList
            rw [items]
            exact List.prefix_append _ _
      case pos =>
          have found : journey.link.at? journey.place = some flight.message := by
            simp [inHand, Link.at?, flying]
          have step : journey.viaSender after =
              { journey.moved after
                  (.parked journey.link.node.retransmissions.toList.length) with
                parkings := journey.parkings ++ [journey.link.node.now] } := by
            simp [viaSender, inHand]
          rw [step]
          refine .park found (by rw [inHand]; rfl) rfl ?_ ?_
          · simp [moved, Link.at?, node_eq, items]
          · change after.node.unacked = _
            rw [node_eq]

theorem move_of_next {next : Message} {rest : List Message}
    (carries : journey.Carries) (empty : journey.link.held = none)
    (order : journey.link.node.retransmissions.toList = next :: rest)
    (retransmissions : after.node.retransmissions.toList = rest)
    (sending : after.node.sending = journey.link.node.sending)
    (flight : after.flight = journey.link.flight)
    (other : journey.place ≠ .parked 0) :
    Move journey (journey.viaRetransmitter after) := by
  cases place : journey.place with
  | parked ahead =>
      cases ahead with
      | zero => exact absurd place other
      | succ ahead =>
          have step : journey.viaRetransmitter after =
              journey.passed after (.parked ahead) := by
            simp [viaRetransmitter, place, empty]
          rw [step]
          refine .ofPassed (by rw [place]; rfl) ?_
          intro message found
          rw [place] at found
          simpa [Link.at?, order, retransmissions] using found
  | held =>
      have underWay : journey.isOver = false := by
        rw [isOver, place]
        rfl
      obtain ⟨message, found, _⟩ := carries.exists_found underWay
      simp [place, Link.at?, empty] at found
  | queued | flying =>
      have step : journey.viaRetransmitter after =
          journey.passed after journey.place := by
        simp [viaRetransmitter, place]
      rw [step]
      refine .ofPassed rfl ?_
      simp only [place, Link.at?, sending, flight, imp_self, implies_true]
  | settled | abandoned =>
      have step : journey.viaRetransmitter after =
          journey.passed after journey.place := by
        simp [viaRetransmitter, place]
      rw [step]
      exact .ofOver (by rw [isOver, place]; rfl)

theorem move_of_released {other : Message}
    (holding : journey.link.held = some other)
    (sending : journey.link.node.sending.toList <+:
      after.node.sending.toList)
    (retransmissions : after.node.retransmissions =
      journey.link.node.retransmissions)
    (flight : after.flight = journey.link.flight)
    (elsewhere : journey.place ≠ .held) :
    Move journey (journey.viaRetransmitter after) := by
  have step : journey.viaRetransmitter after =
      journey.passed after journey.place := by
    cases place : journey.place with
    | parked ahead =>
        cases ahead <;> simp [viaRetransmitter, place, holding]
    | held => exact absurd place elsewhere
    | queued | flying | settled | abandoned => simp [viaRetransmitter, place]
  rw [step]
  cases place : journey.place with
  | held => exact absurd place elsewhere
  | settled | abandoned =>
      rw [← place]
      exact .ofOver (by rw [isOver, place]; rfl)
  | parked | flying =>
      rw [← place]
      refine .ofPassed rfl ?_
      simp only [place, Link.at?, retransmissions, flight, imp_self,
        implies_true]
  | queued ahead =>
      refine .ofPassed (by rw [place]) ?_
      intro message found
      rw [place] at found
      exact getElem?_of_isPrefix sending found

end Moves

variable {journey : Journey} {after : Link}

theorem leg_of_isLookedAt (looked : journey.isLookedAt = true) :
    journey.place.leg = .waiting := by
  unfold isLookedAt at looked
  split at looked
  case h_1 place => rw [place]; rfl
  case h_2 place => rw [place]; rfl
  case h_3 => contradiction

/-- Whatever the retransmitter looks at, it drops at once if its recipient is
known to have seen it. -/
theorem viaRetransmitter_of_seen (looked : journey.isLookedAt = true)
    (seen : journey.link.node.isAcknowledged journey.message = true) :
    journey.viaRetransmitter after =
      journey.moved after (.settled journey.link.node.now) := by
  unfold isLookedAt at looked
  split at looked
  case h_1 place => simp [viaRetransmitter, place, seen]
  case h_2 place =>
      have empty : journey.link.held = none := by simpa using looked
      simp [viaRetransmitter, place, empty, seen]
  case h_3 => contradiction

theorem move_of_retransmitterMove (carries : journey.Carries)
    (data : journey.message.isData = true) (counted : journey.link.Counted)
    (step : journey.link.stepRetransmitter = some after) :
    Move journey (journey.viaRetransmitter after) := by
  have same {message : Message}
      (found : journey.link.at? journey.place = some message) :
      journey.link.node.isAcknowledged journey.message =
        journey.link.node.isAcknowledged message :=
    (carries.alike found).isAcknowledged_eq.symm
  cases Link.retransmitterMove_of_stepRetransmitter step with
  | @settleNext message rest empty order _ seen node_eq flight_eq held_eq =>
      by_cases first : journey.place = .parked 0
      case neg =>
          apply move_of_next carries empty order _ _ flight_eq first
          · rw [node_eq]
            rfl
          · rw [node_eq]
            rfl
      case pos =>
          have found : journey.link.at? journey.place = some message := by
            simp [first, Link.at?, order]
          have isData := carries.isData found data
          have positive := unacked_pos_of_found counted found isData
          have known := (same found).trans seen
          have looked : journey.isLookedAt = true := by
            simp [isLookedAt, first, empty]
          rw [viaRetransmitter_of_seen looked known]
          refine .settle found (by rw [first]; rfl) known rfl ?_
          change after.node.unacked + 1 = _
          rw [node_eq]
          exact Nat.sub_add_cancel positive
  | @hold message rest empty order _ unseen node_eq flight_eq held_eq =>
      by_cases first : journey.place = .parked 0
      case neg =>
          apply move_of_next carries empty order _ _ flight_eq first
          · rw [node_eq]
          · rw [node_eq]
      case pos =>
          have found : journey.link.at? journey.place = some message := by
            simp [first, Link.at?, order]
          have unknown := (same found).trans unseen
          have step : journey.viaRetransmitter after =
              journey.moved after .held := by
            simp [viaRetransmitter, first, empty, unknown]
          rw [step]
          refine .rest ⟨rfl, rfl, rfl⟩ (by rw [first]; rfl) ?_ ?_
          · intro other isOther
            rw [found] at isOther
            rw [← isOther]
            exact held_eq
          · simp [moved, node_eq]
  | @settleHeld message holding seen node_eq flight_eq held_eq =>
      by_cases inHand : journey.place = .held
      case neg =>
          apply move_of_released holding _ _ flight_eq inHand
          · rw [node_eq]
            exact List.prefix_rfl
          · rw [node_eq]
            rfl
      case pos =>
          have found : journey.link.at? journey.place = some message := by
            simp [inHand, Link.at?, holding]
          have isData := carries.isData found data
          have positive := unacked_pos_of_found counted found isData
          have known := (same found).trans seen
          have looked : journey.isLookedAt = true := by
            simp [isLookedAt, inHand]
          rw [viaRetransmitter_of_seen looked known]
          refine .settle found (by rw [inHand]; rfl) known rfl ?_
          change after.node.unacked + 1 = _
          rw [node_eq]
          exact Nat.sub_add_cancel positive
  | @requeue message filled holding unseen items _ node_eq flight_eq held_eq =>
      by_cases inHand : journey.place = .held
      case neg =>
          apply move_of_released holding _ _ flight_eq inHand
          · rw [node_eq]
            change _ <+: filled.toList
            rw [items]
            exact List.prefix_append _ _
          · rw [node_eq]
      case pos =>
          have found : journey.link.at? journey.place = some message := by
            simp [inHand, Link.at?, holding]
          have unknown := (same found).trans unseen
          have due := Link.due_of_stepRetransmitter holding step
          have back : journey.viaRetransmitter after =
              { journey.moved after
                  (.queued journey.link.node.sending.toList.length) with
                returns := journey.returns ++ [journey.link.node.now] } := by
            simp [viaRetransmitter, inHand, unknown]
          rw [back]
          refine .requeue found (by rw [inHand]; rfl) unknown due rfl ?_ ?_
          · simp [moved, Link.at?, node_eq, items]
          · change after.node.unacked = _
            rw [node_eq]

/-! ## Runs -/

theorem link_viaSender : (journey.viaSender after).link = after := by
  unfold viaSender
  dsimp only
  split
  · rfl
  · split <;> rfl
  · rfl
  · rfl

theorem link_viaRetransmitter :
    (journey.viaRetransmitter after).link = after := by
  unfold viaRetransmitter
  dsimp only
  split
  · split <;> rfl
  · split <;> rfl
  · rfl
  · rfl

theorem message_viaSender :
    (journey.viaSender after).message = journey.message := by
  unfold viaSender
  dsimp only
  split
  · rfl
  · split <;> rfl
  · rfl
  · rfl

theorem message_viaRetransmitter :
    (journey.viaRetransmitter after).message = journey.message := by
  unfold viaRetransmitter
  dsimp only
  split
  · split <;> rfl
  · split <;> rfl
  · rfl
  · rfl

/-- A step of a journey is a step of its link. -/
theorem Step.link {pace : Link → Prop} {next : Journey}
    (step : Step pace journey next) : Link.Step pace journey.link next.link := by
  cases step with
  | stir stir => exact .stir stir
  | sender step =>
      rw [link_viaSender]
      exact .sender step
  | retransmitter step =>
      rw [link_viaRetransmitter]
      exact .retransmitter step
  | tick passes => exact .tick passes

theorem Step.message_eq {pace : Link → Prop} {next : Journey}
    (step : Step pace journey next) : next.message = journey.message := by
  cases step with
  | stir | tick => rfl
  | sender => exact message_viaSender
  | retransmitter => exact message_viaRetransmitter

/-- A journey whose diary is right: the message is where it should be, and the
count of data was lowered for it by one exactly if it has left the link. -/
structure Sound (journey : Journey) : Prop where
  proper : journey.link.node.Proper
  counted : journey.link.Counted
  data : journey.message.isData = true
  carries : journey.Carries
  discounted_eq : journey.discounted = if journey.isOver then 1 else 0

theorem Begins.sound {pace : Link → Prop} {origin : Link}
    (begins : journey.Begins pace origin) (fresh : origin.Fresh) :
    journey.Sound := by
  obtain ⟨proper, counted⟩ := fresh.steps_keep begins.reached
  refine ⟨proper, counted, begins.data,
    .inr ⟨_, begins.found, .refl _⟩, ?_⟩
  have under : journey.isOver = false := by
    have found := begins.found
    cases place : journey.place <;>
      simp_all [isOver, Place.leg, Leg.isOver, Link.at?]
  rw [begins.discounted, under]
  rfl

theorem Sound.move {pace : Link → Prop} {next : Journey}
    (sound : journey.Sound) (step : Step pace journey next) :
    Move journey next := by
  cases step with
  | stir stir => exact move_of_stirred (stir.stirred sound.proper)
  | sender step =>
      exact move_of_senderMove sound.carries sound.data sound.counted
        (Link.senderMove_of_stepSender step)
  | retransmitter step =>
      exact move_of_retransmitterMove sound.carries sound.data sound.counted step
  | tick =>
      exact .ofPassed rfl fun _ found => found

theorem Move.carries {next : Journey} (move : Move journey next)
    (carries : journey.Carries) (same : next.message = journey.message) :
    next.Carries := by
  cases move with
  | rest _ leg kept =>
      rcases carries with gone | ⟨message, found, alike⟩
      · left
        rw [isOver, leg]
        exact gone
      · right
        rw [same]
        exact ⟨message, kept message found, alike⟩
  | @depart message stamped before _ _ behind alike =>
      right
      rw [same]
      exact ⟨stamped, behind, alike.trans (carries.alike before)⟩
  | abandon _ eq =>
      left
      rw [eq]
      rfl
  | @park message ahead before _ _ behind =>
      right
      rw [same]
      have parked : (message.transmitted journey.link.node.now).Alike message :=
        ⟨rfl, rfl, rfl⟩
      exact ⟨_, behind, parked.trans (carries.alike before)⟩
  | settle _ _ _ eq =>
      left
      rw [eq]
      rfl
  | @requeue message ahead before _ _ _ _ behind =>
      right
      rw [same]
      exact ⟨message, behind, carries.alike before⟩

theorem Move.discounted_eq {next : Journey} (move : Move journey next)
    (right : journey.discounted = if journey.isOver then 1 else 0) :
    next.discounted = if next.isOver then 1 else 0 := by
  have under {leg : Leg} (on : journey.place.leg = leg)
      (open' : leg.isOver = false) : journey.discounted = 0 := by
    rw [right, isOver, on, open']
    rfl
  cases move with
  | rest _ leg _ discounted => rw [discounted, right, isOver, isOver, leg]
  | depart _ leg eq _ _ unacked =>
      rw [eq]
      simp [moved, under leg rfl, unacked, isOver, Place.leg, Leg.isOver]
  | abandon leg eq unacked =>
      rw [eq]
      simp [moved, under leg rfl, ← unacked, isOver, Place.leg, Leg.isOver]
  | park _ leg eq _ unacked =>
      rw [eq]
      simp [moved, under leg rfl, unacked, isOver, Place.leg, Leg.isOver]
  | settle _ leg _ eq unacked =>
      rw [eq]
      simp [moved, under leg rfl, ← unacked, isOver, Place.leg, Leg.isOver]
  | requeue _ leg _ _ eq _ unacked =>
      rw [eq]
      simp [moved, under leg rfl, unacked, isOver, Place.leg, Leg.isOver]

theorem Sound.step {pace : Link → Prop} {next : Journey}
    (sound : journey.Sound) (step : Step pace journey next) : next.Sound := by
  have move := sound.move step
  obtain ⟨proper, counted⟩ := step.link.keeps sound.proper sound.counted
  refine ⟨proper, counted, ?_, move.carries sound.carries step.message_eq,
    move.discounted_eq sound.discounted_eq⟩
  rw [step.message_eq]
  exact sound.data

theorem Sound.steps {pace : Link → Prop} {last : Journey}
    (sound : journey.Sound)
    (steps : Relation.ReflTransGen (Step pace) journey last) : last.Sound := by
  induction steps with
  | refl => exact sound
  | tail _ step induction => exact induction.step step

theorem message_of_steps {pace : Link → Prop} {last : Journey}
    (steps : Relation.ReflTransGen (Step pace) journey last) :
    last.message = journey.message := by
  induction steps with
  | refl => rfl
  | tail _ step induction => exact step.message_eq.trans induction

end Journey

end CausalCast
