import CausalCast.Proofs.Link.Deadlines
import CausalCast.Proofs.Link.Journeys

/-!
# Punctuality

A message that nobody acknowledges goes back into the sending queue exactly one
offset after its last transmission was over, neither earlier nor later, and
whatever else waits in the queues.  So the diary of a journey that began in the
sending queue is determined by the times at which the message was parked: each
of them is followed by a return at its deadline, except that the last one may
still have to be, or never will be since the message was settled by then.
-/

namespace CausalCast

namespace Journey

/-- Each time the message was parked it was put back exactly at the deadline. -/
def Returned (timer : RetransmitTimer) (journey : Journey) : Prop :=
  journey.returns = journey.parkings.map timer.deadline

/-- The message was last parked at some time and not put back since.  Each time
before it was put back exactly at the deadline. -/
def ReturnedBefore (timer : RetransmitTimer) (journey : Journey)
    (parked : Nat) : Prop :=
  ∃ earlier, journey.parkings = earlier ++ [parked] ∧
    journey.returns = earlier.map timer.deadline

/-- What the diary of a journey that began in the sending queue says, leg by
leg. -/
inductive Phase (timer : RetransmitTimer) (journey : Journey) : Prop where
  | queued (leg : journey.place.leg = .queued)
      (returned : journey.Returned timer)
      (rested : ∀ departed ∈ journey.departures,
        timer.deadline departed ≤ journey.link.node.now)
  | flying (leg : journey.place.leg = .flying)
      (returned : journey.Returned timer)
      (begun : ∀ departed ∈ journey.departures,
        departed ≤ journey.link.node.now)
  | waiting {message : Message} (leg : journey.place.leg = .waiting)
      (found : journey.link.at? journey.place = some message)
      (returned : journey.ReturnedBefore timer message.sentAt)
      (begun : ∀ departed ∈ journey.departures, departed ≤ message.sentAt)
  | settled {time parked : Nat} (leg : journey.place.leg = .settled time)
      (returned : journey.ReturnedBefore timer parked)
      (inTime : time ≤ timer.deadline parked)
      (seen : journey.link.node.isAcknowledged journey.message = true)
  | abandoned (leg : journey.place.leg = .abandoned)
      (returned : journey.Returned timer)

/-- A journey on which the offset was kept: its transmissions are apart, and its
diary is in order. -/
structure Punctual (timer : RetransmitTimer) (journey : Journey) : Prop where
  timer_eq : journey.link.node.timer = timer
  spaced : journey.departures.Pairwise fun earlier later =>
    timer.deadline earlier ≤ later
  phase : journey.Phase timer

theorem Begins.punctual {pace : Link → Prop} {origin : Link}
    {journey : Journey} (begins : journey.Begins pace origin)
    (queued : journey.place.leg = .queued) :
    journey.Punctual journey.link.node.timer := by
  refine ⟨rfl, ?_, .queued queued ?_ ?_⟩
  · rw [begins.departures]
    exact List.Pairwise.nil
  · rw [Returned, begins.returns, begins.parkings]
    rfl
  · simp [begins.departures]

theorem mem_awaiting {journey : Journey} {message : Message}
    (leg : journey.place.leg = .waiting)
    (found : journey.link.at? journey.place = some message) :
    message ∈ journey.link.awaiting := by
  cases place : journey.place with
  | parked ahead =>
      rw [place] at found
      exact List.mem_append_right _ (List.mem_of_getElem? found)
  | held =>
      rw [place] at found
      exact List.mem_append_left _ (Option.mem_toList.mpr found)
  | queued | flying | settled | abandoned =>
      rw [place] at leg
      contradiction

variable {timer : RetransmitTimer} {journey after : Journey}

theorem Phase.rest (phase : journey.Phase timer)
    (departures : after.departures = journey.departures)
    (parkings : after.parkings = journey.parkings)
    (returns : after.returns = journey.returns)
    (leg : after.place.leg = journey.place.leg)
    (kept : ∀ message, journey.link.at? journey.place = some message →
      after.link.at? after.place = some message)
    (ages : Link.Ages journey.link after.link)
    (same : after.message = journey.message) : after.Phase timer := by
  have returned (all : journey.Returned timer) : after.Returned timer := by
    rw [Returned, returns, parkings]
    exact all
  have returnedBefore {parked : Nat}
      (others : journey.ReturnedBefore timer parked) :
      after.ReturnedBefore timer parked := by
    rw [ReturnedBefore, returns, parkings]
    exact others
  cases phase with
  | queued on all rested =>
      refine .queued (leg.trans on) (returned all) ?_
      rw [departures]
      intro departed member
      exact Nat.le_trans (rested departed member) ages.now_le
  | flying on all begun =>
      refine .flying (leg.trans on) (returned all) ?_
      rw [departures]
      intro departed member
      exact Nat.le_trans (begun departed member) ages.now_le
  | waiting on found others begun =>
      refine .waiting (leg.trans on) (kept _ found) (returnedBefore others) ?_
      rw [departures]
      exact begun
  | settled on others inTime seen =>
      refine .settled (leg.trans on) (returnedBefore others) inTime ?_
      rw [same]
      exact ages.contains _ _ seen
  | abandoned on all => exact .abandoned (leg.trans on) (returned all)

theorem Phase.of_queued (phase : journey.Phase timer)
    (leg : journey.place.leg = .queued) :
    journey.Returned timer ∧ ∀ departed ∈ journey.departures,
      timer.deadline departed ≤ journey.link.node.now := by
  cases phase with
  | queued _ returned rested => exact ⟨returned, rested⟩
  | flying on | waiting on | settled on | abandoned on =>
      rw [leg] at on
      contradiction

theorem Phase.of_flying (phase : journey.Phase timer)
    (leg : journey.place.leg = .flying) :
    journey.Returned timer ∧ ∀ departed ∈ journey.departures,
      departed ≤ journey.link.node.now := by
  cases phase with
  | flying _ returned begun => exact ⟨returned, begun⟩
  | queued on | waiting on | settled on | abandoned on =>
      rw [leg] at on
      contradiction

theorem Phase.of_waiting (phase : journey.Phase timer) {message : Message}
    (leg : journey.place.leg = .waiting)
    (found : journey.link.at? journey.place = some message) :
    journey.ReturnedBefore timer message.sentAt ∧
      ∀ departed ∈ journey.departures, departed ≤ message.sentAt := by
  cases phase with
  | waiting _ isFound returned begun =>
      rw [found] at isFound
      obtain rfl := Option.some.inj isFound
      exact ⟨returned, begun⟩
  | queued on | flying on | settled on | abandoned on =>
      rw [leg] at on
      contradiction

theorem Punctual.move (punctual : journey.Punctual timer)
    (move : Move journey after) (timely : journey.link.Timely)
    (ages : Link.Ages journey.link after.link)
    (same : after.message = journey.message) : after.Punctual timer := by
  have timer_eq := ages.timer_eq.trans punctual.timer_eq
  have phase := punctual.phase
  cases move with
  | rest diary leg kept =>
      obtain ⟨departures, parkings, returns⟩ := diary
      refine ⟨timer_eq, ?_,
        phase.rest departures parkings returns leg kept ages same⟩
      rw [departures]
      exact punctual.spaced
  | depart _ leg eq =>
      obtain ⟨returned, rested⟩ := phase.of_queued leg
      have departures : after.departures =
          journey.departures ++ [journey.link.node.now] :=
        congrArg Journey.departures eq
      have now : Journey.Returned timer after := by
        rw [eq]
        exact returned
      refine ⟨timer_eq, ?_, .flying ?_ now ?_⟩
      · rw [departures]
        apply List.pairwise_append.mpr
        refine ⟨punctual.spaced, List.pairwise_singleton _ _, ?_⟩
        intro earlier member later isLast
        rw [List.mem_singleton.mp isLast]
        exact rested earlier member
      · rw [eq]
        rfl
      · rw [departures]
        intro departed member
        apply Nat.le_trans _ ages.now_le
        rcases List.mem_append.mp member with old | new
        · exact Nat.le_trans (Nat.le_add_right _ _) (rested departed old)
        · exact Nat.le_of_eq (List.mem_singleton.mp new)
  | abandon leg eq =>
      obtain ⟨returned, _⟩ := phase.of_queued leg
      refine ⟨timer_eq, ?_, .abandoned ?_ ?_⟩
      · rw [eq]
        exact punctual.spaced
      · rw [eq]
        rfl
      · rw [eq]
        exact returned
  | @park message ahead _ leg eq behind =>
      obtain ⟨returned, begun⟩ := phase.of_flying leg
      refine ⟨timer_eq, ?_, .waiting ?_ behind ⟨journey.parkings, ?_, ?_⟩ ?_⟩
      · rw [eq]
        exact punctual.spaced
      · rw [eq]
        rfl
      · rw [eq]
        rfl
      · rw [eq]
        exact returned
      · rw [eq]
        exact begun
  | settle found leg seen eq =>
      obtain ⟨others, _⟩ := phase.of_waiting leg found
      have inTime := timely.inTime _ (mem_awaiting leg found)
      rw [punctual.timer_eq] at inTime
      refine ⟨timer_eq, ?_, .settled ?_ ?_ inTime ?_⟩
      · rw [eq]
        exact punctual.spaced
      · rw [eq]
        rfl
      · rw [eq]
        exact others
      · rw [same]
        exact ages.contains _ _ seen
  | @requeue message ahead found leg _ due eq =>
      obtain ⟨⟨earlier, parkings, returns⟩, begun⟩ := phase.of_waiting leg found
      have inTime := timely.inTime _ (mem_awaiting leg found)
      have now_eq : journey.link.node.now = timer.deadline message.sentAt := by
        rw [← punctual.timer_eq]
        exact Nat.le_antisymm inTime due
      refine ⟨timer_eq, ?_, .queued ?_ ?_ ?_⟩
      · rw [eq]
        exact punctual.spaced
      · rw [eq]
        rfl
      · rw [eq, Returned]
        simp [moved, parkings, returns, now_eq]
      · intro departed member
        apply Nat.le_trans _ ages.now_le
        rw [now_eq]
        apply Nat.add_le_add_right
        apply begun departed
        rw [eq] at member
        exact member

/-- A journey that began in the sending queue is punctual as long as time passes
only while both loops wait. -/
theorem Sound.punctual {start last : Journey} (sound : start.Sound)
    (timely : start.link.Timely) (punctual : start.Punctual timer)
    (steps : Relation.ReflTransGen (Step Link.Waits) start last) :
    last.link.Timely ∧ last.Punctual timer := by
  induction steps with
  | refl => exact ⟨timely, punctual⟩
  | tail earlier step induction =>
      obtain ⟨timelyThen, punctualThen⟩ := induction
      have middle := sound.steps earlier
      exact ⟨timelyThen.step middle.proper step.link,
        punctualThen.move (middle.move step) timelyThen
          (step.link.ages middle.proper) step.message_eq⟩

/-- If nothing else happens to a link, the time passes until the message in the
retransmitter's hand is due, and then the message is put back. -/
theorem exists_returned {message : Message}
    (proper : journey.link.node.Proper) (place : journey.place = .held)
    (holding : journey.link.held = some message)
    (empty : journey.link.flight = none)
    (nothing : journey.link.node.sending.toList = [])
    (unseen : journey.link.node.isAcknowledged journey.message = false)
    (inTime : journey.link.node.now ≤
      journey.link.node.timer.deadline message.sentAt) :
    ∃ last, Relation.ReflTransGen (Step Link.Waits) journey last ∧
      last.parkings = journey.parkings ∧ last.returns = journey.returns ++
        [journey.link.node.timer.deadline message.sentAt] := by
  induction left : journey.link.node.timer.deadline message.sentAt -
      journey.link.node.now generalizing journey with
  | zero =>
      have due := Nat.le_antisymm (Nat.le_of_sub_eq_zero left) inTime
      obtain ⟨after, step⟩ := Link.exists_stepRetransmitter_of_held
        proper.running proper.sendingOpen holding (Nat.le_of_eq due)
      refine ⟨_, .single (.retransmitter step), ?_, ?_⟩
      · simp [viaRetransmitter, place, unseen, moved]
      · simp [viaRetransmitter, place, unseen, due]
  | succ fewer induction =>
      have early : journey.link.node.now <
          journey.link.node.timer.deadline message.sentAt :=
        Nat.lt_of_sub_eq_succ left
      have waits := Link.waits_of_early proper.running empty nothing holding
        early
      have remaining : journey.link.node.timer.deadline message.sentAt -
          (journey.link.node.now + 1) = fewer := by
        omega
      have tick : Step Link.Waits journey
          (journey.passed journey.link.tick journey.place) := .tick waits
      obtain ⟨last, steps, parkings, returns⟩ :=
        @induction (journey.passed journey.link.tick journey.place)
          (journey.link.node.queuesOnly_tick.proper proper) place holding empty
          nothing unseen early remaining
      exact ⟨last, steps.head tick, parkings, returns⟩

/-- Follow any data message from the moment at which it waits to be sent, while
time passes only when both loops wait; it is always where the journey says.  The
retransmission queue is always in the order in which its messages were sent, and
two transmissions of the message begin at least the offset apart.  Each time it
was parked it was put back exactly at its deadline; only the last time it may
have been settled by then, or be waiting still, and then its deadline is not
over.  This goes for all that waits: the retransmitter decides on what it holds
exactly at the deadline, and as long as both loops wait nothing is due.  They
always get there without any time passing. -/
theorem retransmitted_at_deadline {origin : Link} {start last : Journey}
    (fresh : origin.Fresh)
    (positive : 1 ≤ origin.node.settings.retransmissionOffset)
    (begins : start.Begins Link.Waits origin)
    (queued : start.place.leg = .queued)
    (steps : Relation.ReflTransGen (Step Link.Waits) start last) :
    let deadline := origin.node.timer.deadline
    let now := last.link.node.now
    last.Carries ∧
    (last.link.node.retransmissions.toList.Pairwise fun first second =>
      first.sentAt ≤ second.sentAt) ∧
    (last.departures.Pairwise fun earlier later => deadline earlier ≤ later) ∧
    (last.returns = last.parkings.map deadline ∨
      ∃ earlier parked, last.parkings = earlier ++ [parked] ∧
        last.returns = earlier.map deadline ∧
        ((∃ time, last.place.leg = .settled time ∧ time ≤ deadline parked ∧
            last.link.node.isAcknowledged start.message = true) ∨
          last.place.leg = .waiting ∧ now ≤ deadline parked ∧
            (last.link.Waits → now < deadline parked))) ∧
    (∀ message ∈ last.link.awaiting, now ≤ deadline message.sentAt ∧
      (last.link.Waits → now < deadline message.sentAt)) ∧
    (∀ message after, last.link.held = some message →
      last.link.stepRetransmitter = some after →
        now = deadline message.sentAt) ∧
    ∃ rested, Relation.ReflTransGen Link.Turn last.link rested ∧
      rested.Waits ∧ rested.node.now = now := by
  have startTimely := fresh.steps_timely begins.reached
  have startTimer := (fresh.steps_age begins.reached).timer_eq
  have startSound := begins.sound fresh
  have startPunctual := begins.punctual queued
  rw [startTimer] at startPunctual
  have sound := startSound.steps steps
  obtain ⟨timely, punctual⟩ :=
    startSound.punctual startTimely startPunctual steps
  have timer_eq := punctual.timer_eq
  have waiting : ∀ message ∈ last.link.awaiting,
      last.link.node.now ≤ origin.node.timer.deadline message.sentAt ∧
        (last.link.Waits →
          last.link.node.now < origin.node.timer.deadline message.sentAt) := by
    rw [← timer_eq]
    intro message member
    exact ⟨timely.inTime message member,
      fun waits => waits.lt_deadline sound.proper timely member⟩
  refine ⟨sound.carries, ?_, punctual.spaced, ?_, waiting, ?_, ?_⟩
  · exact timely.ordered.sublist (List.sublist_append_right _ _)
  · cases punctual.phase with
    | queued _ returned | flying _ returned | abandoned _ returned =>
        exact .inl returned
    | settled leg returned inTime seen =>
        obtain ⟨earlier, parkings, returns⟩ := returned
        rw [message_of_steps steps] at seen
        exact .inr ⟨earlier, _, parkings, returns, .inl ⟨_, leg, inTime, seen⟩⟩
    | waiting leg found returned =>
        obtain ⟨earlier, parkings, returns⟩ := returned
        exact .inr ⟨earlier, _, parkings, returns,
          .inr ⟨leg, waiting _ (mem_awaiting leg found)⟩⟩
  · intro message after holding step
    have due := Link.due_of_stepRetransmitter holding step
    have inTime := timely.inTime message
      (List.mem_append_left _ (Option.mem_toList.mpr holding))
    rw [timer_eq] at due inTime
    exact Nat.le_antisymm inTime due
  · apply last.link.exists_waits
    have offset_eq := congrArg RetransmitTimer.offset timer_eq
    change 1 ≤ last.link.node.timer.offset
    rw [offset_eq]
    exact positive

/-- A message that nobody acknowledges waits for a millisecond and is put
back. -/
theorem retransmitted_at_deadline_of_pair :
    ∃ (origin : Link) (start last : Journey), origin.Fresh ∧
      1 ≤ origin.node.settings.retransmissionOffset ∧
      start.Begins Link.Waits origin ∧ start.place.leg = .queued ∧
      Relation.ReflTransGen (Step Link.Waits) start last ∧
      last.parkings = [0] ∧ last.returns = [1] ∧
      (last.link.node.retransmissions.toList.Pairwise fun first second =>
        first.sentAt ≤ second.sentAt) := by
  obtain ⟨node, created⟩ : ∃ node, Node.create 1 .pair (.empty 3)
      (.broadcast 1) { retransmissionOffset := 1 } = .ok node := ⟨_, rfl⟩
  let payload := Payload.data 1 1 [49] 3
  let origin := Link.idle (Station.new node)
  let sent := origin.withNode (origin.node.send payload 2).1
  let start : Journey :=
    ⟨sent, Message.new payload 2 0, .queued 0, [], [], [], 0⟩
  have fresh : origin.Fresh :=
    ⟨1, .pair, .empty 3, .broadcast 1, _, created, rfl, rfl⟩
  obtain rfl := Except.ok.inj created
  have begins : start.Begins Link.Waits origin :=
    ⟨.single (.stir (.send payload 2)), rfl, rfl, rfl, rfl, rfl, rfl⟩
  have unseen : origin.node.tracker.contains 2 ⟨1, 1⟩ = false := by
    simp [origin, Link.idle, Link.node, Station.new, Tracker.contains,
      Tracker.new]
  obtain ⟨flying, depart, landed, land, diary, noFlight, noHeld, nothing,
      waiting, now_eq, running, offset_eq, tracker_eq⟩ :
      ∃ flying, sent.stepSender [] = some flying ∧
        ∃ landed, flying.1.stepSender [] = some landed ∧
          (start.viaSender flying.1).viaSender landed.1 =
            ⟨landed.1, start.message, .parked 0, [0], [0], [], 0⟩ ∧
          landed.1.flight = none ∧ landed.1.held = none ∧
          landed.1.node.sending.toList = [] ∧
          landed.1.node.retransmissions.toList =
            [(Message.new payload 2 0).transmitted 0] ∧
          landed.1.node.now = 0 ∧ landed.1.node.stopped = false ∧
          landed.1.node.settings.retransmissionOffset = 1 ∧
          landed.1.node.tracker = origin.node.tracker :=
    ⟨_, rfl, _, rfl, rfl, rfl, rfl, rfl, rfl, rfl, rfl, rfl, rfl⟩
  let parked : Journey :=
    ⟨landed.1, start.message, .parked 0, [0], [0], [], 0⟩
  have transmitted : Relation.ReflTransGen (Step Link.Waits) start parked := by
    have first : Step Link.Waits start (start.viaSender flying.1) :=
      .sender depart
    have second : Step Link.Waits (start.viaSender flying.1)
        ((start.viaSender flying.1).viaSender landed.1) := by
      apply Step.sender
      rw [link_viaSender]
      exact land
    rw [diary] at second
    exact (Relation.ReflTransGen.single first).tail second
  have unknown : landed.1.node.isAcknowledged start.message = false := by
    rw [Node.isAcknowledged, tracker_eq]
    exact unseen
  obtain ⟨held, hold⟩ :=
    Link.exists_stepRetransmitter_of_waiting running noHeld waiting
  cases Link.retransmitterMove_of_stepRetransmitter hold with
  | settleNext _ order _ seen =>
      rw [waiting] at order
      obtain ⟨rfl, _⟩ := List.cons.inj order
      exact absurd (seen.symm.trans unknown) (by decide)
  | settleHeld holding | requeue holding =>
      rw [noHeld] at holding
      contradiction
  | hold _ order _ _ node_eq flight_eq held_eq =>
      rw [waiting] at order
      obtain ⟨rfl, _⟩ := List.cons.inj order
      let taken := parked.moved held .held
      have take : Step Link.Waits parked taken := by
        have step : Step Link.Waits parked (parked.viaRetransmitter held) :=
          .retransmitter hold
        simpa [viaRetransmitter, parked, noHeld, unknown] using step
      have steps := transmitted.tail take
      have proper := ((begins.sound fresh).steps steps).proper
      have still : taken.link.node.sending.toList = [] ∧
          taken.link.node.isAcknowledged start.message = false ∧
          taken.link.node.now = 0 ∧ taken.link.node.timer.offset = 1 := by
        have same : taken.link.node = _ := node_eq
        rw [same]
        exact ⟨nothing, unknown, now_eq, offset_eq⟩
      obtain ⟨last, others, parkings, returns⟩ := exists_returned proper rfl
        held_eq (flight_eq.trans noFlight) still.1 still.2.1
        (by rw [still.2.2.1]; exact Nat.zero_le _)
      have once : last.returns = [1] := by
        rw [returns, RetransmitTimer.deadline, still.2.2.2]
        rfl
      have all := steps.trans others
      exact ⟨origin, start, last, fresh, Nat.le_refl _, begins, rfl, all,
        parkings, once, (retransmitted_at_deadline fresh (Nat.le_refl _)
          begins rfl all).2.1⟩

end Journey

end CausalCast
