import CausalCast.Proofs.Link.Traffic
import Mathlib.Logic.Relation

/-!
# Steps of a link

A link takes steps for three reasons: its node does something, one of its loops
does, or a millisecond passes.  How time passes is left to a pace, which says
in which states it may: in any, or only when both loops wait.  Here is what
every step keeps, whatever the pace.
-/

namespace CausalCast

namespace Link

/-- What may happen to a link without its loops: an operation of its node, or
the transport needs another time for its sends from now on. -/
inductive Stir (link : Link) : Link → Prop where
  | send (payload : Payload) (recipient : NodeId) :
      Stir link (link.withNode (link.node.send payload recipient).1)
  | handle (payload : Payload) :
      Stir link (link.withNode (link.node.handlePayload payload))
  | originate (uid : UInt32) (content : List UInt8) :
      Stir link (link.withNode (link.node.originate uid content).1)
  | hear {sender : NodeId} {payload : Payload} {heard : Node}
      {sighting : Tracker.Sighting}
      (recorded : link.node.insert sender payload = .ok (heard, sighting)) :
      Stir link (link.withNode heard)
  | delay (milliseconds : Nat) :
      Stir link { link with
        station := { link.station with sendDelay := milliseconds } }

/-- One step of a link.  Time passes where the pace allows it. -/
inductive Step (pace : Link → Prop) (link : Link) : Link → Prop where
  | stir {after : Link} (stir : link.Stir after) : Step pace link after
  | sender {after : Link} {outcomes : List (Option Mishap)}
      {datagrams : List Datagram}
      (step : link.stepSender outcomes = some (after, datagrams)) :
      Step pace link after
  | retransmitter {after : Link} (step : link.stepRetransmitter = some after) :
      Step pace link after
  | tick (passes : pace link) : Step pace link link.tick

/-- Two states of a link between which its loops did nothing and no time
passed. -/
structure Stirred (before after : Link) : Prop where
  flight_eq : after.flight = before.flight
  held_eq : after.held = before.held
  retransmissions_eq :
    after.node.retransmissions = before.node.retransmissions
  settings_eq : after.node.settings = before.node.settings
  now_eq : after.node.now = before.node.now
  queued : before.node.sending.toList <+: after.node.sending.toList
  contains : ∀ sender message,
    before.node.tracker.contains sender message = true →
      after.node.tracker.contains sender message = true
  proper : after.node.Proper
  counted : before.Counted → after.Counted

/-- Learning and then sending some parcels is what every operation of a node
comes down to. -/
theorem stirred_sendAll {link : Link} {learned : Node}
    (proper : link.node.Proper) (learns : Node.Learns link.node learned)
    (parcels : List Parcel) :
    Stirred link (link.withNode (learned.sendAll parcels)) := by
  have opened := (learns.proper proper).sendingOpen
  have same := learns.node_eq
  obtain ⟨sending, items, _, sent⟩ := Node.sendAll_of_open opened parcels
  have queue : learned.sending = link.node.sending := by
    rw [same]
  constructor
  case flight_eq => rfl
  case held_eq => rfl
  case retransmissions_eq =>
    rw [node_withNode, sent, same]
  case settings_eq =>
    rw [node_withNode, sent, same]
  case now_eq =>
    rw [node_withNode, sent, same]
  case queued =>
    rw [node_withNode, sent]
    change _ <+: sending.toList
    rw [items, queue]
    exact List.prefix_append _ _
  case contains =>
    intro sender message known
    rw [node_withNode, sent]
    exact learns.contains sender message known
  case proper => exact (learns.proper proper).sendAll parcels
  case counted =>
    intro counted
    exact (counted.learn learns).sendAll opened parcels

theorem Stir.stirred {link after : Link} (stir : link.Stir after)
    (proper : link.node.Proper) : Stirred link after := by
  cases stir with
  | send payload recipient =>
      exact stirred_sendAll proper (.refl _) [⟨payload, recipient⟩]
  | handle payload =>
      rw [Node.handlePayload_eq proper]
      exact stirred_sendAll proper (Node.learns_heard _ payload) _
  | originate uid content =>
      rw [Node.originate_eq proper]
      apply stirred_sendAll proper
      exact (Node.learns_announce _ content).trans
        (Node.learns_witnessed _ _ _)
  | @hear sender payload heard sighting recorded =>
      rw [Node.eq_witnessed_of_insert recorded]
      exact stirred_sendAll proper (Node.learns_witnessed _ sender payload) []
  | delay milliseconds =>
      exact ⟨rfl, rfl, rfl, rfl, rfl, List.prefix_rfl, fun _ _ known => known,
        proper, fun counted => ⟨counted.unacked_eq, counted.data⟩⟩

theorem SenderMove.now_eq {link after : Link} {datagrams : List Datagram}
    (move : SenderMove link after datagrams) :
    after.node.now = link.node.now := by
  cases move with
  | abandon _ _ _ _ node_eq =>
      rw [node_eq, Node.discountUnacked]
      split <;> rfl
  | depart _ _ _ _ node_eq => rw [node_eq]
  | forget _ _ node_eq => rw [node_eq]
  | park _ _ _ _ node_eq => rw [node_eq]

theorem RetransmitterMove.now_eq {link after : Link}
    (move : RetransmitterMove link after) :
    after.node.now = link.node.now := by
  cases move with
  | settleNext _ _ _ _ node_eq =>
      rw [node_eq]
      rfl
  | hold _ _ _ _ node_eq => rw [node_eq]
  | settleHeld _ _ node_eq =>
      rw [node_eq]
      rfl
  | requeue _ _ _ _ node_eq => rw [node_eq]

theorem due_of_stepRetransmitter {link after : Link} {message : Message}
    (holding : link.held = some message)
    (step : link.stepRetransmitter = some after) :
    link.node.timer.deadline message.sentAt ≤ link.node.now := by
  unfold stepRetransmitter at step
  rw [holding] at step
  simp only [Station.stepRetransmitter] at step
  cases polled : link.station.node.timer.poll? message.sentAt
      link.station.node.now link.station.node.stopped with
  | none => simp [polled] at step
  | some due =>
      cases due with
      | false => simp [polled] at step
      | true =>
          unfold RetransmitTimer.poll? at polled
          split at polled
          · simp at polled
          · split at polled
            case isTrue reached => exact of_decide_eq_true reached
            case isFalse => contradiction

/-- Two states of a link of which the later knows no less, and has the same
offset between transmissions. -/
structure Ages (before after : Link) : Prop where
  timer_eq : after.node.timer = before.node.timer
  now_le : before.node.now ≤ after.node.now
  contains : ∀ sender message,
    before.node.tracker.contains sender message = true →
      after.node.tracker.contains sender message = true

theorem Ages.refl (link : Link) : Ages link link :=
  ⟨rfl, Nat.le_refl _, fun _ _ known => known⟩

theorem Ages.trans {first second third : Link} (left : Ages first second)
    (right : Ages second third) : Ages first third := by
  refine ⟨right.timer_eq.trans left.timer_eq,
    Nat.le_trans left.now_le right.now_le, ?_⟩
  intro sender message known
  exact right.contains sender message (left.contains sender message known)

theorem ages_of_queuesOnly {before after : Link}
    (only : Node.QueuesOnly before.node after.node)
    (now_le : before.node.now ≤ after.node.now) : Ages before after := by
  refine ⟨only.timer_eq, now_le, ?_⟩
  intro sender message known
  rw [only.tracker_eq]
  exact known

theorem Step.ages {pace : Link → Prop} {link after : Link}
    (step : Step pace link after) (proper : link.node.Proper) :
    Ages link after := by
  cases step with
  | stir stir =>
      have stirred := stir.stirred proper
      refine ⟨?_, Nat.le_of_eq stirred.now_eq.symm, stirred.contains⟩
      exact congrArg (RetransmitTimer.mk ∘ LinkSettings.retransmissionOffset)
        stirred.settings_eq
  | sender step =>
      have move := senderMove_of_stepSender step
      exact ages_of_queuesOnly move.queuesOnly (Nat.le_of_eq move.now_eq.symm)
  | retransmitter step =>
      have move := retransmitterMove_of_stepRetransmitter step
      exact ages_of_queuesOnly move.queuesOnly (Nat.le_of_eq move.now_eq.symm)
  | tick =>
      exact ages_of_queuesOnly link.node.queuesOnly_tick (Nat.le_succ _)

/-- What every step of a link keeps, whatever its pace. -/
theorem Step.keeps {pace : Link → Prop} {link after : Link}
    (step : Step pace link after) (proper : link.node.Proper)
    (counted : link.Counted) : after.node.Proper ∧ after.Counted := by
  cases step with
  | stir stir =>
      have stirred := stir.stirred proper
      exact ⟨stirred.proper, stirred.counted counted⟩
  | sender step =>
      have move := senderMove_of_stepSender step
      exact ⟨move.queuesOnly.proper proper, counted.sender move⟩
  | retransmitter step =>
      have move := retransmitterMove_of_stepRetransmitter step
      exact ⟨move.queuesOnly.proper proper, counted.retransmitter move⟩
  | tick =>
      exact ⟨link.node.queuesOnly_tick.proper proper,
        counted.unacked_eq, counted.data⟩

theorem Fresh.steps_keep {pace : Link → Prop} {origin link : Link}
    (fresh : origin.Fresh)
    (steps : Relation.ReflTransGen (Step pace) origin link) :
    link.node.Proper ∧ link.Counted := by
  induction steps with
  | refl => exact ⟨fresh.proper, fresh.counted⟩
  | tail _ step induction => exact step.keeps induction.1 induction.2

theorem Fresh.steps_age {pace : Link → Prop} {origin link : Link}
    (fresh : origin.Fresh)
    (steps : Relation.ReflTransGen (Step pace) origin link) :
    Ages origin link := by
  induction steps with
  | refl => exact .refl origin
  | tail earlier step induction =>
      exact induction.trans (step.ages (fresh.steps_keep earlier).1)

end Link

end CausalCast
