import CausalCast.Proofs.Ensemble.Convergence

/-!
# Announcements

A node announces each message that it originates with a line in its log, before
it does anything else with the message.  So its log has one such line for each
of its messages, in the order of their numbers.  A delivery may be brought
about by the node itself or, much later, by whatever it hears from others; but
whatever it hears of a message of its own goes back to the announced one, so no
delivery comes before its announcement.
-/

namespace CausalCast

namespace OutputEvent

/-- Each announced content has its event, which has as many announcements
before it as its place says. -/
theorem exists_broadcast_of_announced {events : List OutputEvent}
    {place : Nat} {content : List UInt8}
    (found : (announced events)[place]? = some content) :
    ∃ position : Nat, events[position]? = some (.broadcast content) ∧
      (announced (events.take position)).length = place := by
  induction events generalizing place with
  | nil => simp [announced] at found
  | cons event events induction =>
      cases event with
      | delivered payload =>
          obtain ⟨position, here, before⟩ := induction found
          exact ⟨position + 1, here, before⟩
      | broadcast first =>
          cases place with
          | zero =>
              obtain rfl := Option.some.inj found
              exact ⟨0, rfl, rfl⟩
          | succ place =>
              obtain ⟨position, here, before⟩ := induction found
              exact ⟨position + 1, here, congrArg (· + 1) before⟩

/-- Some events announce the content of a payload, at the place that the
payload's number says. -/
def Announces (events : List OutputEvent) (payload : Payload) : Prop :=
  ∃ place, payload.uid.toNat = place + 1 ∧
    (announced events)[place]? = some payload.content

/-- Logs in which every delivery of a message of the node's own comes after the
announcement of that message. -/
inductive Heralded (id : NodeId) : List OutputEvent → Prop where
  | nil : Heralded id []
  | broadcast {events : List OutputEvent} (content : List UInt8) :
      Heralded id events → Heralded id (events ++ [.broadcast content])
  | delivered {events : List OutputEvent} {payload : Payload} :
      Heralded id events →
      (payload.owner = id → Announces events payload) →
      Heralded id (events ++ [.delivered payload])

namespace Heralded

variable {id : NodeId} {events : List OutputEvent}

theorem announces_of_split (heralded : Heralded id events)
    {front back : List OutputEvent} {payload : Payload}
    (split : events = front ++ .delivered payload :: back)
    (own : payload.owner = id) : Announces front payload := by
  induction heralded generalizing back with
  | nil => simp at split
  | @broadcast events content _ induction =>
      rcases split_of_concat split with ⟨_, _, same⟩ | ⟨_, _, earlier⟩
      · contradiction
      · exact induction earlier
  | @delivered events other _ announces induction =>
      rcases split_of_concat split with ⟨_, rfl, same⟩ | ⟨_, _, earlier⟩
      · obtain rfl := delivered.inj same
        exact announces own
      · exact induction earlier

theorem exists_earlier (heralded : Heralded id events) {position : Nat}
    {payload : Payload}
    (found : events[position]? = some (.delivered payload))
    (own : payload.owner = id) :
    ∃ earlier < position, events[earlier]? = some (.broadcast payload.content) ∧
      (announced (events.take earlier)).length + 1 = payload.uid.toNat := by
  obtain ⟨inRange, same⟩ := List.getElem?_eq_some_iff.mp found
  have split := List.take_append_drop position events
  rw [List.drop_eq_getElem_cons inRange, same] at split
  obtain ⟨place, number, placed⟩ := heralded.announces_of_split split.symm own
  obtain ⟨earlier, here, before⟩ := exists_broadcast_of_announced placed
  rw [List.getElem?_take] at here
  split at here
  case isFalse => contradiction
  case isTrue below =>
      rw [List.take_take, Nat.min_eq_left (Nat.le_of_lt below)] at before
      exact ⟨earlier, below, here, by rw [before, number]⟩

theorem append_delivered (heralded : Heralded id events)
    {payloads : List Payload}
    (announces : ∀ payload ∈ payloads, payload.owner = id →
      Announces events payload) :
    Heralded id (events ++ payloads.map .delivered) := by
  induction payloads using List.reverseRecOn with
  | nil => simpa using heralded
  | append_singleton payloads payload induction =>
      have front := induction fun other listed =>
        announces other (List.mem_append_left _ listed)
      rw [List.map_append, ← List.append_assoc, List.map_singleton]
      refine .delivered front fun own => ?_
      rw [Announces, announced_append_delivered]
      exact announces payload (by simp) own

end Heralded

end OutputEvent

/-! ## What a node writes -/

namespace Node

/-- Two states of a node between which it has written nothing but
deliveries. -/
def OnlyDelivers (before after : Node) : Prop :=
  ∃ payloads : List Payload,
    after.logged = before.logged ++ payloads.map .delivered

theorem OnlyDelivers.refl (node : Node) : OnlyDelivers node node :=
  ⟨[], by simp⟩

theorem OnlyDelivers.trans {first second third : Node}
    (left : OnlyDelivers first second) (right : OnlyDelivers second third) :
    OnlyDelivers first third := by
  obtain ⟨earlier, start⟩ := left
  obtain ⟨later, rest⟩ := right
  refine ⟨earlier ++ later, ?_⟩
  rw [rest, start, List.map_append, List.append_assoc]

theorem QueuesOnly.onlyDelivers {before after : Node}
    (only : QueuesOnly before after) : OnlyDelivers before after := by
  refine ⟨[], ?_⟩
  rw [logged, logged, only.output_eq]
  simp

variable {node : Node} (proper : node.Proper)

include proper

theorem onlyDelivers_witnessed (sender : NodeId) (payload : Payload) :
    OnlyDelivers node (node.witnessed sender payload) :=
  ⟨_, (OutputLog.deliverAll_of_isOpen proper.outputOpen _).2⟩

theorem onlyDelivers_heard (payload : Payload) :
    OnlyDelivers node (node.heard payload) := by
  have first := onlyDelivers_witnessed proper payload.sender payload
  unfold heard
  split
  · exact .refl node
  · split
    · exact first
    · have recorded := proper.witnessed payload.sender payload
      exact first.trans (onlyDelivers_witnessed recorded node.me payload)

theorem onlyDelivers_handleDatagram (bytes : List UInt8) :
    OnlyDelivers node (node.handleDatagram bytes) := by
  unfold handleDatagram
  split
  case h_1 payload _ =>
      exact (onlyDelivers_heard proper payload).trans
        (queuesOnly_handlePayload proper payload).onlyDelivers
  case h_2 => exact .refl node

/-- After its announcement, originating a message brings about nothing but
deliveries. -/
theorem onlyDelivers_originate (uid : UInt32) (content : List UInt8) :
    OnlyDelivers (node.announce content) (node.originate uid content).1 := by
  have announced := proper.announce content
  have recorded := announced.witnessed node.me (node.firstCopy uid content)
  rw [originate_eq proper]
  exact (onlyDelivers_witnessed announced node.me _).trans
    (queuesOnly_sendAll recorded.sendingOpen _).onlyDelivers

theorem logged_announce (content : List UInt8) :
    (node.announce content).logged = node.logged ++ [.broadcast content] := by
  simp [logged, announce, OutputLog.emit, proper.outputOpen]

end Node

namespace Ensemble

def originatedBy (ensemble : Ensemble) (id : NodeId) : List Payload :=
  (ensemble.history.filter (·.origin = id)).map Origination.payload

/-- The log of a node announces what the node has originated, in order, and
each of these messages before its delivery. -/
structure LogSound (ensemble : Ensemble) (id : NodeId) : Prop where
  announced_eq : OutputEvent.announced (ensemble.node id).logged =
    (ensemble.originatedBy id).map Payload.content
  heralded : OutputEvent.Heralded id (ensemble.node id).logged

/-- A step without origination makes a node write nothing but deliveries. -/
theorem Effect.onlyDelivers {ensemble : Ensemble} {id : NodeId} {link : Link}
    (effect : ensemble.Effect id link)
    (proper : (ensemble.node id).Proper) :
    Node.OnlyDelivers (ensemble.node id) link.node := by
  cases effect with
  | none => exact .refl _
  | sender step =>
      exact (Link.senderMove_of_stepSender step).queuesOnly.onlyDelivers
  | retransmitter step =>
      exact (Link.retransmitterMove_of_stepRetransmitter
        step).queuesOnly.onlyDelivers
  | tick => exact (Node.queuesOnly_tick _).onlyDelivers
  | arrive => exact Node.onlyDelivers_handleDatagram proper _

namespace Invariant

variable {ensemble : Ensemble} (invariant : ensemble.Invariant)

include invariant

theorem originatedBy_eq (id : NodeId) :
    ensemble.originatedBy id = stream ensemble.messages id := by
  have own : ∀ entry ∈ ensemble.history,
      decide (entry.origin = id) = decide (entry.payload.owner = id) := by
    intro entry entered
    obtain ⟨past, later, split⟩ := List.append_of_mem entered
    rw [(invariant.chronicle.follows_of_split split).owner_eq]
  rw [originatedBy, stream, messages, List.filter_map,
    List.filter_congr own]
  rfl

/-- The log of a node is sound if it goes on with nothing but deliveries after
events that announce what the node has originated. -/
theorem logSound_of_logged {id : NodeId}
    (member : ensemble.membership.contains id = true)
    {front : List OutputEvent} {payloads : List Payload}
    (logged : (ensemble.node id).logged = front ++ payloads.map .delivered)
    (announced : OutputEvent.announced front =
      (ensemble.originatedBy id).map Payload.content)
    (heralded : OutputEvent.Heralded id front) : ensemble.LogSound id := by
  refine ⟨?_, ?_⟩
  · rw [logged, OutputEvent.announced_append_delivered, announced]
  · rw [logged]
    apply heralded.append_delivered
    intro payload listed own
    have delivered : payload ∈ (ensemble.node id).delivered := by
      rw [Node.delivered, OutputLog.delivered, ← Node.logged, logged,
        List.mem_filterMap]
      exact ⟨.delivered payload,
        List.mem_append_right _ (List.mem_map_of_mem listed), rfl⟩
    have genuine := (invariant.nodeSound member).delivered payload delivered
    obtain ⟨place, number, placed⟩ :=
      invariant.chronicle.numbered.exists_place genuine
    refine ⟨place, number, ?_⟩
    have owner : payload.original.owner = id := own
    rw [owner, ← messages, ← invariant.originatedBy_eq id] at placed
    rw [announced, List.getElem?_map, placed]
    rfl

end Invariant

theorem logSound_of_initial {ensemble : Ensemble} (initial : ensemble.Initial)
    {id : NodeId} (member : ensemble.membership.contains id = true) :
    ensemble.LogSound id := by
  obtain ⟨_, _, created⟩ := initial.created id member
  have logged : (ensemble.node id).logged = [] := by
    unfold Node.create at created
    split at created
    · contradiction
    · split at created
      · contradiction
      · rw [← Except.ok.inj created]
        rfl
  refine ⟨?_, ?_⟩
  · rw [logged, originatedBy, initial.history_eq]
    rfl
  · rw [logged]
    exact .nil

theorem originatedBy_originated (ensemble : Ensemble) (mover id : NodeId)
    (uid : UInt32) (content : List UInt8) :
    (ensemble.originated mover uid content).originatedBy id =
      ensemble.originatedBy id ++
        if mover = id then [(ensemble.node mover).firstCopy uid content]
        else [] := by
  by_cases same : mover = id <;> simp [originatedBy, originated, same]

namespace LogSound

variable {before : Ensemble} {id : NodeId} (logSound : before.LogSound id)

include logSound

theorem quiet {after : Ensemble} (invariant : before.Invariant)
    (member : before.membership.contains id = true)
    (step : Quiet before after) : after.LogSound id := by
  have proper := (invariant.nodeSound member).proper
  obtain ⟨payloads, written⟩ := (step.effect id).onlyDelivers proper
  have stays : after.membership.contains id = true := by
    rw [step.membership_eq]
    exact member
  apply (invariant.quiet step).logSound_of_logged stays written _
    logSound.heralded
  rw [originatedBy, step.history_eq]
  exact logSound.announced_eq

/-- Where a node originates a message, it announces it first; the log of every
other node stays as it is. -/
theorem originate {mover : NodeId} {uid : UInt32} {content : List UInt8}
    (invariant : (before.originated mover uid content).Invariant)
    (member : before.membership.contains id = true)
    (proper : (before.node id).Proper) :
    (before.originated mover uid content).LogSound id := by
  have history := before.originatedBy_originated mover id uid content
  by_cases same : mover = id
  · subst same
    obtain ⟨payloads, written⟩ := Node.onlyDelivers_originate proper uid content
    have node : (before.originated mover uid content).node mover =
        ((before.node mover).originate uid content).1 := by
      simp [originated, Ensemble.node, setLink]
    rw [Node.logged_announce proper, ← node] at written
    apply invariant.logSound_of_logged member written
    · rw [OutputEvent.announced_concat_broadcast, logSound.announced_eq, history]
      simp [Node.firstCopy, Payload.data]
    · exact .broadcast content logSound.heralded
  · have node : (before.originated mover uid content).node id =
        before.node id := by
      have different : id ≠ mover := Ne.symm same
      simp [originated, Ensemble.node, setLink, different]
    rw [if_neg same, List.append_nil] at history
    refine ⟨?_, ?_⟩
    · rw [node, history]
      exact logSound.announced_eq
    · rw [node]
      exact logSound.heralded

theorem step {after : Ensemble} (invariant : before.Invariant)
    (member : before.membership.contains id = true)
    (step : Step before after) : after.LogSound id := by
  cases step with
  | quiet step => exact logSound.quiet invariant member step
  | originate mover uid content moves next room made =>
      rw [invariant.originated_of_made moves made]
      exact logSound.originate (invariant.originate moves next room) member
        (invariant.nodeSound member).proper

end LogSound

theorem Reachable.logSound {ensemble : Ensemble}
    (reachable : ensemble.Reachable) {id : NodeId}
    (member : ensemble.membership.contains id = true) :
    ensemble.LogSound id := by
  induction reachable with
  | initial initial => exact logSound_of_initial initial member
  | step reachable step induction =>
      rw [step.membership_eq] at member
      exact (induction member).step (invariant_of_reachable reachable) member
        step

/-- In every reachable ensemble the log of a member has one announcement for
each message that the member has originated, in the order of their numbers
1, 2, 3, and so on; and before each delivery of a message of the member's own,
it has the announcement with that message's number and content. -/
theorem announced_before_delivered {ensemble : Ensemble}
    (reachable : ensemble.Reachable) {id : NodeId}
    (member : ensemble.membership.contains id = true) :
    OutputEvent.announced (ensemble.node id).logged =
        (ensemble.originatedBy id).map Payload.content ∧
      (ensemble.originatedBy id).map (·.uid.toNat) =
        List.range' 1 (ensemble.originatedBy id).length ∧
      ∀ (position : Nat) (payload : Payload),
        (ensemble.node id).logged[position]? = some (.delivered payload) →
        payload.owner = id →
          ∃ earlier < position,
            (ensemble.node id).logged[earlier]? =
              some (.broadcast payload.content) ∧
            (OutputEvent.announced
              ((ensemble.node id).logged.take earlier)).length + 1 =
                payload.uid.toNat := by
  have invariant := invariant_of_reachable reachable
  have logSound := reachable.logSound member
  refine ⟨logSound.announced_eq, ?_, ?_⟩
  · rw [invariant.originatedBy_eq id]
    exact invariant.chronicle.numbered id
  · intro position payload found own
    exact logSound.heralded.exists_earlier found own

/-- The first of two nodes delivers its message after it has announced it. -/
theorem announced_before_delivered_of_pair :
    ∃ (ensemble : Ensemble) (position : Nat) (payload : Payload),
      ensemble.Reachable ∧ ensemble.membership.contains 1 = true ∧
      (ensemble.node 1).logged[position]? = some (.delivered payload) ∧
      payload.message = ⟨1, 1⟩ ∧ (ensemble.originatedBy 1).length = 1 ∧
      (OutputEvent.announced (ensemble.node 1).logged).length = 1 ∧
      ∃ earlier < position,
        (ensemble.node 1).logged[earlier]? =
          some (.broadcast payload.content) ∧
        OutputEvent.announced ((ensemble.node 1).logged.take earlier) = [] := by
  obtain ⟨ensemble, reachable, healthy, membership, _, idle, first, second,
    cause, history, identity, secondIdentity, _⟩ := exists_reachable_pair
  have member : ensemble.membership.contains 1 = true := by
    rw [membership]
    rfl
  obtain ⟨payload, delivered, same⟩ :=
    healthy.invariant.exists_delivered (healthy.informed_of_idle idle) member
      (List.append_nil _).symm first.payload (by simp [history])
  rw [identity] at same
  obtain ⟨position, found⟩ :=
    OutputLog.exists_getElem?_of_mem_delivered delivered
  rw [← Array.getElem?_toList] at found
  have own : payload.owner = 1 := congrArg MessageId.owner same
  obtain ⟨announced, _, precedes⟩ := announced_before_delivered reachable member
  obtain ⟨earlier, below, here, before⟩ := precedes position payload found own
  have number : payload.uid = 1 := congrArg MessageId.uid same
  have only : ensemble.originatedBy 1 = [first.payload] := by
    have firstOwner : first.payload.owner = 1 :=
      congrArg MessageId.owner identity
    have secondOwner : second.payload.owner = 2 :=
      congrArg MessageId.owner secondIdentity
    rw [healthy.invariant.originatedBy_eq, messages, history]
    simp [stream, firstOwner, secondOwner]
  refine ⟨ensemble, position, payload, reachable, member, found, same,
    congrArg List.length only, ?_, earlier, below, here, ?_⟩
  · rw [announced, only]
    rfl
  · rw [number] at before
    exact List.eq_nil_of_length_eq_zero (Nat.succ.inj before)

end Ensemble

end CausalCast
