import CausalCast.Node.Receive
import CausalCast.Proofs.Copies
import CausalCast.Proofs.Members
import CausalCast.Proofs.Tracker.Releases

/-!
# What handling and originating do to a node

An operation of a node does two things that do not meet: it records witnesses
in the tracker, which may write deliveries to the log, and it hands parcels to
the link.  `heard` and `replies` are the two halves of handling a payload.
The equations here take the operations apart in this way, for a node that is
running and whose queues are open.
-/

namespace CausalCast

/-- A payload and the node that it is for. -/
structure Parcel where
  payload : Payload
  recipient : NodeId
deriving DecidableEq, Repr

/-! ## The output log -/

namespace OutputEvent

/-- The payload whose delivery an event is. -/
def delivered? : OutputEvent → Option Payload
  | delivered payload => some payload
  | broadcast _ => none

/-- The content that an event announces. -/
def broadcast? : OutputEvent → Option (List UInt8)
  | broadcast content => some content
  | delivered _ => none

/-- The contents that some events announce, in order. -/
def announced (events : List OutputEvent) : List (List UInt8) :=
  events.filterMap broadcast?

theorem announced_concat_broadcast (events : List OutputEvent)
    (content : List UInt8) :
    announced (events ++ [.broadcast content]) =
      announced events ++ [content] := by
  simp [announced, broadcast?]

theorem announced_append_delivered (events : List OutputEvent)
    (payloads : List Payload) :
    announced (events ++ payloads.map .delivered) = announced events := by
  have nothing : (payloads.map OutputEvent.delivered).filterMap broadcast? =
      [] := by
    rw [List.filterMap_eq_nil_iff]
    intro event member
    obtain ⟨payload, _, rfl⟩ := List.mem_map.mp member
    rfl
  rw [announced, List.filterMap_append, nothing, List.append_nil]
  rfl

end OutputEvent

namespace OutputLog

def delivered (log : OutputLog) : List Payload :=
  log.events.toList.filterMap OutputEvent.delivered?

theorem deliverAll_of_isOpen {log : OutputLog} (opened : log.isOpen = true)
    (payloads : List Payload) :
    (log.deliverAll payloads).isOpen = true ∧
      (log.deliverAll payloads).events.toList =
        log.events.toList ++ payloads.map .delivered := by
  induction payloads generalizing log with
  | nil => exact ⟨opened, by simp [deliverAll]⟩
  | cons payload payloads induction =>
      have emitted : (log.emit (.delivered payload)).isOpen = true := by
        simp [emit, opened]
      obtain ⟨stillOpen, events⟩ := induction emitted
      refine ⟨stillOpen, ?_⟩
      change ((log.emit (.delivered payload)).deliverAll payloads).events.toList = _
      rw [events]
      simp [emit, opened]

theorem delivered_deliverAll {log : OutputLog} (opened : log.isOpen = true)
    (payloads : List Payload) :
    (log.deliverAll payloads).delivered = log.delivered ++ payloads := by
  have map : (payloads.map OutputEvent.delivered).filterMap
      OutputEvent.delivered? = payloads := by
    induction payloads with
    | nil => rfl
    | cons payload payloads induction =>
        simp [OutputEvent.delivered?, induction]
  rw [delivered, (deliverAll_of_isOpen opened payloads).2, List.filterMap_append,
    map]
  rfl

/-- The delivery at a position splits the delivered payloads into those before
and those after it. -/
theorem delivered_of_getElem? {log : OutputLog} {position : Nat}
    {payload : Payload}
    (found : log.events[position]? = some (.delivered payload)) :
    log.delivered =
      (log.events.toList.take position).filterMap OutputEvent.delivered? ++
        payload :: (log.events.toList.drop (position + 1)).filterMap
          OutputEvent.delivered? := by
  rw [← Array.getElem?_toList] at found
  obtain ⟨inRange, same⟩ := List.getElem?_eq_some_iff.mp found
  have split := List.take_append_drop position log.events.toList
  rw [List.drop_eq_getElem_cons inRange, same] at split
  rw [delivered]
  conv => lhs; rw [← split]
  rw [List.filterMap_append, List.filterMap_cons]
  rfl

theorem exists_lt_of_mem_take {log : OutputLog} {position : Nat}
    {payload : Payload}
    (member : payload ∈
      (log.events.toList.take position).filterMap OutputEvent.delivered?) :
    ∃ earlier < position, log.events[earlier]? = some (.delivered payload) := by
  obtain ⟨event, listed, delivery⟩ := List.mem_filterMap.mp member
  obtain ⟨earlier, found⟩ := List.mem_iff_getElem?.mp listed
  rw [List.getElem?_take] at found
  split at found
  case isFalse => contradiction
  case isTrue below =>
      rw [Array.getElem?_toList] at found
      cases event with
      | broadcast content => contradiction
      | delivered other =>
          obtain rfl := Option.some.inj delivery
          exact ⟨earlier, below, found⟩

theorem exists_getElem?_of_mem_delivered {log : OutputLog} {payload : Payload}
    (member : payload ∈ log.delivered) :
    ∃ position : Nat, log.events[position]? = some (.delivered payload) := by
  rw [delivered, ← List.take_length (l := log.events.toList)] at member
  obtain ⟨position, _, found⟩ := exists_lt_of_mem_take member
  exact ⟨position, found⟩

theorem delivered_emit_broadcast (log : OutputLog) (content : List UInt8) :
    (log.emit (.broadcast content)).delivered = log.delivered := by
  unfold emit
  split
  · simp [delivered, OutputEvent.delivered?]
  · rfl

end OutputLog

namespace Node

def logged (node : Node) : List OutputEvent :=
  node.output.events.toList

def delivered (node : Node) : List Payload :=
  node.output.delivered

/-- The node after recording that a node has sent a payload, the payload being
well formed. -/
def witnessed (node : Node) (sender : NodeId) (payload : Payload) : Node :=
  node.adopt (node.tracker.record sender payload)

def sendAll (node : Node) : List Parcel → Node
  | [] => node
  | parcel :: rest =>
      (node.send parcel.payload parcel.recipient).1.sendAll rest

/-- What a node relays of a payload: a copy for each other node, unless it has
seen the message before. -/
def relays (node : Node) (payload : Payload) : List Parcel :=
  if node.tracker.wasSeen payload then []
  else (node.membership.peerIds node.me).map fun recipient =>
    ⟨node.relayOf payload, recipient⟩

/-- What handling a payload records: that its sender has seen the message, and
for broadcast data that the node itself has. -/
def heard (node : Node) (payload : Payload) : Node :=
  match node.tracker.problem? payload.sender payload with
  | some _ => node
  | none =>
      if payload.isAck || !node.workload.isBroadcast then
        node.witnessed payload.sender payload
      else (node.witnessed payload.sender payload).witnessed node.me payload

/-- What handling a payload sends: an acknowledgement of data, and the relays
of broadcast data. -/
def replies (node : Node) (payload : Payload) : List Parcel :=
  match node.tracker.problem? payload.sender payload with
  | some _ => []
  | none =>
      if payload.isAck then []
      else
        ⟨payload.toAck, payload.sender⟩ ::
          if node.workload.isBroadcast then
            (node.witnessed payload.sender payload).relays payload
          else []

/-- A running node with open queues, whose parts agree on who it is. -/
structure Proper (node : Node) : Prop where
  me_eq : node.tracker.me = node.me
  nodeCount_eq : node.tracker.nodeCount = node.membership.size
  member : node.membership.contains node.me = true
  length_clock : node.tracker.clock.length = node.tracker.clockLength
  sendingOpen : node.sending.hasConsumer = true
  retransmissionsOpen : node.retransmissions.hasConsumer = true
  outputOpen : node.output.isOpen = true
  running : node.stopped = false

theorem Proper.isNode_me {node : Node} (proper : node.Proper) :
    node.tracker.isNode node.me = true := by
  have bounds := Membership.bounds_of_contains proper.member
  simp only [Tracker.isNode, proper.nodeCount_eq, Bool.and_eq_true,
    decide_eq_true_eq]
  exact bounds

theorem proper_of_create {me : NodeId} {membership : Membership}
    {graph : CausalityGraph} {workload : Workload} {settings : LinkSettings}
    {node : Node}
    (created : create me membership graph workload settings = .ok node) :
    node.Proper := by
  unfold create at created
  split at created
  · contradiction
  case isFalse member =>
      split at created
      · contradiction
      · obtain rfl := Except.ok.inj created
        exact ⟨rfl, rfl, by simpa using member,
          by simp [Tracker.new, Tracker.clockLength], rfl, rfl, rfl, rfl⟩

/-! ## Sending -/

theorem send_of_open {node : Node} (opened : node.sending.hasConsumer = true)
    (payload : Payload) (recipient : NodeId) :
    ∃ sending, sending.toList =
        node.sending.toList ++ [Message.new payload recipient node.now] ∧
      sending.hasConsumer = true ∧
      node.send payload recipient =
        ({ node with
            sending := sending
            unacked := node.unacked + if payload.isAck then 0 else 1 },
          .ok ()) := by
  refine ⟨{ node.sending.announce with
      items := node.sending.items.push (Message.new payload recipient node.now) },
    by simp [Queue.toList], opened, ?_⟩
  unfold send post countUnacked
  cases payload.isAck with
  | true => simp [Queue.enqueue, Queue.handOver?, Queue.announce, opened]
  | false => simp [Queue.enqueue, Queue.handOver?, Queue.announce, opened]

theorem sendAll_of_open {node : Node} (opened : node.sending.hasConsumer = true)
    (parcels : List Parcel) :
    ∃ sending, sending.toList = node.sending.toList ++
        parcels.map (fun parcel =>
          Message.new parcel.payload parcel.recipient node.now) ∧
      sending.hasConsumer = true ∧
      node.sendAll parcels =
        { node with
          sending := sending
          unacked := node.unacked +
            (parcels.filter fun parcel => !parcel.payload.isAck).length } := by
  induction parcels generalizing node with
  | nil => exact ⟨node.sending, by simp, opened, by simp [sendAll]⟩
  | cons parcel parcels induction =>
      obtain ⟨first, firstItems, firstOpen, sent⟩ :=
        send_of_open opened parcel.payload parcel.recipient
      have sentOpen : (node.send parcel.payload
          parcel.recipient).1.sending.hasConsumer = true := by
        rw [sent]
        exact firstOpen
      obtain ⟨final, finalItems, finalOpen, rest⟩ := induction sentOpen
      refine ⟨final, ?_, finalOpen, ?_⟩
      · rw [finalItems, sent]
        simp [firstItems]
      · rw [sendAll, rest, sent]
        cases ack : parcel.payload.isAck with
        | true => simp [ack]
        | false => simp [ack, Nat.add_assoc, Nat.add_comm 1]

theorem sendEach_of_open {node : Node} (opened : node.sending.hasConsumer = true)
    (payload : Payload) (recipients : List NodeId) :
    (node.sendEach payload recipients).1 =
      node.sendAll (recipients.map fun recipient => ⟨payload, recipient⟩) := by
  induction recipients generalizing node with
  | nil => rfl
  | cons recipient recipients induction =>
      obtain ⟨first, _, firstOpen, sent⟩ := send_of_open opened payload recipient
      have sentOpen :
          (node.send payload recipient).1.sending.hasConsumer = true := by
        rw [sent]
        exact firstOpen
      have rest := induction sentOpen
      simp only [sendEach, List.map_cons, sendAll, ← rest]
      rw [sent]

/-! ## Recording -/

section Recording

variable (node : Node) (sender : NodeId) (payload : Payload)

@[simp] theorem me_witnessed : (node.witnessed sender payload).me = node.me := rfl

@[simp] theorem membership_witnessed :
    (node.witnessed sender payload).membership = node.membership := rfl

@[simp] theorem workload_witnessed :
    (node.witnessed sender payload).workload = node.workload := rfl

@[simp] theorem unacked_witnessed :
    (node.witnessed sender payload).unacked = node.unacked := rfl

theorem tracker_witnessed :
    (node.witnessed sender payload).tracker =
      (node.tracker.record sender payload).tracker := rfl

theorem delivered_witnessed (opened : node.output.isOpen = true) :
    (node.witnessed sender payload).delivered =
      node.delivered ++ (node.tracker.record sender payload).released :=
  OutputLog.delivered_deliverAll opened _

theorem witnessed_of_contains
    (known : node.tracker.contains sender payload.message = true) :
    node.witnessed sender payload = node := by
  rw [witnessed, Tracker.record_of_contains known]
  rfl

theorem insert_of_valid
    (valid : node.tracker.problem? sender payload = none) :
    node.insert sender payload =
      .ok (node.witnessed sender payload,
        (node.tracker.record sender payload).sighting) := by
  simp [Node.insert, Tracker.insert, valid, witnessed]

theorem send_witnessed (recipient : NodeId) (other : Payload) :
    (node.send other recipient).1.witnessed sender payload =
      ((node.witnessed sender payload).send other recipient).1 := by
  simp only [send, post, countUnacked, discountUnacked, witnessed, adopt]
  cases other.isAck <;>
    cases opened : node.sending.hasConsumer <;>
      simp [Queue.enqueue, Queue.handOver?, Queue.announce, Queue.retract, opened]

end Recording

theorem eq_witnessed_of_insert {node after : Node} {sender : NodeId}
    {payload : Payload} {sighting : Tracker.Sighting}
    (recorded : node.insert sender payload = .ok (after, sighting)) :
    after = node.witnessed sender payload := by
  cases valid : node.tracker.problem? sender payload with
  | some problem => simp [Node.insert, Tracker.insert, valid] at recorded
  | none =>
      rw [insert_of_valid _ _ _ valid] at recorded
      exact (Prod.mk.inj (Except.ok.inj recorded)).1.symm

theorem Proper.witnessed {node : Node} (proper : node.Proper) (sender : NodeId)
    (payload : Payload) : (node.witnessed sender payload).Proper := by
  have setup := Tracker.sameSetup_record node.tracker sender payload
  refine ⟨setup.me.trans proper.me_eq,
    setup.nodeCount.trans proper.nodeCount_eq, proper.member, ?_,
    proper.sendingOpen, proper.retransmissionsOpen, ?_, proper.running⟩
  · rw [tracker_witnessed, setup.clockLength_eq, Tracker.length_clock_record]
    exact proper.length_clock
  · exact (OutputLog.deliverAll_of_isOpen proper.outputOpen _).1

theorem Proper.sendAll {node : Node} (proper : node.Proper)
    (parcels : List Parcel) : (node.sendAll parcels).Proper := by
  obtain ⟨sending, _, opened, sent⟩ := sendAll_of_open proper.sendingOpen parcels
  rw [sent]
  exact ⟨proper.me_eq, proper.nodeCount_eq, proper.member, proper.length_clock,
    opened, proper.retransmissionsOpen, proper.outputOpen, proper.running⟩

/-- Two states of a node between which it has only learned and delivered. -/
structure Learns (before after : Node) : Prop where
  node_eq : after =
    { before with tracker := after.tracker, output := after.output }
  proper : before.Proper → after.Proper
  contains : ∀ sender message,
    before.tracker.contains sender message = true →
      after.tracker.contains sender message = true

theorem Learns.refl (node : Node) : Learns node node :=
  ⟨rfl, id, fun _ _ known => known⟩

theorem Learns.trans {first second third : Node} (left : Learns first second)
    (right : Learns second third) : Learns first third := by
  refine ⟨?_, right.proper ∘ left.proper, ?_⟩
  · rw [right.node_eq, left.node_eq]
  · intro sender message known
    exact right.contains sender message (left.contains sender message known)

theorem learns_witnessed (node : Node) (sender : NodeId) (payload : Payload) :
    Learns node (node.witnessed sender payload) := by
  refine ⟨rfl, fun proper => proper.witnessed sender payload, ?_⟩
  intro other message known
  rw [tracker_witnessed, Tracker.contains_record_iff]
  exact .inr known

theorem learns_heard (node : Node) (payload : Payload) :
    Learns node (node.heard payload) := by
  unfold heard
  split
  · exact .refl node
  · split
    · exact learns_witnessed node payload.sender payload
    · exact (learns_witnessed node payload.sender payload).trans
        (learns_witnessed _ node.me payload)

section Replies

variable {node : Node} {payload : Payload}

theorem heard_of_ack
    (valid : node.tracker.problem? payload.sender payload = none)
    (ack : payload.isAck = true) :
    node.heard payload = node.witnessed payload.sender payload ∧
      node.replies payload = [] := by
  simp [heard, replies, valid, ack]

theorem heard_of_data
    (valid : node.tracker.problem? payload.sender payload = none)
    (data : payload.isAck = false) (broadcast : node.workload.isBroadcast = true) :
    node.heard payload =
        (node.witnessed payload.sender payload).witnessed node.me payload ∧
      node.replies payload = ⟨payload.toAck, payload.sender⟩ ::
        (node.witnessed payload.sender payload).relays payload := by
  simp [heard, replies, valid, data, broadcast]

end Replies

/-! ## Relaying, handling and originating -/

theorem uniformReliableBroadcast_eq {node : Node} (proper : node.Proper)
    {payload : Payload}
    (valid : node.tracker.problem? node.me payload = none) :
    node.uniformReliableBroadcast payload =
      .ok ((node.witnessed node.me payload).sendAll (node.relays payload),
        !node.tracker.wasSeen payload) := by
  have seen_iff : node.tracker.wasSeen payload =
      node.tracker.contains node.me payload.message := by
    rw [Tracker.wasSeen, proper.me_eq]
  unfold uniformReliableBroadcast relays
  cases known : node.tracker.wasSeen payload with
  | true =>
      rw [seen_iff] at known
      simp [witnessed_of_contains _ _ _ known, sendAll]
  | false =>
      rw [seen_iff] at known
      have counted := Tracker.sighting_record_ne_duplicate known
      have marked := insert_of_valid node node.me payload valid
      simp only [Bool.false_eq_true, if_false, markAsSeen, marked]
      have recorded := proper.witnessed node.me payload
      rw [bestEffortBroadcast, sendEach_of_open recorded.sendingOpen]
      rfl

theorem problem?_me_of_valid {node : Node} (proper : node.Proper)
    {sender : NodeId} {payload : Payload}
    (valid : node.tracker.problem? sender payload = none) :
    (node.witnessed sender payload).tracker.problem? node.me payload = none := by
  have setup := Tracker.sameSetup_record node.tracker sender payload
  simp only [Tracker.problem?, setup.isNode_eq, setup.clockLength_eq,
    tracker_witnessed] at valid ⊢
  split at valid
  · contradiction
  · rw [if_neg (by simp [proper.isNode_me])]
    exact valid

private theorem acknowledge_and_relay {heard : Node} (proper : heard.Proper)
    (broadcast : heard.workload.isBroadcast = true) {payload : Payload}
    (valid : heard.tracker.problem? heard.me payload = none) :
    (match heard.send payload.toAck payload.sender with
      | (refused, .error _) => refused
      | (acknowledged, .ok _) =>
          if !acknowledged.workload.isBroadcast then acknowledged
          else
            match acknowledged.uniformReliableBroadcast payload with
            | .error _ => acknowledged
            | .ok (relayed, _) => relayed) =
      (heard.witnessed heard.me payload).sendAll
        (⟨payload.toAck, payload.sender⟩ :: heard.relays payload) := by
  obtain ⟨sending, _, _, sent⟩ :=
    send_of_open proper.sendingOpen payload.toAck payload.sender
  have acknowledged : (heard.send payload.toAck payload.sender).1.Proper :=
    proper.sendAll [⟨payload.toAck, payload.sender⟩]
  have commuted := send_witnessed heard heard.me payload payload.sender
    payload.toAck
  rw [sent] at acknowledged commuted
  have relayed := uniformReliableBroadcast_eq acknowledged valid
  rw [sent]
  simp only [broadcast, Bool.not_true, Bool.false_eq_true, if_false, relayed]
  exact congrArg (fun start => Node.sendAll start (heard.relays payload))
    commuted

/-- Handling a payload comes down to what it records and what it sends. -/
theorem handlePayload_eq {node : Node} (proper : node.Proper)
    (payload : Payload) :
    node.handlePayload payload =
      (node.heard payload).sendAll (node.replies payload) := by
  unfold handlePayload heard replies
  cases valid : node.tracker.problem? payload.sender payload with
  | some problem =>
      simp [Node.insert, Tracker.insert, valid, sendAll]
  | none =>
      rw [insert_of_valid node payload.sender payload valid]
      cases ack : payload.isAck with
      | true => simp [sendAll]
      | false =>
          have recorded := proper.witnessed payload.sender payload
          cases kind : node.workload.isBroadcast with
          | true =>
              simp only [Bool.false_eq_true, if_false, if_true,
                Bool.not_true, Bool.or_false]
              exact acknowledge_and_relay recorded kind
                (problem?_me_of_valid proper valid)
          | false =>
              obtain ⟨sending, _, _, sent⟩ :=
                send_of_open recorded.sendingOpen payload.toAck payload.sender
              simp [sent, kind, sendAll]

@[simp] theorem message_firstCopy (node : Node) (uid : UInt32)
    (content : List UInt8) :
    (node.firstCopy uid content).message = ⟨node.me, uid⟩ := rfl

theorem Proper.announce {node : Node} (proper : node.Proper)
    (content : List UInt8) : (node.announce content).Proper := by
  refine ⟨proper.me_eq, proper.nodeCount_eq, proper.member,
    proper.length_clock, proper.sendingOpen, proper.retransmissionsOpen, ?_,
    proper.running⟩
  simp [Node.announce, OutputLog.emit, proper.outputOpen]

theorem learns_announce (node : Node) (content : List UInt8) :
    Learns node (node.announce content) :=
  ⟨rfl, fun proper => proper.announce content, fun _ _ known => known⟩

theorem problem?_firstCopy {node : Node} (proper : node.Proper) (uid : UInt32)
    (content : List UInt8) :
    node.tracker.problem? node.me (node.firstCopy uid content) = none := by
  have ownerNode : node.tracker.isNode (node.firstCopy uid content).owner = true :=
    proper.isNode_me
  have length : (node.firstCopy uid content).clock.length =
      node.tracker.clockLength := by
    simp [firstCopy, stampClock, proper.length_clock]
  simp [Tracker.problem?, proper.isNode_me, ownerNode, length]

/-- Originating a message comes down to writing its line, recording the node
as its first witness, and sending a copy to each other node. -/
theorem originate_eq {node : Node} (proper : node.Proper) (uid : UInt32)
    (content : List UInt8) :
    node.originate uid content =
      (((node.announce content).witnessed node.me
          (node.firstCopy uid content)).sendAll
            (node.relays (node.firstCopy uid content)),
        .ok (node.firstCopy uid content)) := by
  have announced := proper.announce content
  have valid : (node.announce content).tracker.problem? node.me
      (node.firstCopy uid content) = none := problem?_firstCopy proper uid content
  have relayed := uniformReliableBroadcast_eq announced valid
  simp only [originate, relayed]
  rfl

end Node

end CausalCast
