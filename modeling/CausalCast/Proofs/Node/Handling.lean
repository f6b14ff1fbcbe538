import CausalCast.Node.Produce
import CausalCast.Proofs.Datagrams
import CausalCast.Proofs.Link.Loops

/-!
# What a node knows after handling

Handling a payload changes the tracker by what was heard, and the queues by
what is sent; nothing is forgotten.  Afterwards the sender of the payload is
known as a witness, data is acknowledged, and of broadcast data the node is a
witness itself.  A node that sends its messages to one receiver learns nothing
by producing them.
-/

namespace CausalCast

namespace Node

variable {node : Node} {payload : Payload}

/-- Sending has no effect on what a node knows and has delivered. -/
theorem queuesOnly_handlePayload (proper : node.Proper) (payload : Payload) :
    QueuesOnly (node.heard payload) (node.handlePayload payload) := by
  have opened := ((learns_heard node payload).proper proper).sendingOpen
  rw [handlePayload_eq proper]
  exact queuesOnly_sendAll opened (node.replies payload)

theorem contains_handlePayload (proper : node.Proper) (payload : Payload)
    {sender : NodeId} {message : MessageId}
    (known : node.tracker.contains sender message = true) :
    (node.handlePayload payload).tracker.contains sender message = true := by
  rw [(queuesOnly_handlePayload proper payload).tracker_eq]
  exact (learns_heard node payload).contains sender message known

theorem contains_sender_handlePayload (proper : node.Proper)
    (payload : Payload)
    (valid : node.tracker.problem? payload.sender payload = none) :
    (node.handlePayload payload).tracker.contains payload.sender
      payload.message = true := by
  have recorded : (node.witnessed payload.sender payload).tracker.contains
      payload.sender payload.message = true := by
    rw [tracker_witnessed, Tracker.contains_record_iff]
    exact .inl ⟨rfl, rfl⟩
  rw [(queuesOnly_handlePayload proper payload).tracker_eq, heard, valid]
  dsimp only
  split
  · exact recorded
  · exact (learns_witnessed _ node.me payload).contains _ _ recorded

theorem contains_me_handlePayload (proper : node.Proper)
    (valid : node.tracker.problem? payload.sender payload = none)
    (data : payload.isAck = false)
    (broadcast : node.workload.isBroadcast = true) :
    (node.handlePayload payload).tracker.contains node.me payload.message =
      true := by
  rw [(queuesOnly_handlePayload proper payload).tracker_eq,
    (heard_of_data valid data broadcast).1, tracker_witnessed,
    Tracker.contains_record_iff]
  exact .inl ⟨rfl, rfl⟩

theorem exists_ack_of_handlePayload (proper : node.Proper)
    (valid : node.tracker.problem? payload.sender payload = none)
    (data : payload.isAck = false) :
    ∃ message ∈ (node.handlePayload payload).sending.toList,
      message.payload = payload.toAck ∧ message.recipient = payload.sender := by
  have opened := ((learns_heard node payload).proper proper).sendingOpen
  obtain ⟨sending, items, _, sent⟩ :=
    sendAll_of_open opened (node.replies payload)
  have answered : ⟨payload.toAck, payload.sender⟩ ∈ node.replies payload := by
    simp [replies, valid, data]
  rw [handlePayload_eq proper, sent]
  dsimp only
  rw [items]
  have listed := List.mem_map_of_mem (f := fun parcel : Parcel =>
    Message.new parcel.payload parcel.recipient (node.heard payload).now) answered
  exact ⟨_, List.mem_append_right _ listed, rfl, rfl⟩

theorem contains_originate_iff (proper : node.Proper) (uid : UInt32)
    (content : List UInt8) (sender : NodeId) (message : MessageId) :
    (node.originate uid content).1.tracker.contains sender message = true ↔
      (sender = node.me ∧ message = ⟨node.me, uid⟩) ∨
        node.tracker.contains sender message = true := by
  have learns := (learns_announce node content).trans
    (learns_witnessed _ node.me (node.firstCopy uid content))
  have opened := (learns.proper proper).sendingOpen
  rw [originate_eq proper, (queuesOnly_sendAll opened _).tracker_eq,
    tracker_witnessed, Tracker.contains_record_iff]
  rfl

theorem handleDatagram_toBytes (node : Node)
    (fits : payload.encodedLength ≤ Payload.maxDatagram)
    (length : payload.clock.length = node.clockLength) :
    node.handleDatagram payload.toBytes = node.handlePayload payload := by
  rw [handleDatagram, Payload.decode?_take_toBytes fits length]

theorem departure_ne_abandoned {message : Message}
    (member : node.membership.contains message.recipient = true)
    (fits : message.payload.encodedLength ≤ Payload.maxDatagram) :
    node.departure message ≠ .abandoned := by
  rw [← Membership.address?_isSome] at member
  obtain ⟨address, known⟩ := Option.isSome_iff_exists.mp member
  have stampedFits : (message.payload.stamped node.me).encodedLength ≤
    Payload.maxDatagram := fits
  simp [departure, known, Payload.encode_eq_ok stampedFits]

/-! ## Producing for one receiver -/

/-- The node after writing a line for a message of its own, handing a parcel
to the link and counting the message. -/
def produced (node : Node) (content : List UInt8) (parcel : Parcel) : Node :=
  ((node.announce content).sendAll [parcel]).countEnqueued

section Produced

variable (opened : node.sending.hasConsumer = true)

include opened

theorem enqueued_produced (content : List UInt8) (parcel : Parcel) :
    (node.produced content parcel).enqueued = node.enqueued + 1 := by
  have announced : (node.announce content).sending.hasConsumer = true := opened
  have same := (queuesOnly_sendAll announced [parcel]).enqueued_eq
  exact congrArg (· + 1) same

theorem tracker_produced (content : List UInt8) (parcel : Parcel) :
    (node.produced content parcel).tracker = node.tracker := by
  have announced : (node.announce content).sending.hasConsumer = true := opened
  exact (queuesOnly_sendAll announced [parcel]).tracker_eq

theorem exists_queued_of_produced (content : List UInt8) (parcel : Parcel) :
    ∃ message ∈ (node.produced content parcel).sending.toList,
      message.payload = parcel.payload := by
  have announced : (node.announce content).sending.hasConsumer = true := opened
  obtain ⟨sending, items, _, sent⟩ := sendAll_of_open announced [parcel]
  refine ⟨Message.new parcel.payload parcel.recipient
    (node.announce content).now, ?_, rfl⟩
  rw [produced, sent]
  change _ ∈ sending.toList
  rw [items]
  exact List.mem_append_right _ List.mem_cons_self

theorem produceOne_messagesTo (receiver : NodeId) (messages uid : UInt32) :
    node.produceOne (.messagesTo receiver messages) uid =
      (node.produced (numberedContent uid)
        ⟨Payload.data node.me uid (numberedContent uid) node.clockLength,
          receiver⟩, none) := by
  have announced :
      (node.announce (numberedContent uid)).sending.hasConsumer = true := opened
  obtain ⟨_, _, _, sent⟩ := send_of_open announced
    (Payload.data node.me uid (numberedContent uid) node.clockLength) receiver
  have content : (Payload.data node.me uid (numberedContent uid)
    node.clockLength).content = numberedContent uid := rfl
  simp only [produceOne, produced, sendAll, content, sent]

end Produced

end Node

end CausalCast
