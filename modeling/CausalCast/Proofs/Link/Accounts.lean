import CausalCast.Proofs.Link.Endings
import CausalCast.Proofs.Link.Traffic
import Mathlib.Logic.Relation

/-!
# The count of data that is not acknowledged

Data enters the link in two steps, each of which others may come between: it is
counted, and it is put into the sending queue.  If the queue is closed, the
count is taken back in a third step.  A depot is a link together with the sends
that are between these steps, and with loops that may have ended.  As long as
both loops run, the count is the number of data messages that the link holds
and of those whose sends are under way; a loop that ends loses what it held and
what waited for it, so from then on the count may only be too high.
-/

namespace CausalCast

namespace Link

/-- The message that the sender takes next, if it cannot be sent. -/
def abandoning (link : Link) : List Message :=
  if link.flight.isSome then []
  else link.node.sending.toList.head?.toList.filter
    (link.node.departure · = .abandoned)

theorem mem_pipeline_of_abandoning {link : Link} {message : Message}
    (abandoned : message ∈ link.abandoning) : message ∈ link.pipeline := by
  unfold abandoning at abandoned
  split at abandoned
  · contradiction
  · have first := Option.mem_toList.mp (List.mem_filter.mp abandoned).1
    exact mem_pipeline.mpr (.inl (List.mem_of_head? first))

theorem mem_waiting_of_settling {link : Link} {message : Message}
    (settled : message ∈ link.settling) :
    message ∈ link.node.retransmissions.toList ++ link.held.toList := by
  have next := Option.mem_toList.mp (List.mem_filter.mp settled).1
  cases hand : link.held with
  | none =>
      rw [hand] at next
      exact List.mem_append_left _ (List.mem_of_head? next)
  | some held =>
      rw [hand] at next
      obtain rfl := Option.some.inj next
      exact List.mem_append_right _ List.mem_cons_self

end Link

/-- Whether a parcel has to be acknowledged. -/
def Parcel.isData (parcel : Parcel) : Bool :=
  !parcel.payload.isAck

namespace Node

theorem countUnacked_eq (node : Node) (parcel : Parcel) :
    node.countUnacked parcel.payload =
      { node with
        unacked := node.unacked + if parcel.isData then 1 else 0 } := by
  cases ack : parcel.payload.isAck <;>
    simp [countUnacked, Parcel.isData, ack]

theorem discountUnacked_eq (node : Node) (parcel : Parcel) :
    node.discountUnacked parcel.payload =
      { node with
        unacked := node.unacked - if parcel.isData then 1 else 0 } := by
  cases ack : parcel.payload.isAck <;>
    simp [discountUnacked, Parcel.isData, ack]

theorem of_post {node posted : Node} {message : Message}
    (accepted : node.post message = (posted, .ok ())) :
    ∃ filled, filled.toList = node.sending.toList ++ [message] ∧
      posted = { node with sending := filled } := by
  cases queued : node.sending.enqueue message with
  | mk filled outcome =>
      simp only [post, queued, Prod.mk.injEq] at accepted
      obtain ⟨rfl, rfl⟩ := accepted
      exact ⟨filled, (Queue.toList_enqueue queued).1, rfl⟩

end Node

/-- A link with the sends that are under way to it. -/
structure Depot where
  link : Link
  /-- Whether the sender has not ended. -/
  sends : Bool
  /-- Whether the retransmitter has not ended. -/
  retransmits : Bool
  /-- What was counted and not put into the sending queue yet. -/
  counted : List Parcel
  /-- What was counted and refused by the sending queue. -/
  refused : List Parcel

namespace Depot

def node (depot : Depot) : Node :=
  depot.link.node

def withNode (depot : Depot) (node : Node) : Depot :=
  { depot with link := depot.link.withNode node }

/-- How many sends of data are under way. -/
def underWay (depot : Depot) : Nat :=
  (depot.counted ++ depot.refused).countP Parcel.isData

/-- How much data the link holds or is about to get. -/
def owed (depot : Depot) : Nat :=
  depot.link.pipeline.countP Message.isData + depot.underWay

structure Fresh (depot : Depot) : Prop where
  link : depot.link.Fresh
  sends : depot.sends = true
  retransmits : depot.retransmits = true
  counted : depot.counted = []
  refused : depot.refused = []

/-- One step at a depot. -/
inductive Step : Depot → Depot → Prop where
  /-- A send counts its parcel. -/
  | count {depot : Depot} (parcel : Parcel) :
      Step depot { depot with
        link := depot.link.withNode (depot.node.countUnacked parcel.payload)
        counted := parcel :: depot.counted }
  /-- A send puts its parcel into the sending queue. -/
  | post {depot : Depot} {parcel : Parcel} {rest : List Parcel} {posted : Node}
      (listed : depot.counted.Perm (parcel :: rest))
      (accepted : depot.node.post (Message.new parcel.payload parcel.recipient
        depot.node.now) = (posted, .ok ())) :
      Step depot { depot with
        link := depot.link.withNode posted
        counted := rest }
  /-- A send finds the sending queue closed. -/
  | refuse {depot : Depot} {parcel : Parcel} {rest : List Parcel}
      {after : Node} {error : QueueError}
      (listed : depot.counted.Perm (parcel :: rest))
      (closed : depot.node.post (Message.new parcel.payload parcel.recipient
        depot.node.now) = (after, .error error)) :
      Step depot { depot with
        link := depot.link.withNode after
        counted := rest
        refused := parcel :: depot.refused }
  /-- A send that was refused takes its count back. -/
  | takeBack {depot : Depot} {parcel : Parcel} {rest : List Parcel}
      (listed : depot.refused.Perm (parcel :: rest)) :
      Step depot { depot with
        link := depot.link.withNode (depot.node.discountUnacked parcel.payload)
        refused := rest }
  | sender {depot : Depot} {outcomes : List (Option Mishap)} {link : Link}
      {datagrams : List Datagram} (runs : depot.sends = true)
      (step : depot.link.stepSender outcomes = some (link, datagrams)) :
      Step depot { depot with link := link }
  | endSender {depot : Depot} {outcomes : List (Option Mishap)} {link : Link}
      (runs : depot.sends = true)
      (step : depot.link.endSender outcomes = some link) :
      Step depot { depot with
        link := link
        sends := false }
  | retransmitter {depot : Depot} {link : Link}
      (runs : depot.retransmits = true)
      (step : depot.link.stepRetransmitter = some link) :
      Step depot { depot with link := link }
  | endRetransmitter {depot : Depot} {link : Link}
      (runs : depot.retransmits = true)
      (step : depot.link.endRetransmitter = some link) :
      Step depot { depot with
        link := link
        retransmits := false }
  /-- A sighting is recorded. -/
  | hear {depot : Depot} {sender : NodeId} {payload : Payload} {heard : Node}
      {sighting : Tracker.Sighting}
      (recorded : depot.node.insert sender payload = .ok (heard, sighting)) :
      Step depot (depot.withNode heard)
  /-- The producer counts a message that it has handed to the link; it does so
  too seldom for the number to wrap around. -/
  | produce {depot : Depot}
      (room : depot.node.enqueued < depot.node.enqueued + 1) :
      Step depot (depot.withNode depot.node.countEnqueued)
  | tick {depot : Depot} : Step depot (depot.withNode depot.node.tick)
  | stop {depot : Depot} : Step depot (depot.withNode depot.node.stop)

/-! ## Sends in one go -/

/-- A send that nothing interrupts does what the node does in one go. -/
theorem steps_of_send (depot : Depot) (payload : Payload)
    (recipient : NodeId) :
    Relation.ReflTransGen Step depot
      (depot.withNode (depot.node.send payload recipient).1) := by
  have counts := @Step.count depot ⟨payload, recipient⟩
  have sameTime : (depot.node.countUnacked payload).now = depot.node.now := by
    unfold Node.countUnacked
    split <;> rfl
  cases posted : (depot.node.countUnacked payload).post
      (Message.new payload recipient depot.node.now) with
  | mk after outcome =>
      rw [← sameTime] at posted
      cases outcome with
      | ok _ =>
          have sent : (depot.node.send payload recipient).1 = after := by
            rw [sameTime] at posted
            simp [Node.send, posted]
          rw [sent]
          exact .head counts (.single (.post (.refl _) posted))
      | error error =>
          have sent : (depot.node.send payload recipient).1 =
              after.discountUnacked payload := by
            rw [sameTime] at posted
            simp [Node.send, posted]
          have takes := @Step.takeBack { depot with
              link := depot.link.withNode after
              refused := ⟨payload, recipient⟩ :: depot.refused }
            ⟨payload, recipient⟩ depot.refused (.refl _)
          rw [sent]
          exact .head counts (.head (.refuse (.refl _) posted) (.single takes))

/-! ## The balance -/

/-- The count at a depot covers the data that the depot owes, and what was lost
at the end of a loop.  Only data waits for an acknowledgement. -/
structure Balanced (depot : Depot) : Prop where
  unacked_eq : ∃ lost, depot.node.unacked = depot.owed + lost ∧
    (depot.sends = true → depot.retransmits = true → lost = 0)
  data : ∀ message ∈
    depot.link.node.retransmissions.toList ++ depot.link.held.toList,
      message.isData = true

theorem Fresh.balanced {depot : Depot} (fresh : depot.Fresh) :
    depot.Balanced := by
  have counted := fresh.link.counted
  refine ⟨⟨0, ?_, fun _ _ => rfl⟩, counted.data⟩
  rw [owed, underWay, fresh.counted, fresh.refused]
  exact counted.unacked_eq

theorem owed_eq (depot : Depot) :
    depot.owed =
      depot.link.node.sending.toList.countP Message.isData +
        depot.link.inFlight.countP Message.isData +
        depot.link.node.retransmissions.toList.countP Message.isData +
        depot.link.held.toList.countP Message.isData +
        (depot.counted.countP Parcel.isData +
          depot.refused.countP Parcel.isData) := by
  simp only [owed, underWay, Link.pipeline, List.countP_append]

namespace Balanced

variable {depot after : Depot} (balanced : depot.Balanced)

include balanced

theorem keep
    (change : after.node.unacked + depot.owed = depot.node.unacked + after.owed)
    (sends : after.sends = depot.sends)
    (retransmits : after.retransmits = depot.retransmits)
    (retransmissions : after.node.retransmissions = depot.node.retransmissions)
    (held : after.link.held = depot.link.held) : after.Balanced := by
  obtain ⟨lost, total, exact⟩ := balanced.unacked_eq
  constructor
  · refine ⟨lost, ?_, ?_⟩
    · omega
    · rw [sends, retransmits]
      exact exact
  · change ∀ message ∈ after.node.retransmissions.toList ++
      after.link.held.toList, message.isData = true
    rw [retransmissions, held]
    exact balanced.data

theorem sender {link : Link} {datagrams : List Datagram}
    (move : Link.SenderMove depot.link link datagrams) :
    Balanced { depot with link := link } := by
  obtain ⟨lost, total, exact⟩ := balanced.unacked_eq
  refine ⟨⟨lost, ?_, exact⟩, move.data_of_waiting balanced.data⟩
  rw [owed, Nat.add_assoc] at total ⊢
  exact move.unacked_eq_add total

theorem retransmitter {link : Link}
    (move : Link.RetransmitterMove depot.link link) :
    Balanced { depot with link := link } := by
  obtain ⟨lost, total, exact⟩ := balanced.unacked_eq
  refine ⟨⟨lost, ?_, exact⟩, fun message member =>
    balanced.data message (move.waiting_subset member)⟩
  rw [owed, Nat.add_assoc] at total ⊢
  exact move.unacked_eq_add balanced.data total

/-- What a loop takes with it when it ends is lost. -/
theorem ending (ended : (after.sends && after.retransmits) = false)
    (unacked : after.node.unacked = depot.node.unacked)
    (carried : after.owed ≤ depot.owed)
    (waiting : after.node.retransmissions.toList ++ after.link.held.toList ⊆
      depot.node.retransmissions.toList ++ depot.link.held.toList) :
    after.Balanced := by
  obtain ⟨lost, total, _⟩ := balanced.unacked_eq
  constructor
  · refine ⟨depot.node.unacked - after.owed, ?_, ?_⟩
    · omega
    · intro sends retransmits
      rw [sends, retransmits] at ended
      contradiction
  · exact fun message member => balanced.data message (waiting member)

theorem endSender {link : Link} {outcomes : List (Option Mishap)}
    (ended : depot.link.endSender outcomes = some link) :
    Balanced { depot with link := link, sends := false } := by
  obtain ⟨flight_eq, held_eq, stopped, node_eq⟩ := Link.of_endSender ended
  apply balanced.ending
  · rfl
  · change link.node.unacked = depot.link.node.unacked
    rw [node_eq]
  · apply Nat.add_le_add_right
    simp only [Link.pipeline, node_eq, Link.inFlight_of_empty flight_eq,
      held_eq, Queue.toList_dropConsumer, List.countP_append, List.countP_nil]
    omega
  · change link.node.retransmissions.toList ++ link.held.toList ⊆ _
    rw [node_eq, held_eq]
    exact List.Subset.refl _

theorem endRetransmitter {link : Link}
    (ended : depot.link.endRetransmitter = some link) :
    Balanced { depot with link := link, retransmits := false } := by
  obtain ⟨flight_eq, held_eq, stopped, node_eq⟩ :=
    Link.of_endRetransmitter ended
  apply balanced.ending
  · exact Bool.and_false _
  · change link.node.unacked = depot.link.node.unacked
    rw [node_eq]
  · apply Nat.add_le_add_right
    simp only [Link.pipeline, Link.inFlight, node_eq, flight_eq, held_eq,
      Queue.toList_dropConsumer, List.countP_append, List.countP_nil,
      Option.toList_none]
    omega
  · change link.node.retransmissions.toList ++ link.held.toList ⊆ _
    rw [node_eq, held_eq]
    exact List.nil_subset _

theorem count (parcel : Parcel) :
    Balanced { depot with
      link := depot.link.withNode (depot.node.countUnacked parcel.payload)
      counted := parcel :: depot.counted } := by
  rw [Node.countUnacked_eq]
  apply balanced.keep
  · simp only [owed_eq, node, Link.node_withNode, Link.inFlight,
      Link.flight_withNode, Link.held_withNode, List.countP_cons]
    omega
  all_goals rfl

theorem post {parcel : Parcel} {rest : List Parcel} {posted : Node}
    (listed : depot.counted.Perm (parcel :: rest))
    (accepted : depot.node.post (Message.new parcel.payload parcel.recipient
      depot.node.now) = (posted, .ok ())) :
    Balanced { depot with
      link := depot.link.withNode posted
      counted := rest } := by
  obtain ⟨filled, items, rfl⟩ := Node.of_post accepted
  have fewer := listed.countP_eq Parcel.isData
  have same : (Message.new parcel.payload parcel.recipient
    depot.link.node.now).isData = parcel.isData := rfl
  simp only [node] at items
  apply balanced.keep
  · simp only [owed_eq, node, Link.node_withNode, Link.inFlight,
      Link.flight_withNode, Link.held_withNode, items, fewer,
      List.countP_append, List.countP_cons, List.countP_nil, same]
    omega
  all_goals rfl

theorem refuse {parcel : Parcel} {rest : List Parcel} {after : Node}
    {error : QueueError} (listed : depot.counted.Perm (parcel :: rest))
    (closed : depot.node.post (Message.new parcel.payload parcel.recipient
      depot.node.now) = (after, .error error)) :
    Balanced { depot with
      link := depot.link.withNode after
      counted := rest
      refused := parcel :: depot.refused } := by
  obtain rfl := Node.eq_of_post_error closed
  have fewer := listed.countP_eq Parcel.isData
  apply balanced.keep
  · simp only [owed_eq, node, Link.node_withNode, Link.inFlight,
      Link.flight_withNode, Link.held_withNode, fewer, List.countP_cons]
    omega
  all_goals rfl

theorem takeBack {parcel : Parcel} {rest : List Parcel}
    (listed : depot.refused.Perm (parcel :: rest)) :
    Balanced { depot with
      link := depot.link.withNode (depot.node.discountUnacked parcel.payload)
      refused := rest } := by
  have fewer := listed.countP_eq Parcel.isData
  obtain ⟨lost, total, _⟩ := balanced.unacked_eq
  rw [owed_eq, fewer, List.countP_cons] at total
  rw [Node.discountUnacked_eq]
  apply balanced.keep
  · simp only [owed_eq, node, Link.node_withNode, Link.inFlight,
      Link.flight_withNode, Link.held_withNode, fewer, List.countP_cons]
      at total ⊢
    omega
  all_goals rfl

theorem outside {after : Node} (sending : after.sending = depot.node.sending)
    (retransmissions : after.retransmissions = depot.node.retransmissions)
    (unacked : after.unacked = depot.node.unacked) :
    (depot.withNode after).Balanced := by
  apply balanced.keep
  · simp only [node] at sending retransmissions unacked
    simp only [owed_eq, node, withNode, Link.node_withNode, Link.inFlight,
      Link.flight_withNode, Link.held_withNode, sending, retransmissions,
      unacked]
  · rfl
  · rfl
  · exact retransmissions
  · rfl

theorem step (step : Step depot after) : after.Balanced := by
  cases step with
  | count parcel => exact balanced.count parcel
  | post listed accepted => exact balanced.post listed accepted
  | refuse listed closed => exact balanced.refuse listed closed
  | takeBack listed => exact balanced.takeBack listed
  | sender _ step => exact balanced.sender (Link.senderMove_of_stepSender step)
  | endSender _ ended => exact balanced.endSender ended
  | retransmitter _ step =>
      exact balanced.retransmitter
        (Link.retransmitterMove_of_stepRetransmitter step)
  | endRetransmitter _ ended => exact balanced.endRetransmitter ended
  | hear recorded =>
      obtain rfl := Node.eq_witnessed_of_insert recorded
      exact balanced.outside rfl rfl rfl
  | produce => exact balanced.outside rfl rfl rfl
  | tick => exact balanced.outside rfl rfl rfl
  | stop => exact balanced.outside rfl rfl rfl

theorem unacked_pos_of_mem {message : Message}
    (carried : message ∈ depot.link.pipeline)
    (data : message.isData = true) : 0 < depot.node.unacked := by
  obtain ⟨lost, total, _⟩ := balanced.unacked_eq
  have positive := List.countP_pos_iff.mpr ⟨message, carried, data⟩
  rw [owed] at total
  omega

theorem unacked_pos_of_underWay {parcel : Parcel}
    (listed : parcel ∈ depot.counted ++ depot.refused)
    (data : parcel.isData = true) : 0 < depot.node.unacked := by
  obtain ⟨lost, total, _⟩ := balanced.unacked_eq
  have positive := List.countP_pos_iff.mpr ⟨parcel, listed, data⟩
  rw [owed, underWay] at total
  omega

/-- When the count is 0, there is no data in the link or on its way to it. -/
theorem nothing_owed (zero : depot.node.unacked = 0) :
    (∀ message ∈ depot.link.pipeline, message.isData = false) ∧
      ∀ parcel ∈ depot.counted ++ depot.refused, parcel.isData = false := by
  constructor
  · intro message carried
    by_contra data
    have positive := balanced.unacked_pos_of_mem carried (by simpa using data)
    omega
  · intro parcel listed
    by_contra data
    have positive :=
      balanced.unacked_pos_of_underWay listed (by simpa using data)
    omega

end Balanced

end Depot

end CausalCast
