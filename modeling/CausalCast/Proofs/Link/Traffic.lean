import CausalCast.Proofs.Link.Retention

/-!
# What a link carries

The messages in the pipeline of a link are copies of those that were handed to
it: the loops change who sends a message, when and how often it was sent, and
nothing else.  The count of data that is not acknowledged is the number of data
messages in the pipeline, and only data waits for an acknowledgement.
-/

namespace CausalCast

/-- A flight carries its message as a node sends it. -/
structure Flight.Carries (flight : Flight) (node : Node) : Prop where
  sender_eq : flight.message.payload.sender = node.me
  destination_eq : node.membership.address? flight.message.recipient =
    some flight.datagram.destination
  bytes_eq : flight.datagram.bytes = flight.message.payload.toBytes
  fits : flight.message.payload.encodedLength ≤ Payload.maxDatagram

theorem Flight.Carries.congr {flight : Flight} {node after : Node}
    (carries : flight.Carries node) (me : after.me = node.me)
    (membership : after.membership = node.membership) :
    flight.Carries after := by
  refine ⟨?_, ?_, carries.bytes_eq, carries.fits⟩
  · rw [me]
    exact carries.sender_eq
  · rw [membership]
    exact carries.destination_eq

theorem carries_of_leaving {node : Node} {message stamped : Message}
    {datagram : Datagram} {arrivesAt : Nat}
    (departure : node.departure message = .leaving stamped datagram) :
    (Flight.mk stamped datagram arrivesAt).Carries node := by
  unfold Node.departure at departure
  split at departure
  case h_1 => contradiction
  case h_2 address known =>
      dsimp only at departure
      split at departure
      case h_1 => contradiction
      case h_2 bytes encoded =>
          obtain ⟨rfl, rfl⟩ := Departure.leaving.inj departure
          exact ⟨rfl, known, Payload.toBytes_of_encode encoded,
            Payload.encodedLength_le_of_encode encoded⟩

namespace Link

/-- Every flight carries what it is meant to. -/
def Airworthy (link : Link) : Prop :=
  ∀ flight, link.flight = some flight → flight.Carries link.node

theorem Airworthy.withNode {link : Link} (airworthy : link.Airworthy)
    {node : Node} (me : node.me = link.node.me)
    (membership : node.membership = link.node.membership) :
    (link.withNode node).Airworthy := by
  intro flight flying
  exact (airworthy flight flying).congr me membership

theorem Fresh.airworthy {link : Link} (fresh : link.Fresh) :
    link.Airworthy := by
  obtain ⟨_, _, _, _, _, _, noFlight, _⟩ := fresh
  intro flight flying
  rw [noFlight] at flying
  contradiction

theorem SenderMove.airworthy {link after : Link} {datagrams : List Datagram}
    (move : SenderMove link after datagrams) : after.Airworthy := by
  have only := move.queuesOnly
  intro flight flying
  cases move with
  | abandon _ _ _ _ _ flight_eq =>
      rw [flight_eq] at flying
      contradiction
  | depart _ _ _ departure _ flight_eq =>
      rw [flight_eq] at flying
      obtain rfl := Option.some.inj flying
      exact (carries_of_leaving departure).congr only.me_eq only.membership_eq
  | forget _ _ _ flight_eq =>
      rw [flight_eq] at flying
      contradiction
  | park _ _ _ _ _ flight_eq =>
      rw [flight_eq] at flying
      contradiction

theorem RetransmitterMove.airworthy {link after : Link}
    (move : RetransmitterMove link after) (airworthy : link.Airworthy) :
    after.Airworthy := by
  have flights : after.flight = link.flight := by
    cases move <;> assumption
  intro flight flying
  rw [flights] at flying
  exact (airworthy flight flying).congr move.queuesOnly.me_eq
    move.queuesOnly.membership_eq

theorem SenderMove.flight_of_left {link after : Link}
    {datagrams : List Datagram} (move : SenderMove link after datagrams)
    {datagram : Datagram} (leaves : datagram ∈ datagrams) :
    ∃ flight, link.flight = some flight ∧ datagram = flight.datagram := by
  cases move with
  | abandon _ _ _ _ _ _ _ nothing =>
      rw [nothing] at leaves
      contradiction
  | depart _ _ _ _ _ _ _ nothing =>
      rw [nothing] at leaves
      contradiction
  | @forget flight flying _ _ _ _ left =>
      exact ⟨flight, flying, left datagram leaves⟩
  | @park flight _ flying _ _ _ _ _ _ left =>
      exact ⟨flight, flying, left datagram leaves⟩

theorem SenderMove.alike_of_mem {link after : Link}
    {datagrams : List Datagram} (move : SenderMove link after datagrams)
    {message : Message} (member : message ∈ after.pipeline) :
    ∃ old ∈ link.pipeline, message.Alike old := by
  cases move.exchange with
  | drop dropped pipeline =>
      have kept := pipeline.mem_iff.mpr (List.mem_cons_of_mem dropped member)
      exact ⟨message, kept, .refl message⟩
  | replace old new rest before behind alike =>
      rcases List.mem_cons.mp (behind.mem_iff.mp member) with rfl | other
      · exact ⟨old, before.mem_iff.mpr List.mem_cons_self, alike⟩
      · have kept := before.mem_iff.mpr (List.mem_cons_of_mem old other)
        exact ⟨message, kept, .refl message⟩

theorem RetransmitterMove.mem_of_mem {link after : Link}
    (move : RetransmitterMove link after) {message : Message}
    (member : message ∈ after.pipeline) : message ∈ link.pipeline := by
  cases move.exchange with
  | settle settled pipeline =>
      exact pipeline.mem_iff.mpr (List.mem_cons_of_mem settled member)
  | keep pipeline => exact pipeline.mem_iff.mpr member

/-- After a node has learned something and sent some parcels, its pipeline holds
what it held before, and those parcels. -/
theorem mem_pipeline_sendAll {link : Link} {learned : Node}
    {parcels : List Parcel} (learns : Node.Learns link.node learned)
    (opened : learned.sending.hasConsumer = true) {message : Message}
    (member : message ∈ (link.withNode (learned.sendAll parcels)).pipeline) :
    message ∈ link.pipeline ∨ message.parcel ∈ parcels := by
  obtain ⟨sending, items, _, sent⟩ := Node.sendAll_of_open opened parcels
  have queued : learned.sending = link.node.sending := by
    rw [learns.node_eq]
  have parked : learned.retransmissions = link.node.retransmissions := by
    rw [learns.node_eq]
  simp only [mem_pipeline, inFlight, node_withNode, flight_withNode,
    held_withNode, sent, items, queued, parked, List.mem_append] at member ⊢
  rcases member with (old | new) | others
  · exact .inl (.inl old)
  · obtain ⟨parcel, listed, rfl⟩ := List.mem_map.mp new
    exact .inr listed
  · exact .inl (.inr others)

/-! ## The count of data -/

/-- The count of data is right, and only data waits for its
acknowledgement. -/
structure Counted (link : Link) : Prop where
  unacked_eq : link.node.unacked = link.pipeline.countP Message.isData
  data : ∀ message ∈ link.node.retransmissions.toList ++ link.held.toList,
    message.isData = true

theorem Fresh.counted {link : Link} (fresh : link.Fresh) : link.Counted := by
  obtain ⟨nothing, unacked, _⟩ := fresh.at_rest
  constructor
  · rw [nothing, unacked]
    rfl
  · intro message member
    have inPipeline : message ∈ link.pipeline := by
      rcases List.mem_append.mp member with parked | held
      · exact mem_pipeline.mpr (.inr (.inr (.inl parked)))
      · exact mem_pipeline.mpr (.inr (.inr (.inr held)))
    rw [nothing] at inPipeline
    contradiction

theorem Counted.parcels_eq_nil {link : Link} (counted : link.Counted)
    (idle : link.node.unacked = 0) : link.parcels link.pipeline = [] := by
  have noData : ∀ message ∈ link.pipeline, ¬message.isData = true := by
    rw [← List.countP_eq_zero, ← counted.unacked_eq]
    exact idle
  rw [parcels, Parcel.deliverable, List.map_eq_nil_iff, List.filter_eq_nil_iff]
  intro parcel carried deliverable
  obtain ⟨message, inPipeline, rfl⟩ := List.mem_map.mp carried
  simp only [Parcel.isDeliverable, Bool.and_eq_true] at deliverable
  exact noData message inPipeline deliverable.1.1

theorem Counted.learn {link : Link} (counted : link.Counted) {after : Node}
    (learns : Node.Learns link.node after) : (link.withNode after).Counted := by
  have same := learns.node_eq
  constructor
  · simp only [pipeline, inFlight, node_withNode, flight_withNode,
      held_withNode]
    rw [same]
    exact counted.unacked_eq
  · simp only [node_withNode, held_withNode]
    rw [same]
    exact counted.data

theorem Counted.sendAll {link : Link} (counted : link.Counted)
    (opened : link.node.sending.hasConsumer = true) (parcels : List Parcel) :
    (link.withNode (link.node.sendAll parcels)).Counted := by
  obtain ⟨sending, items, _, sent⟩ := Node.sendAll_of_open opened parcels
  have before := counted.unacked_eq
  constructor
  · have new : (parcels.map fun parcel => Message.new parcel.payload
        parcel.recipient link.node.now).countP Message.isData =
          (parcels.filter fun parcel => !parcel.payload.isAck).length := by
      rw [List.countP_map, List.countP_eq_length_filter]
      rfl
    simp only [pipeline, inFlight, List.countP_append] at before
    simp only [pipeline, inFlight, node_withNode, flight_withNode,
      held_withNode, sent, items, List.countP_append, new]
    omega
  · simp only [node_withNode, held_withNode, sent]
    exact counted.data

theorem SenderMove.unacked_eq_add {link after : Link}
    {datagrams : List Datagram} (move : SenderMove link after datagrams)
    {others : Nat} (before : link.node.unacked =
      link.pipeline.countP Message.isData + others) :
    after.node.unacked = after.pipeline.countP Message.isData + others := by
  cases move.exchange with
  | drop message pipeline _ unacked_eq =>
      have whole := pipeline.countP_eq Message.isData
      rw [List.countP_cons] at whole
      rw [unacked_eq, List.countP_singleton, before, whole]
      omega
  | replace old new rest before behind alike unacked_eq =>
      have left := before.countP_eq Message.isData
      have right := behind.countP_eq Message.isData
      rw [List.countP_cons] at left right
      rw [alike.isData_eq] at right
      omega

theorem SenderMove.data_of_waiting {link after : Link}
    {datagrams : List Datagram} (move : SenderMove link after datagrams)
    (before : ∀ message ∈ link.node.retransmissions.toList ++ link.held.toList,
      message.isData = true) :
    ∀ message ∈ after.node.retransmissions.toList ++ after.held.toList,
      message.isData = true := by
  cases move with
  | abandon _ _ _ _ node_eq _ held_eq =>
      simpa only [node_eq, held_eq, Node.retransmissions_discountUnacked]
        using before
  | depart _ _ _ _ node_eq _ held_eq =>
      simpa only [node_eq, held_eq] using before
  | forget _ _ node_eq _ held_eq =>
      simpa only [node_eq, held_eq] using before
  | @park flight _ _ data items _ node_eq _ held_eq =>
      have parked :
          (flight.message.transmitted link.node.now).isData = true := by
        simp [Message.isData, Message.transmitted, data]
      intro message member
      have kept := before message
      simp only [node_eq, held_eq, items, List.mem_append,
        List.mem_singleton] at member kept
      rcases member with (old | rfl) | held
      · exact kept (.inl old)
      · exact parked
      · exact kept (.inr held)

theorem Counted.sender {link after : Link} {datagrams : List Datagram}
    (counted : link.Counted) (move : SenderMove link after datagrams) :
    after.Counted := by
  have counts := move.unacked_eq_add
    (counted.unacked_eq.trans (Nat.add_zero _).symm)
  exact ⟨counts, move.data_of_waiting counted.data⟩

/-- What waits for its acknowledgement after a step of the retransmitter has
waited before. -/
theorem RetransmitterMove.waiting_subset {link after : Link}
    (move : RetransmitterMove link after) :
    after.node.retransmissions.toList ++ after.held.toList ⊆
      link.node.retransmissions.toList ++ link.held.toList := by
  intro message member
  cases move with
  | settleNext empty taken _ _ node_eq _ held_eq =>
      simp only [node_eq, Node.settle, held_eq, Option.toList_none,
        List.append_nil] at member
      simp [taken, member]
  | hold empty taken _ _ node_eq _ held_eq =>
      simp only [node_eq, held_eq, Option.toList_some, List.mem_append,
        List.mem_singleton] at member
      simp only [taken, List.mem_append, List.mem_cons]
      rcases member with parked | rfl
      · exact .inl (.inr parked)
      · exact .inl (.inl rfl)
  | settleHeld holding _ node_eq _ held_eq =>
      simp only [node_eq, Node.settle, held_eq, Option.toList_none,
        List.append_nil] at member
      exact List.mem_append_left _ member
  | requeue holding _ _ _ node_eq _ held_eq =>
      simp only [node_eq, held_eq, Option.toList_none,
        List.append_nil] at member
      exact List.mem_append_left _ member

/-- The retransmitter lowers the count as it drops data, if nothing but data
waits for it. -/
theorem RetransmitterMove.unacked_eq_add {link after : Link}
    (move : RetransmitterMove link after)
    (data : ∀ message ∈ link.node.retransmissions.toList ++ link.held.toList,
      message.isData = true)
    {others : Nat} (before : link.node.unacked =
      link.pipeline.countP Message.isData + others) :
    after.node.unacked = after.pipeline.countP Message.isData + others := by
  cases move.exchange with
  | settle message pipeline _ waiting unacked_eq =>
      have whole := pipeline.countP_eq Message.isData
      rw [List.countP_cons, data message waiting, if_pos rfl] at whole
      omega
  | keep pipeline _ unacked_eq =>
      have whole := pipeline.countP_eq Message.isData
      omega

theorem Counted.retransmitter {link after : Link} (counted : link.Counted)
    (move : RetransmitterMove link after) : after.Counted := by
  have counts := move.unacked_eq_add counted.data
    (counted.unacked_eq.trans (Nat.add_zero _).symm)
  exact ⟨counts, fun message member =>
    counted.data message (move.waiting_subset member)⟩

end Link

end CausalCast
