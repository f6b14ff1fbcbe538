import CausalCast.Proofs.Link.Exchanges

/-!
# The link keeps what it was handed

A parcel is deliverable if it is data, its recipient has an address, and it
fits in a datagram.  Along every run of a node's link, each deliverable parcel
that was handed over is in exactly one place: the sending queue, the sender's
hand, the retransmission queue, the retransmitter's hand, or among the settled
ones, and a parcel is settled only when its recipient is known to have seen
it.  The proof follows one conservation law through every step: the parcels
handed over are, as a multiset, those in the pipeline and those settled.
-/

namespace CausalCast

namespace Parcel

/-- Whether the link has to get a parcel across, and can. -/
def isDeliverable (membership : Membership) (parcel : Parcel) : Bool :=
  !parcel.payload.isAck && (membership.address? parcel.recipient).isSome &&
    parcel.payload.encodedLength ≤ Payload.maxDatagram

/-- A parcel as its owner would have sent it: what the link leaves alone. -/
def original (parcel : Parcel) : Parcel :=
  { parcel with payload := parcel.payload.original }

/-- The deliverable ones of some parcels, as their owners would have sent
them. -/
def deliverable (membership : Membership) (parcels : List Parcel) :
    List Parcel :=
  (parcels.filter (isDeliverable membership)).map original

@[simp] theorem deliverable_append (membership : Membership)
    (left right : List Parcel) :
    deliverable membership (left ++ right) =
      deliverable membership left ++ deliverable membership right := by
  simp [deliverable]

theorem mem_deliverable {membership : Membership} {parcels : List Parcel}
    {parcel : Parcel} (listed : parcel ∈ parcels)
    (data : parcel.payload.isAck = false)
    (member : membership.contains parcel.recipient = true)
    (fits : parcel.payload.encodedLength ≤ Payload.maxDatagram) :
    parcel.original ∈ deliverable membership parcels := by
  apply List.mem_map_of_mem
  apply List.mem_filter.mpr
  refine ⟨listed, ?_⟩
  rw [← Membership.address?_isSome] at member
  simp [isDeliverable, data, member, fits]

theorem deliverable_subset_cons (membership : Membership) (parcel : Parcel)
    (parcels : List Parcel) :
    deliverable membership parcels ⊆
      deliverable membership (parcel :: parcels) := by
  change _ ⊆ deliverable membership ([parcel] ++ parcels)
  rw [deliverable_append]
  exact List.subset_append_right _ _

end Parcel

/-- A message without what the link notes on it. -/
def Message.parcel (message : Message) : Parcel :=
  ⟨message.payload, message.recipient⟩

namespace Link

/-- The deliverable parcels among some messages of a link. -/
def parcels (link : Link) (messages : List Message) : List Parcel :=
  Parcel.deliverable link.node.membership (messages.map Message.parcel)

end Link

/-- What was handed to a link, and what it has settled. -/
structure Ledger where
  handed : List Parcel
  settled : List Parcel

namespace Ledger

def empty : Ledger :=
  ⟨[], []⟩

def hand (ledger : Ledger) (link : Link) (parcels : List Parcel) : Ledger :=
  { ledger with
    handed := ledger.handed ++
      Parcel.deliverable link.node.membership parcels }

def settle (ledger : Ledger) (link : Link) : Ledger :=
  { ledger with settled := ledger.settled ++ link.parcels link.settling }

end Ledger

namespace Link

/-- The runs of a link: every operation of its node and every step of its
loops, in any order. -/
inductive Run (origin : Link) : Link → Ledger → Prop where
  | start : Run origin origin .empty
  | send {link : Link} {ledger : Ledger} (payload : Payload)
      (recipient : NodeId) :
      Run origin link ledger →
      Run origin (link.withNode (link.node.send payload recipient).1)
        (ledger.hand link [⟨payload, recipient⟩])
  | handle {link : Link} {ledger : Ledger} (payload : Payload) :
      Run origin link ledger →
      Run origin (link.withNode (link.node.handlePayload payload))
        (ledger.hand link (link.node.replies payload))
  | originate {link : Link} {ledger : Ledger} (uid : UInt32)
      (content : List UInt8) :
      Run origin link ledger →
      Run origin (link.withNode (link.node.originate uid content).1)
        (ledger.hand link (link.node.relays (link.node.firstCopy uid content)))
  | hear {link : Link} {ledger : Ledger} {sender : NodeId} {payload : Payload}
      {heard : Node} {sighting : Tracker.Sighting} :
      Run origin link ledger →
      link.node.insert sender payload = .ok (heard, sighting) →
      Run origin (link.withNode heard) ledger
  | sender {link after : Link} {ledger : Ledger}
      {outcomes : List (Option Mishap)} {datagrams : List Datagram} :
      Run origin link ledger →
      link.stepSender outcomes = some (after, datagrams) →
      Run origin after ledger
  | retransmitter {link after : Link} {ledger : Ledger} :
      Run origin link ledger →
      link.stepRetransmitter = some after →
      Run origin after (ledger.settle link)
  | tick {link : Link} {ledger : Ledger} :
      Run origin link ledger → Run origin link.tick ledger

/-- A fresh node of any kind on any station. -/
def Fresh (link : Link) : Prop :=
  ∃ me membership graph workload settings,
    Node.create me membership graph workload settings = .ok link.node ∧
      link.flight = none ∧ link.held = none

/-! ## Conservation -/

section Parcels

variable (link : Link)

@[simp] theorem parcels_nil : link.parcels [] = [] := rfl

@[simp] theorem parcels_append (left right : List Message) :
    link.parcels (left ++ right) = link.parcels left ++ link.parcels right := by
  simp [parcels]

theorem parcels_cons (message : Message) (rest : List Message) :
    link.parcels (message :: rest) =
      link.parcels [message] ++ link.parcels rest :=
  parcels_append link [message] rest

theorem parcels_perm {left right : List Message} (same : left.Perm right) :
    (link.parcels left).Perm (link.parcels right) :=
  ((same.map _).filter _).map _

theorem parcels_eq_of_alike {new old : Message} (alike : new.Alike old) :
    link.parcels [new] = link.parcels [old] := by
  have kind : new.payload.isAck = old.payload.isAck :=
    Bool.not_inj alike.isData_eq
  have length : new.payload.encodedLength = old.payload.encodedLength := by
    have originals := congrArg Payload.encodedLength alike.original_eq
    exact originals
  have same : Parcel.isDeliverable link.node.membership new.parcel =
      Parcel.isDeliverable link.node.membership old.parcel := by
    unfold Parcel.isDeliverable Message.parcel
    rw [kind, length, alike.recipient_eq]
  have original : new.parcel.original = old.parcel.original := by
    simp only [Parcel.original, Message.parcel, alike.original_eq,
      alike.recipient_eq]
  simp only [parcels, Parcel.deliverable, List.map_cons, List.map_nil,
    List.filter_cons, List.filter_nil, same]
  split <;> simp [original]

theorem parcels_eq_of_membership_eq {link after : Link}
    (same : after.node.membership = link.node.membership)
    (messages : List Message) :
    after.parcels messages = link.parcels messages := by
  simp only [parcels, same]

theorem parcels_of_ack {message : Message} (ack : message.isData = false) :
    link.parcels [message] = [] := by
  simp only [Message.isData, Bool.not_eq_false'] at ack
  simp [parcels, Parcel.deliverable, Parcel.isDeliverable, Message.parcel, ack]

theorem parcels_of_abandoned {message : Message}
    (departure : link.node.departure message = .abandoned) :
    link.parcels [message] = [] := by
  have undeliverable :
      Parcel.isDeliverable link.node.membership message.parcel = false := by
    unfold Node.departure at departure
    split at departure
    case h_1 noAddress =>
        simp [Parcel.isDeliverable, Message.parcel, noAddress]
    case h_2 address _ =>
        dsimp only at departure
        split at departure
        case h_2 => contradiction
        case h_1 refused =>
            have large : ¬message.payload.encodedLength ≤ Payload.maxDatagram := by
              intro fits
              have stampedFits : (message.payload.stamped
                  link.node.me).encodedLength ≤ Payload.maxDatagram := fits
              have encoded := Payload.encode_eq_ok stampedFits
              rw [encoded] at refused
              contradiction
            simp [Parcel.isDeliverable, Message.parcel, large]
  simp [parcels, Parcel.deliverable, undeliverable]

end Parcels

theorem SenderMove.parcels_perm {link after : Link}
    {datagrams : List Datagram} (move : SenderMove link after datagrams) :
    (after.parcels after.pipeline).Perm (link.parcels link.pipeline) := by
  rw [parcels_eq_of_membership_eq move.queuesOnly.membership_eq]
  cases move.exchange with
  | drop message pipeline useless _ =>
      have gone : link.parcels [message] = [] := by
        rcases useless with ack | departure
        · exact link.parcels_of_ack ack
        · exact link.parcels_of_abandoned departure
      have whole := link.parcels_perm pipeline
      rw [parcels_cons, gone, List.nil_append] at whole
      exact whole.symm
  | replace old new rest before behind alike _ =>
      have left := link.parcels_perm before
      have right := link.parcels_perm behind
      rw [parcels_cons] at left right
      rw [link.parcels_eq_of_alike alike] at right
      exact right.trans left.symm

theorem RetransmitterMove.parcels_perm {link after : Link}
    (move : RetransmitterMove link after) :
    (after.parcels after.pipeline ++ link.parcels link.settling).Perm
      (link.parcels link.pipeline) := by
  rw [parcels_eq_of_membership_eq move.queuesOnly.membership_eq]
  cases move.exchange with
  | settle message pipeline settling_eq =>
      have whole := link.parcels_perm pipeline
      rw [parcels_cons] at whole
      rw [settling_eq]
      exact List.perm_append_comm.trans whole.symm
  | keep pipeline settling_eq =>
      rw [settling_eq, parcels_nil, List.append_nil]
      exact link.parcels_perm pipeline.symm

/-! ## Runs -/

structure Conserves (link : Link) (ledger : Ledger) : Prop where
  proper : link.node.Proper
  conserved : ledger.handed.Perm
    (link.parcels link.pipeline ++ ledger.settled)
  seen : ∀ parcel ∈ ledger.settled,
    link.node.tracker.contains parcel.recipient parcel.payload.message = true

theorem Fresh.proper {link : Link} (fresh : link.Fresh) : link.node.Proper := by
  obtain ⟨me, membership, graph, workload, settings, created, _⟩ := fresh
  exact Node.proper_of_create created

theorem Fresh.at_rest {link : Link} (fresh : link.Fresh) :
    link.pipeline = [] ∧ link.node.unacked = 0 ∧ link.node.enqueued = 0 := by
  obtain ⟨me, membership, graph, workload, settings, created, noFlight, noHeld⟩ :=
    fresh
  unfold Node.create at created
  split at created
  · contradiction
  · split at created
    · contradiction
    · have parts := Except.ok.inj created
      simp [pipeline, inFlight, noFlight, noHeld, ← parts]

theorem conserves_of_fresh {link : Link} (fresh : link.Fresh) :
    Conserves link .empty := by
  refine ⟨fresh.proper, ?_, by simp [Ledger.empty]⟩
  rw [fresh.at_rest.1]
  exact .refl _

theorem Conserves.learn {link : Link} {ledger : Ledger}
    (conserves : Conserves link ledger) {after : Node}
    (learns : Node.Learns link.node after) :
    Conserves (link.withNode after) ledger := by
  refine ⟨learns.proper conserves.proper, ?_, ?_⟩
  · have same : (link.withNode after).parcels (link.withNode after).pipeline =
        link.parcels link.pipeline := by
      simp only [parcels, pipeline, inFlight, node_withNode, flight_withNode,
        held_withNode]
      rw [learns.node_eq]
    rw [same]
    exact conserves.conserved
  · intro parcel member
    exact learns.contains _ _ (conserves.seen parcel member)

theorem Conserves.sendAll {link : Link} {ledger : Ledger}
    (conserves : Conserves link ledger) (handed : List Parcel) :
    Conserves (link.withNode (link.node.sendAll handed))
      (ledger.hand link handed) := by
  obtain ⟨sending, items, _, sent⟩ :=
    Node.sendAll_of_open conserves.proper.sendingOpen handed
  refine ⟨conserves.proper.sendAll handed, ?_, ?_⟩
  · have new : link.parcels (handed.map fun parcel =>
        Message.new parcel.payload parcel.recipient link.node.now) =
          Parcel.deliverable link.node.membership handed := by
      simp only [parcels, List.map_map]
      congr 1
      exact List.map_id handed
    have same : ∀ messages,
        (link.withNode (link.node.sendAll handed)).parcels messages =
          link.parcels messages := by
      intro messages
      rw [parcels_eq_of_membership_eq]
      rw [node_withNode, sent]
    rw [same, List.perm_iff_count]
    intro parcel
    have before := conserves.conserved.count_eq parcel
    simp only [pipeline, inFlight, node_withNode, flight_withNode,
      held_withNode, sent, items, new, Ledger.hand, parcels_append,
      List.count_append] at before ⊢
    omega
  · intro parcel member
    rw [node_withNode, sent]
    exact conserves.seen parcel member

theorem Conserves.sender {link after : Link} {ledger : Ledger}
    {datagrams : List Datagram} (conserves : Conserves link ledger)
    (move : SenderMove link after datagrams) : Conserves after ledger := by
  refine ⟨move.queuesOnly.proper conserves.proper, ?_, ?_⟩
  · exact conserves.conserved.trans
      (move.parcels_perm.symm.append_right ledger.settled)
  · intro parcel member
    rw [move.queuesOnly.tracker_eq]
    exact conserves.seen parcel member

theorem Conserves.retransmitter {link after : Link} {ledger : Ledger}
    (conserves : Conserves link ledger) (move : RetransmitterMove link after) :
    Conserves after (ledger.settle link) := by
  refine ⟨move.queuesOnly.proper conserves.proper, ?_, ?_⟩
  · rw [List.perm_iff_count]
    intro parcel
    have before := conserves.conserved.count_eq parcel
    have moved := move.parcels_perm.count_eq parcel
    simp only [Ledger.settle, List.count_append] at before moved ⊢
    omega
  · intro parcel member
    rw [move.queuesOnly.tracker_eq]
    rcases List.mem_append.mp member with old | new
    · exact conserves.seen parcel old
    · simp only [parcels, Parcel.deliverable, List.mem_map, List.mem_filter]
        at new
      obtain ⟨_, ⟨⟨message, settled, rfl⟩, _⟩, rfl⟩ := new
      exact (List.mem_filter.mp settled).2

theorem Conserves.tick {link : Link} {ledger : Ledger}
    (conserves : Conserves link ledger) : Conserves link.tick ledger :=
  ⟨link.node.queuesOnly_tick.proper conserves.proper, conserves.conserved,
    conserves.seen⟩

theorem Run.conserves {origin link : Link} {ledger : Ledger}
    (fresh : origin.Fresh) (run : Run origin link ledger) :
    Conserves link ledger := by
  induction run with
  | start => exact conserves_of_fresh fresh
  | @send link ledger payload recipient _ induction =>
      exact induction.sendAll [⟨payload, recipient⟩]
  | @handle link ledger payload _ induction =>
      rw [Node.handlePayload_eq induction.proper]
      have learns := Node.learns_heard link.node payload
      have replied := (induction.learn learns).sendAll (link.node.replies payload)
      have entered : ledger.hand (link.withNode (link.node.heard payload))
          (link.node.replies payload) =
            ledger.hand link (link.node.replies payload) := by
        simp only [Ledger.hand, node_withNode]
        rw [learns.node_eq]
      rw [entered] at replied
      exact replied
  | @originate link ledger uid content _ induction =>
      rw [Node.originate_eq induction.proper]
      have learns := (Node.learns_announce link.node content).trans
        (Node.learns_witnessed _ link.node.me
          (link.node.firstCopy uid content))
      exact (induction.learn learns).sendAll
        (link.node.relays (link.node.firstCopy uid content))
  | @hear link ledger sender payload heard sighting _ inserted induction =>
      apply induction.learn
      rw [Node.eq_witnessed_of_insert inserted]
      exact Node.learns_witnessed link.node sender payload
  | sender _ step induction =>
      exact induction.sender (senderMove_of_stepSender step)
  | retransmitter _ step induction =>
      exact induction.retransmitter
        (retransmitterMove_of_stepRetransmitter step)
  | tick _ induction => exact induction.tick

/-- Perfect-link retention: along every run, each deliverable parcel that was
handed over is in exactly one of the five places, as it was handed over, and
the recipient of a settled one is known to have seen it. -/
theorem handed_perm_places {origin link : Link} {ledger : Ledger}
    (fresh : origin.Fresh) (run : Run origin link ledger) :
    ledger.handed.Perm
        (link.parcels link.node.sending.toList ++ link.parcels link.inFlight ++
          link.parcels link.node.retransmissions.toList ++
          link.parcels link.held.toList ++ ledger.settled) ∧
      ∀ parcel ∈ ledger.settled,
        link.node.tracker.contains parcel.recipient
          parcel.payload.message = true := by
  have conserves := run.conserves fresh
  refine ⟨?_, conserves.seen⟩
  have conserved := conserves.conserved
  simp only [pipeline, parcels_append] at conserved
  exact conserved

theorem handed_perm_places_of_pair :
    ∃ origin link ledger, origin.Fresh ∧ Run origin link ledger ∧
      ledger.handed = [⟨Payload.data 1 1 [49] 3, 2⟩] ∧
      ledger.handed.Perm
        (link.parcels link.node.sending.toList ++ link.parcels link.inFlight ++
          link.parcels link.node.retransmissions.toList ++
          link.parcels link.held.toList ++ ledger.settled) ∧
      ∀ parcel ∈ ledger.settled,
        link.node.tracker.contains parcel.recipient
          parcel.payload.message = true := by
  obtain ⟨node, created⟩ : ∃ node, Node.create 1 .pair (.empty 3)
      (.broadcast 1) {} = .ok node := ⟨_, rfl⟩
  have fresh : (idle (Station.new node)).Fresh :=
    ⟨1, .pair, .empty 3, .broadcast 1, {}, created, rfl, rfl⟩
  have atRest : Run (idle (Station.new node)) (idle (Station.new node)) .empty :=
    .start
  have sent := atRest.send (Payload.data 1 1 [49] 3) 2
  obtain ⟨flying, depart⟩ : ∃ after,
      ((idle (Station.new node)).withNode
        ((idle (Station.new node)).node.send
          (Payload.data 1 1 [49] 3) 2).1).stepSender [] = some after := by
    rw [← Except.ok.inj created]
    exact ⟨_, rfl⟩
  have run := sent.sender depart
  have handed : (Ledger.empty.hand (idle (Station.new node))
      [⟨Payload.data 1 1 [49] 3, 2⟩]).handed =
        [⟨Payload.data 1 1 [49] 3, 2⟩] := by
    rw [← Except.ok.inj created]
    rfl
  exact ⟨_, _, _, fresh, run, handed, handed_perm_places fresh run⟩

end Link

end CausalCast
