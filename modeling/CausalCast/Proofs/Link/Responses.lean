import CausalCast.Proofs.Datagrams
import CausalCast.Proofs.Link.Steps
import CausalCast.Proofs.Membership.Admission
import CausalCast.Proofs.Node.Relays
import CausalCast.Proofs.Tracker.Consistency

/-!
# Responses are never dropped

The sender drops a message that has no way to its recipient: the recipient has
no address, or the payload does not fit in a datagram.  Neither can happen to
what a node queues in response to a datagram.  Whoever the tracker takes for a
node is a member, because the ids of the members fill their range; and a
response is as long as the datagram that it responds to, whoever it is stamped
by.  For the same reasons a node that has recorded a payload can record itself
as a witness of the message at any later time.
-/

namespace CausalCast

namespace Payload

theorem encodedLength_of_decode? {bytes : List UInt8} {clockLength : UInt64}
    {payload : Payload} (short : bytes.length ≤ 65535)
    (decoded : decode? bytes clockLength = some (.ok payload)) :
    payload.encodedLength = bytes.length := by
  obtain ⟨_, _, rfl⟩ := of_decode?_eq_ok short decoded
  exact payload.length_toBytes.symm

theorem encodedLength_of_original_eq {left right : Payload}
    (same : left.original = right.original) :
    left.encodedLength = right.encodedLength := by
  obtain ⟨_, content, clock⟩ := original_eq_iff.mp same
  simp only [encodedLength, content, clock]

end Payload

/-! ## Who is a node -/

namespace Node

section Nodes

variable {node : Node} (proper : node.Proper)

include proper

theorem isNode_eq_contains (id : NodeId) :
    node.tracker.isNode id = node.membership.contains id := by
  rw [Bool.eq_iff_iff, Membership.contains_iff_inRange, Tracker.isNode,
    Bool.and_eq_true, decide_eq_true_eq, decide_eq_true_eq,
    proper.nodeCount_eq]

theorem problem?_eq_none_iff_contains {sender : NodeId} {payload : Payload} :
    node.tracker.problem? sender payload = none ↔
      node.membership.contains sender = true ∧
        node.membership.contains payload.owner = true ∧
        payload.clock.length = node.clockLength := by
  rw [Tracker.problem?_eq_none_iff, isNode_eq_contains proper,
    isNode_eq_contains proper, Tracker.clockLength, proper.nodeCount_eq]
  rfl

/-- What a node replies goes to members, and is as long as what it replies to;
it is the answer to the payload or one of its copies. -/
theorem of_mem_replies {payload : Payload} {parcel : Parcel}
    (member : parcel ∈ node.replies payload) :
    (Message.new parcel.payload parcel.recipient node.now =
          node.answerTo payload ∨
        Message.new parcel.payload parcel.recipient node.now ∈
          node.copiesOf payload) ∧
      node.membership.contains parcel.recipient = true ∧
      parcel.payload.encodedLength = payload.encodedLength := by
  cases valid : node.tracker.problem? payload.sender payload with
  | some problem => simp [replies, valid] at member
  | none =>
      cases ack : payload.isAck with
      | true => simp [replies, valid, ack] at member
      | false =>
          simp only [replies, valid, ack, Bool.false_eq_true, if_false,
            List.mem_cons] at member
          rcases member with rfl | copied
          · have senderMember :=
              ((problem?_eq_none_iff_contains proper).mp valid).1
            exact ⟨.inl rfl, senderMember, rfl⟩
          · split at copied
            case isFalse => contradiction
            case isTrue =>
                rw [relays_witnessed proper] at copied
                split at copied
                · contradiction
                · obtain ⟨peer, listed, rfl⟩ := List.mem_map.mp copied
                  have copy := List.mem_map_of_mem (f := fun peer =>
                    Message.new (payload.stamped node.me).toData peer
                      node.now) listed
                  exact ⟨.inr copy, (Membership.mem_peerIds.mp listed).1, rfl⟩

end Nodes

end Node

/-! ## What no step changes -/

namespace Link

/-- Two states of a link between which its node stays who it is, among the same
members. -/
structure Stays (before after : Link) : Prop where
  me_eq : after.node.me = before.node.me
  membership_eq : after.node.membership = before.node.membership

theorem Stays.refl (link : Link) : Stays link link :=
  ⟨rfl, rfl⟩

theorem Stays.trans {first second third : Link} (left : Stays first second)
    (right : Stays second third) : Stays first third :=
  ⟨right.me_eq.trans left.me_eq, right.membership_eq.trans left.membership_eq⟩

theorem stays_of_queuesOnly {before after : Link}
    (only : Node.QueuesOnly before.node after.node) : Stays before after :=
  ⟨only.me_eq, only.membership_eq⟩

theorem stays_of_sendAll {link : Link} {learned : Node}
    (proper : link.node.Proper) (learns : Node.Learns link.node learned)
    (parcels : List Parcel) :
    Stays link (link.withNode (learned.sendAll parcels)) := by
  have only := Node.queuesOnly_sendAll (learns.proper proper).sendingOpen parcels
  constructor
  · refine only.me_eq.trans ?_
    rw [learns.node_eq]
  · refine only.membership_eq.trans ?_
    rw [learns.node_eq]

theorem Stir.stays {link after : Link} (stir : link.Stir after)
    (proper : link.node.Proper) : Stays link after := by
  cases stir with
  | send payload recipient =>
      exact stays_of_sendAll proper (.refl _) [⟨payload, recipient⟩]
  | handle payload =>
      rw [Node.handlePayload_eq proper]
      exact stays_of_sendAll proper (Node.learns_heard _ payload) _
  | originate uid content =>
      rw [Node.originate_eq proper]
      apply stays_of_sendAll proper
      exact (Node.learns_announce _ content).trans
        (Node.learns_witnessed _ _ _)
  | @hear sender payload heard sighting recorded =>
      rw [Node.eq_witnessed_of_insert recorded]
      exact stays_of_sendAll proper (Node.learns_witnessed _ sender payload) []
  | delay milliseconds => exact ⟨rfl, rfl⟩

variable {pace : Link → Prop}

theorem Step.stays {link after : Link} (step : Step pace link after)
    (proper : link.node.Proper) : Stays link after := by
  cases step with
  | stir stir => exact stir.stays proper
  | sender step =>
      exact stays_of_queuesOnly (senderMove_of_stepSender step).queuesOnly
  | retransmitter step =>
      exact stays_of_queuesOnly
        (retransmitterMove_of_stepRetransmitter step).queuesOnly
  | tick => exact stays_of_queuesOnly link.node.queuesOnly_tick

theorem stays_of_steps {origin link later : Link} (fresh : origin.Fresh)
    (before : Relation.ReflTransGen (Step pace) origin link)
    (after : Relation.ReflTransGen (Step pace) link later) :
    Stays link later := by
  induction after with
  | refl => exact .refl link
  | tail steps step induction =>
      have proper := (fresh.steps_keep (before.trans steps)).1
      exact induction.trans (step.stays proper)

/-! ## Responses -/

/-- Whatever a node queues in response to a datagram goes to a node with an
address and fits in a datagram, of the length of the one received, also when the
node puts its own name on it; so the sender never drops it, however often it is
sent.  And once the node has recorded the payload, nothing keeps it from
recording itself as a witness of the message. -/
theorem responses_always_leave {origin link : Link} (fresh : origin.Fresh)
    (run : Relation.ReflTransGen (Step pace) origin link)
    {bytes : List UInt8} {payload : Payload} (short : bytes.length ≤ 65535)
    (decoded : Payload.decode? bytes (UInt64.ofNat link.node.clockLength) =
      some (.ok payload)) :
    (∃ responses, (link.node.handlePayload payload).sending.toList =
          link.node.sending.toList ++ responses ∧
        ∀ response ∈ responses,
          (response = link.node.answerTo payload ∨
            response ∈ link.node.copiesOf payload) ∧
          (∃ address,
            link.node.membership.address? response.recipient = some address) ∧
          (∃ datagram, response.payload.encode = .ok datagram ∧
            datagram.length = bytes.length) ∧
          (∃ datagram,
            (response.payload.stamped link.node.me).encode = .ok datagram ∧
              datagram.length = bytes.length) ∧
          ∀ later, Relation.ReflTransGen (Step pace)
              (link.withNode (link.node.handlePayload payload)) later →
            ∀ message, message.Alike response →
              later.node.departure message ≠ .abandoned) ∧
      ∀ heard sighting,
        link.node.insert payload.sender payload = .ok (heard, sighting) →
        ∀ later, Relation.ReflTransGen (Step pace) (link.withNode heard) later →
          (∃ marked, later.node.markAsSeen payload = .ok marked) ∧
            ∃ relayed,
              later.node.uniformReliableBroadcast payload = .ok relayed := by
  have proper := (fresh.steps_keep run).1
  have length := Payload.encodedLength_of_decode? short decoded
  have encoded : ∀ copy : Payload, copy.encodedLength = payload.encodedLength →
      ∃ datagram, copy.encode = .ok datagram ∧
        datagram.length = bytes.length := by
    intro copy same
    have fits : copy.encodedLength ≤ Payload.maxDatagram := by
      rw [same, length]
      exact short
    refine ⟨copy.toBytes, Payload.encode_eq_ok fits, ?_⟩
    rw [Payload.length_toBytes, same, length]
  constructor
  · obtain ⟨sending, unacked, handled, items⟩ :=
      Node.handlePayload_appends proper payload
    refine ⟨_, by rw [handled, items], ?_⟩
    intro response listed
    obtain ⟨parcel, replied, rfl⟩ := List.mem_map.mp listed
    obtain ⟨kind, member, same⟩ := Node.of_mem_replies proper replied
    have known := member
    rw [← Membership.address?_isSome] at known
    refine ⟨kind, Option.isSome_iff_exists.mp known, encoded _ same,
      encoded _ same, ?_⟩
    intro later steps message alike
    have handling : Step pace link
        (link.withNode (link.node.handlePayload payload)) :=
      .stir (.handle payload)
    have stays := stays_of_steps fresh run (.head handling steps)
    apply Node.departure_ne_abandoned
    · rw [stays.membership_eq, alike.recipient_eq]
      exact member
    · rw [Payload.encodedLength_of_original_eq alike.original_eq]
      change parcel.payload.encodedLength ≤ Payload.maxDatagram
      rw [same, length]
      exact short
  · intro heard sighting recorded later steps
    have hearing : Step pace link (link.withNode heard) := .stir (.hear recorded)
    have stays := stays_of_steps fresh run (.head hearing steps)
    have laterProper := (fresh.steps_keep (run.trans (.head hearing steps))).1
    have accepted : link.node.accepts payload = true := by
      rw [Node.accepts, recorded]
      rfl
    obtain ⟨_, owner, clock⟩ := (Node.problem?_eq_none_iff_contains proper).mp
      (Node.accepts_iff.mp accepted)
    have valid : later.node.tracker.problem? later.node.me payload = none := by
      apply (Node.problem?_eq_none_iff_contains laterProper).mpr
      refine ⟨laterProper.member, ?_, ?_⟩
      · rw [stays.membership_eq]
        exact owner
      · rw [clock, Node.clockLength, Node.clockLength, stays.membership_eq]
    exact ⟨⟨_, Node.insert_of_valid _ _ _ valid⟩,
      ⟨_, Node.uniformReliableBroadcast_eq laterProper valid⟩⟩

/-- The second of two nodes can answer the datagram of the first one's message,
and can record itself as a witness of that message. -/
theorem responses_always_leave_of_pair :
    ∃ node heard, Node.create 2 .pair (.empty 3) (.broadcast 1) {} = .ok node ∧
      Payload.decode? (Payload.data 1 1 [49] 3).toBytes
          (UInt64.ofNat node.clockLength) = some (.ok (.data 1 1 [49] 3)) ∧
      (∃ response ∈
          (node.handlePayload (.data 1 1 [49] 3)).sending.toList,
        response.payload = (Payload.data 1 1 [49] 3).toAck ∧
          (node.handlePayload (.data 1 1 [49] 3)).departure response ≠
            .abandoned) ∧
      (∃ sighting, node.insert 1 (.data 1 1 [49] 3) = .ok (heard, sighting)) ∧
      ∃ marked, heard.markAsSeen (.data 1 1 [49] 3) = .ok marked := by
  obtain ⟨node, created, valid, empty⟩ :
      ∃ node, Node.create 2 .pair (.empty 3) (.broadcast 1) {} = .ok node ∧
        node.tracker.problem? 1 (.data 1 1 [49] 3) = none ∧
        node.sending.toList = [] := ⟨_, rfl, rfl, rfl⟩
  have fresh : (idle (Station.new node)).Fresh :=
    ⟨2, .pair, .empty 3, .broadcast 1, {}, created, rfl, rfl⟩
  have decoded : Payload.decode? (Payload.data 1 1 [49] 3).toBytes
      (UInt64.ofNat node.clockLength) = some (.ok (.data 1 1 [49] 3)) := by
    rw [Node.clockLength, (Node.parts_of_create created).2.1]
    rfl
  have started : Relation.ReflTransGen (Step fun _ => True)
      (idle (Station.new node)) (idle (Station.new node)) := .refl
  have short : (Payload.data 1 1 [49] 3).toBytes.length ≤ 65535 := by
    rw [Payload.length_toBytes]
    decide
  obtain ⟨⟨responses, items, leave⟩, marks⟩ :=
    responses_always_leave fresh started short decoded
  have items : (node.handlePayload (.data 1 1 [49] 3)).sending.toList =
      node.sending.toList ++ responses := items
  have data : (Payload.data 1 1 [49] 3).isAck = false := rfl
  obtain ⟨response, listed, answer, _⟩ := Node.exists_ack_of_handlePayload
    (Node.proper_of_create created) valid data
  rw [empty, List.nil_append] at items
  have recorded := Node.insert_of_valid node 1 (.data 1 1 [49] 3) valid
  refine ⟨node, _, created, decoded, ⟨response, listed, answer, ?_⟩,
    ⟨_, recorded⟩, (marks _ _ recorded _ .refl).1⟩
  rw [items] at listed
  obtain ⟨_, _, _, _, never⟩ := leave response listed
  exact never _ .refl response (.refl response)

end Link

end CausalCast
