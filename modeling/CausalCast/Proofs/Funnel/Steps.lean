import CausalCast.Proofs.Link.Loops
import CausalCast.Proofs.Members
import Mathlib.Logic.Function.Basic

/-!
# Funnels

A funnel is a membership at work for one receiver: every other node sends the
receiver its messages, one after the other, over its link.  In each step one
node does one thing, or the network does: a node produces its next message, a
loop of a link takes a step, time passes at a node, and what is in the air is
lost, repeated, or handed to a node that has the address it goes to.  Steps come
in any order.

Where no two members have the same address, the address is all that the network
goes by.  Where some share an address, the network is taken to know which of
them a datagram was sent to.
-/

namespace CausalCast

/-- A datagram on its way to a node. -/
structure Consignment where
  recipient : NodeId
  datagram : Datagram
deriving DecidableEq, Repr

namespace Link

/-- The datagrams that leave in a step of the sender, on their way to the
recipient of the message that it has in its hand. -/
def consign (link : Link) (datagrams : List Datagram) : List Consignment :=
  link.inFlight.flatMap fun message =>
    datagrams.map fun datagram => ⟨message.recipient, datagram⟩

end Link

structure Funnel where
  membership : Membership
  receiver : NodeId
  /-- How many messages each other node has for the receiver. -/
  messages : UInt32
  links : NodeId → Link
  air : List Consignment

namespace Funnel

def node (funnel : Funnel) (id : NodeId) : Node :=
  (funnel.links id).node

def update (funnel : Funnel) (id : NodeId) (link : Link)
    (air : List Consignment) : Funnel :=
  { funnel with links := Function.update funnel.links id link, air := air }

/-- Whether what is in the air can come to a node. -/
structure Reaches (funnel : Funnel) (consignment : Consignment)
    (id : NodeId) : Prop where
  addressed : funnel.membership.address? id =
    some consignment.datagram.destination
  known : funnel.membership.Apart ∨ id = consignment.recipient

/-- Fresh nodes with one membership and one workload, and nothing under way. -/
structure Initial (funnel : Funnel) : Prop where
  receiver_member : funnel.membership.contains funnel.receiver = true
  created : ∀ id, funnel.membership.contains id = true →
    ∃ graph settings, Node.create id funnel.membership graph
      (.pointToPoint funnel.receiver funnel.messages) settings =
        .ok (funnel.node id)
  flight_eq : ∀ id, funnel.membership.contains id = true →
    (funnel.links id).flight = none
  held_eq : ∀ id, funnel.membership.contains id = true →
    (funnel.links id).held = none
  air_eq : funnel.air = []

inductive Step (funnel : Funnel) : Funnel → Prop where
  | produce (id : NodeId) (uid : UInt32) {after : Node}
      (member : funnel.membership.contains id = true)
      (next : uid.toNat = (funnel.node id).enqueued.toNat + 1)
      (due : uid.toNat ≤ (funnel.node id).production.count)
      (made : (funnel.node id).produceOne (funnel.node id).production uid =
        (after, none)) :
      Step funnel
        (funnel.update id ((funnel.links id).withNode after) funnel.air)
  | sender (id : NodeId) (outcomes : List (Option Mishap)) {link : Link}
      {datagrams : List Datagram}
      (member : funnel.membership.contains id = true)
      (step : (funnel.links id).stepSender outcomes =
        some (link, datagrams)) :
      Step funnel (funnel.update id link
        (funnel.air ++ (funnel.links id).consign datagrams))
  | retransmitter (id : NodeId) {link : Link}
      (member : funnel.membership.contains id = true)
      (step : (funnel.links id).stepRetransmitter = some link) :
      Step funnel (funnel.update id link funnel.air)
  | tick (id : NodeId) (member : funnel.membership.contains id = true) :
      Step funnel (funnel.update id (funnel.links id).tick funnel.air)
  | lose (index : Nat) :
      Step funnel { funnel with air := funnel.air.eraseIdx index }
  | copy {consignment : Consignment} (aloft : consignment ∈ funnel.air) :
      Step funnel { funnel with air := funnel.air ++ [consignment] }
  | arrive (id : NodeId) (index : Nat) {consignment : Consignment}
      (found : funnel.air[index]? = some consignment)
      (reaches : funnel.Reaches consignment id) :
      Step funnel (funnel.update id ((funnel.links id).withNode
        ((funnel.node id).handleDatagram consignment.datagram.bytes))
          (funnel.air.eraseIdx index))

inductive Reachable : Funnel → Prop where
  | initial {funnel : Funnel} : Initial funnel → Reachable funnel
  | step {before after : Funnel} :
      Reachable before → Step before after → Reachable after

/-! ## What an update changes -/

section Update

variable (funnel : Funnel) (id : NodeId) (link : Link)
  (air : List Consignment)

theorem update_self :
    funnel.update id (funnel.links id) funnel.air = funnel := by
  simp [update]

theorem update_update (first second : Link) (more : List Consignment) :
    (funnel.update id first air).update id second more =
      funnel.update id second more := by
  simp [update]

@[simp] theorem links_update_self :
    (funnel.update id link air).links id = link := by
  simp [update]

@[simp] theorem node_update_self :
    (funnel.update id link air).node id = link.node := by
  simp [node]

theorem links_update_or (other : NodeId) :
    (other = id ∧ (funnel.update id link air).links other = link) ∨
      (other ≠ id ∧
        (funnel.update id link air).links other = funnel.links other) := by
  by_cases same : other = id
  · subst same
    exact .inl ⟨rfl, links_update_self _ _ _ _⟩
  · exact .inr ⟨same, Function.update_of_ne same _ _⟩

theorem node_update_or (other : NodeId) :
    (other = id ∧ (funnel.update id link air).node other = link.node) ∨
      (other ≠ id ∧
        (funnel.update id link air).node other = funnel.node other) := by
  rcases funnel.links_update_or id link air other with
    ⟨rfl, moved⟩ | ⟨different, still⟩
  · exact .inl ⟨rfl, congrArg Link.node moved⟩
  · exact .inr ⟨different, congrArg Link.node still⟩

theorem node_update_of_ne {other : NodeId} (different : other ≠ id) :
    (funnel.update id link air).node other = funnel.node other :=
  congrArg Link.node (Function.update_of_ne different _ _)

theorem tracker_update (kept : link.node.tracker = (funnel.node id).tracker)
    (other : NodeId) :
    ((funnel.update id link air).node other).tracker =
      (funnel.node other).tracker := by
  rcases funnel.node_update_or id link air other with
    ⟨rfl, moved⟩ | ⟨_, still⟩
  · rw [moved]
    exact kept
  · rw [still]

end Update

end Funnel

end CausalCast
