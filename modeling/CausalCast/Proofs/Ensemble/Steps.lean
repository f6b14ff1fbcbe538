import CausalCast.Proofs.Link.Loops
import CausalCast.Proofs.Tracker.Consistency
import Mathlib.Logic.Function.Basic
import Mathlib.Logic.Relation

/-!
# Ensembles

An ensemble is a membership at work: a link for each member, and the datagrams
in the air.  In each step one node does one thing, or the network does: a node
originates its next message, a loop of a link takes a step, time passes at a
node, and a datagram is lost, repeated, or handed to a node at its address.
Steps come in any order.

The history is written along and never read.  It has an entry for each message
that was originated, in the order of origination over all nodes.
-/

namespace CausalCast

/-- An originated message: by which node, its first copy, and what the node
had delivered before. -/
structure Origination where
  origin : NodeId
  payload : Payload
  delivered : List Payload

structure Ensemble where
  membership : Membership
  graph : CausalityGraph
  links : NodeId → Link
  air : List Datagram
  history : List Origination

namespace Ensemble

def node (ensemble : Ensemble) (id : NodeId) : Node :=
  (ensemble.links id).node

/-- The first copies of all messages, in the order of origination. -/
def messages (ensemble : Ensemble) : List Payload :=
  ensemble.history.map Origination.payload

def setLink (ensemble : Ensemble) (id : NodeId) (link : Link) : Ensemble :=
  { ensemble with links := Function.update ensemble.links id link }

/-- Fresh broadcasting nodes with one membership and one causality graph, and
nothing under way. -/
structure Initial (ensemble : Ensemble) : Prop where
  graph_eq : ∃ edges, CausalityGraph.ofEdges
    ensemble.membership.clockLength edges = .ok ensemble.graph
  created : ∀ id, ensemble.membership.contains id = true →
    ∃ messages settings, Node.create id ensemble.membership ensemble.graph
      (.broadcast messages) settings = .ok (ensemble.node id)
  flight_eq : ∀ id, ensemble.membership.contains id = true →
    (ensemble.links id).flight = none
  held_eq : ∀ id, ensemble.membership.contains id = true →
    (ensemble.links id).held = none
  air_eq : ensemble.air = []
  history_eq : ensemble.history = []

/-- The steps in which no message is originated. -/
inductive Quiet (ensemble : Ensemble) : Ensemble → Prop where
  | sender (id : NodeId) (outcomes : List (Option Mishap)) {link : Link}
      {datagrams : List Datagram}
      (member : ensemble.membership.contains id = true)
      (step : (ensemble.links id).stepSender outcomes =
        some (link, datagrams)) :
      Quiet ensemble { ensemble.setLink id link with
        air := ensemble.air ++ datagrams }
  | retransmitter (id : NodeId) {link : Link}
      (member : ensemble.membership.contains id = true)
      (step : (ensemble.links id).stepRetransmitter = some link) :
      Quiet ensemble (ensemble.setLink id link)
  | tick (id : NodeId) (member : ensemble.membership.contains id = true) :
      Quiet ensemble (ensemble.setLink id (ensemble.links id).tick)
  | lose (index : Nat) :
      Quiet ensemble { ensemble with air := ensemble.air.eraseIdx index }
  | copy {datagram : Datagram} (aloft : datagram ∈ ensemble.air) :
      Quiet ensemble { ensemble with air := ensemble.air ++ [datagram] }
  | arrive (id : NodeId) (index : Nat) {datagram : Datagram}
      (found : ensemble.air[index]? = some datagram)
      (addressed : ensemble.membership.address? id =
        some datagram.destination) :
      Quiet ensemble { ensemble.setLink id ((ensemble.links id).withNode
          ((ensemble.node id).handleDatagram datagram.bytes)) with
        air := ensemble.air.eraseIdx index }

/-- All steps.  A node numbers its messages from 1 on, and does not come to
the largest number there is. -/
inductive Step (ensemble : Ensemble) : Ensemble → Prop where
  | originate (id : NodeId) (uid : UInt32) (content : List UInt8)
      {after : Node} {payload : Payload}
      (member : ensemble.membership.contains id = true)
      (next : uid.toNat = ensemble.history.countP (·.origin = id) + 1)
      (room : uid ≠ lastUid)
      (made : (ensemble.node id).originate uid content =
        (after, .ok payload)) :
      Step ensemble { ensemble.setLink id
          ((ensemble.links id).withNode after) with
        history := ensemble.history ++
          [⟨id, payload, (ensemble.node id).delivered⟩] }
  | quiet {after : Ensemble} (step : Quiet ensemble after) :
      Step ensemble after

inductive Reachable : Ensemble → Prop where
  | initial {ensemble : Ensemble} : Initial ensemble → Reachable ensemble
  | step {before after : Ensemble} :
      Reachable before → Step before after → Reachable after

/-! ## What a step changes -/

/-- What a step without origination can make of the link of a node. -/
inductive Effect (ensemble : Ensemble) (id : NodeId) : Link → Prop where
  | none : Effect ensemble id (ensemble.links id)
  | sender {link : Link} {outcomes : List (Option Mishap)}
      {datagrams : List Datagram}
      (step : (ensemble.links id).stepSender outcomes =
        some (link, datagrams)) : Effect ensemble id link
  | retransmitter {link : Link}
      (step : (ensemble.links id).stepRetransmitter = some link) :
      Effect ensemble id link
  | tick : Effect ensemble id (ensemble.links id).tick
  | arrive {datagram : Datagram} (aloft : datagram ∈ ensemble.air)
      (addressed : ensemble.membership.address? id =
        some datagram.destination) :
      Effect ensemble id ((ensemble.links id).withNode
        ((ensemble.node id).handleDatagram datagram.bytes))

theorem effect_setLink {ensemble : Ensemble} {mover : NodeId} {link : Link}
    (moved : ensemble.Effect mover link) (id : NodeId) :
    ensemble.Effect id ((ensemble.setLink mover link).links id) := by
  by_cases same : id = mover
  · subst same
    simpa [setLink] using moved
  · simpa [setLink, same] using Effect.none

theorem Quiet.effect {before after : Ensemble} (step : Quiet before after)
    (id : NodeId) : before.Effect id (after.links id) := by
  cases step with
  | sender mover _ _ step => exact effect_setLink (.sender step) id
  | retransmitter mover _ step => exact effect_setLink (.retransmitter step) id
  | tick mover => exact effect_setLink .tick id
  | lose => exact .none
  | copy => exact .none
  | arrive mover index found addressed =>
      exact effect_setLink
        (.arrive (List.mem_of_getElem? found) addressed) id

theorem Quiet.membership_eq {before after : Ensemble}
    (step : Quiet before after) : after.membership = before.membership := by
  cases step <;> rfl

theorem Step.membership_eq {before after : Ensemble}
    (step : Step before after) : after.membership = before.membership := by
  cases step with
  | originate => rfl
  | quiet step => exact step.membership_eq

theorem Quiet.graph_eq {before after : Ensemble}
    (step : Quiet before after) : after.graph = before.graph := by
  cases step <;> rfl

theorem Quiet.history_eq {before after : Ensemble}
    (step : Quiet before after) : after.history = before.history := by
  cases step <;> rfl

end Ensemble

end CausalCast
