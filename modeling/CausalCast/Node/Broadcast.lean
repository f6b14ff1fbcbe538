import CausalCast.Node.Link

/-!
# Broadcasts of a node

A best-effort broadcast sends a payload to every other node.  A uniform
reliable broadcast does so once for each message: when the node sees the
message for the first time, it records itself as a witness and relays the
message under its own name.  Originating a message stamps it with the node's
clock, in which the node's own entry counts the messages it originated
before.
-/

namespace CausalCast

namespace Node

/-- Send a payload to each of some nodes, up to the first that is refused;
the number of copies queued. -/
def sendEach (node : Node) (payload : Payload) : List NodeId → Node × Nat
  | [] => (node, 0)
  | recipient :: rest =>
      match node.send payload recipient with
      | (sent, .ok _) =>
          let (final, queued) := sent.sendEach payload rest
          (final, queued + 1)
      | (refused, .error _) => (refused, 0)

/-- Send a payload to every other node; the number of copies queued. -/
def bestEffortBroadcast (node : Node) (payload : Payload) : Node × Nat :=
  node.sendEach payload (node.membership.peerIds node.me)

def relayOf (node : Node) (payload : Payload) : Payload :=
  (payload.stamped node.me).toData

/-- Relay a payload whose message the node sees for the first time; the
answer tells whether it does. -/
def uniformReliableBroadcast (node : Node) (payload : Payload) :
    Except TrackerError (Node × Bool) :=
  if node.tracker.wasSeen payload then .ok (node, false)
  else
    match node.markAsSeen payload with
    | .error problem => .error problem
    | .ok (marked, .duplicate) => .ok (marked, false)
    | .ok (marked, _) =>
        .ok ((marked.bestEffortBroadcast (marked.relayOf payload)).1, true)

def stampClock (node : Node) (uid : UInt32) : VectorClock :=
  node.tracker.clock.set node.me.toNat (if uid = 0 then 0 else uid - 1)

def firstCopy (node : Node) (uid : UInt32) (content : List UInt8) : Payload :=
  { Payload.data node.me uid content node.clockLength with
    clock := node.stampClock uid }

/-- Write a line for a message that the node originates. -/
def announce (node : Node) (content : List UInt8) : Node :=
  { node with output := node.output.emit (.broadcast content) }

/-- Originate message number `uid`. -/
def originate (node : Node) (uid : UInt32) (content : List UInt8) :
    Node × Except TrackerError Payload :=
  let payload := node.firstCopy uid content
  let announced := node.announce content
  match announced.uniformReliableBroadcast payload with
  | .error problem => (announced, .error problem)
  | .ok (relayed, _) => (relayed, .ok payload)

end Node

end CausalCast
