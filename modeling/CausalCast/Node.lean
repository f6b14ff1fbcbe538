import CausalCast.Config
import CausalCast.Output
import CausalCast.Queue
import CausalCast.Tracker.Release

/-!
# Nodes

A node is everything that its loops share: who it is and who the others are,
its delivery tracker, the two queues of its link, its output log, and a few
counts.  The operations of a node are functions from a node to the next; each
of them is one step that nothing else interrupts.
-/

namespace CausalCast

/-- A payload on its way to one recipient. -/
structure Message where
  payload : Payload
  recipient : NodeId
  /-- When it was last put on the wire, or made. -/
  sentAt : Nat
  /-- How often it was put on the wire. -/
  attempts : UInt32
deriving DecidableEq, Repr

/-- What the loops of a node share. -/
structure Node where
  me : NodeId
  membership : Membership
  workload : Workload
  settings : LinkSettings
  tracker : Tracker
  /-- Messages that wait for their next transmission. -/
  sending : Queue Message
  /-- Data that was sent and waits for its acknowledgement. -/
  retransmissions : Queue Message
  output : OutputLog
  /-- Whether the loops were ordered to stop. -/
  stopped : Bool
  /-- How many of its own messages the node has handed to the link. -/
  enqueued : UInt32
  /-- How many data messages the link holds that are not acknowledged. -/
  unacked : Nat
  /-- The time, in milliseconds. -/
  now : Nat

namespace Node

def policyFor (workload : Workload) : ReleasePolicy :=
  if workload.isBroadcast then .causal else .immediate

/-- A fresh node.  Its id has to be a member's, and its causality graph has to
cover as many ids as a clock has entries. -/
def create (me : NodeId) (membership : Membership) (graph : CausalityGraph)
    (workload : Workload) (settings : LinkSettings) :
    Except ConfigError Node :=
  if !membership.contains me then .error (.unknownNode me)
  else if graph.length ≠ membership.clockLength then
    .error (.graphSize membership.clockLength graph.length)
  else .ok {
    me := me
    membership := membership
    workload := workload
    settings := settings
    tracker := Tracker.new me membership.size graph (policyFor workload)
    sending := Queue.new
    retransmissions := Queue.new
    output := OutputLog.new
    stopped := false
    enqueued := 0
    unacked := 0
    now := 0 }

def clockLength (node : Node) : Nat :=
  node.membership.clockLength

def stop (node : Node) : Node :=
  { node with stopped := true }

def tick (node : Node) : Node :=
  { node with now := node.now + 1 }

/-- Take over what recording a payload led to: the tracker, and a line of
output for each payload released. -/
def adopt (node : Node) (recorded : Tracker.Recorded) : Node :=
  { node with
    tracker := recorded.tracker
    output := node.output.deliverAll recorded.released }

/-- Record that a node has sent a payload. -/
def insert (node : Node) (sender : NodeId) (payload : Payload) :
    Except TrackerError (Node × Tracker.Sighting) :=
  match node.tracker.insert sender payload with
  | .error problem => .error problem
  | .ok recorded => .ok (node.adopt recorded, recorded.sighting)

def markAsSeen (node : Node) (payload : Payload) :
    Except TrackerError (Node × Tracker.Sighting) :=
  node.insert node.me payload

end Node

end CausalCast
