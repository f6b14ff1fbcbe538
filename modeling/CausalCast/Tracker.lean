import CausalCast.CausalityGraph
import CausalCast.Payload
import Std.Data.HashMap
import Std.Data.HashSet

/-!
# Delivery tracker

The tracker of a node knows which nodes have witnessed which messages.  It
counts the witnesses of each message that is not released yet, keeps one copy
of the message staged, and keeps for each owner a frontier, the sequence
number to be released next, and a clock entry, the number of messages
released so far.

Under the causal policy a staged message is ready when it stands at its
owner's frontier, when a strict majority of all nodes has witnessed it, and
when everything that its clock claims of the owners it depends on has been
released here.  Under the immediate policy a message is released at its first
witness if that witness brought data.

This module holds the tables and the questions about them;
`CausalCast.Tracker.Release` changes them.
-/

namespace CausalCast

/-- When a message is released. -/
inductive ReleasePolicy where
  | immediate
  | causal
deriving DecidableEq, Repr

/-- The part in which a node is named. -/
inductive NodeRole where
  | sender
  | owner
deriving DecidableEq, Repr

/-- Why a payload is not recorded. -/
inductive TrackerError where
  | unknownNode (role : NodeRole) (id : NodeId)
  | clockLength (expected got : Nat)
deriving DecidableEq, Repr

def TrackerError.message : TrackerError → String
  | unknownNode .sender id => s!"unknown sender id {id}"
  | unknownNode .owner id => s!"unknown owner id {id}"
  | clockLength expected got =>
      s!"vector clock has {got} entries, expected {expected}"

/-- What one node knows about the messages of all. -/
structure Tracker where
  me : NodeId
  nodeCount : Nat
  graph : CausalityGraph
  policy : ReleasePolicy
  /-- Who has witnessed what; nothing is ever removed. -/
  witnesses : Std.HashSet Witness
  /-- The number of witnesses of each message not released yet. -/
  counters : Std.HashMap MessageId Nat
  /-- The first copy of each message not released yet. -/
  staged : Std.HashMap MessageId Payload
  /-- For each owner the sequence number to be released next. -/
  frontiers : List UInt32
  /-- For each owner the number of messages released. -/
  clock : VectorClock

namespace Tracker

def new (me : NodeId) (nodeCount : Nat) (graph : CausalityGraph)
    (policy : ReleasePolicy) : Tracker where
  me := me
  nodeCount := nodeCount
  graph := graph
  policy := policy
  witnesses := ∅
  counters := ∅
  staged := ∅
  frontiers := List.replicate (nodeCount + 1) 1
  clock := VectorClock.zero (nodeCount + 1)

def clockLength (tracker : Tracker) : Nat :=
  tracker.nodeCount + 1

def isNode (tracker : Tracker) (id : NodeId) : Bool :=
  1 ≤ id.toNat && id.toNat ≤ tracker.nodeCount

/-- The sequence number of an owner's next release. -/
def frontier (tracker : Tracker) (owner : NodeId) : UInt32 :=
  tracker.frontiers.getD owner.toNat 1

/-- The message that an owner's next release has to be. -/
def frontierMessage (tracker : Tracker) (owner : NodeId) : MessageId :=
  ⟨owner, tracker.frontier owner⟩

/-- The number of witnesses counted for a message. -/
def count (tracker : Tracker) (message : MessageId) : Nat :=
  tracker.counters.getD message 0

def contains (tracker : Tracker) (sender : NodeId) (message : MessageId) :
    Bool :=
  tracker.witnesses.contains ⟨sender, message⟩

def wasSeen (tracker : Tracker) (payload : Payload) : Bool :=
  tracker.contains tracker.me payload.message

/-- Whether a number of nodes is a strict majority. -/
def isMajority (tracker : Tracker) (number : Nat) : Bool :=
  tracker.nodeCount / 2 < number

/-- Whether a strict majority has witnessed a message; of a released message
this is known without counting. -/
def hasQuorum (tracker : Tracker) (message : MessageId) : Bool :=
  tracker.isNode message.owner &&
    (message.uid < tracker.frontier message.owner ||
      tracker.isMajority (tracker.count message))

/-- Whether everything that a clock claims of the nodes that an owner depends
on has been released here. -/
def isCausallyReady (tracker : Tracker) (owner : NodeId)
    (claimed : VectorClock) : Bool :=
  (tracker.graph.dependencies owner).all fun dependency =>
    match tracker.clock[dependency.toNat]? with
    | some released => claimed.entry dependency ≤ released
    | none => false

/-- Whether an owner's next message could be released if it bore a given
clock. -/
def canRelease (tracker : Tracker) (owner : NodeId) (claimed : VectorClock) :
    Bool :=
  tracker.isNode owner && tracker.hasQuorum (tracker.frontierMessage owner) &&
    tracker.isCausallyReady owner claimed

/-- The staged payload that an owner can release now. -/
def ready? (tracker : Tracker) (owner : NodeId) : Option Payload :=
  match tracker.staged[tracker.frontierMessage owner]? with
  | some payload =>
      if tracker.hasQuorum (tracker.frontierMessage owner) &&
          tracker.isCausallyReady owner payload.clock then
        some payload
      else none
  | none => none

theorem staged_of_ready? {tracker : Tracker} {owner : NodeId}
    {payload : Payload} (ready : tracker.ready? owner = some payload) :
    tracker.staged[tracker.frontierMessage owner]? = some payload := by
  unfold ready? at ready
  split at ready
  case h_1 staged found =>
      split at ready
      · rw [found, ready]
      · simp at ready
  case h_2 => simp at ready

end Tracker

end CausalCast
