import CausalCast.Node.Broadcast

/-!
# Producing a workload

A producer hands the messages of the node's workload to the link, numbered
from 1 on, with their numbers as contents.  Before each message it makes sure
that the sending queue is not longer than the chunk size; while it is, the
producer pauses and looks again a little later.  An order to stop ends it.
-/

namespace CausalCast

/-- What a producer makes. -/
inductive Production where
  | broadcasts (messages : UInt32)
  | messagesTo (receiver : NodeId) (messages : UInt32)
deriving DecidableEq, Repr

def Production.count : Production → Nat
  | broadcasts messages => messages.toNat
  | messagesTo _ messages => messages.toNat

namespace Node

def throttlePause : Nat := 10

/-- Whether the sending queue is short enough for another message. -/
def hasRoom (node : Node) : Bool :=
  node.sending.depth ≤ node.settings.sendingChunk

def numberedContent (uid : UInt32) : List UInt8 :=
  Text.Utf8.encode (Text.decimal uid.toNat)

def countEnqueued (node : Node) : Node :=
  { node with enqueued := node.enqueued + 1 }

/-- Make one message of a production.  The producer ends early when a
broadcast is rejected, or when the link takes no more. -/
def produceOne (node : Node) (production : Production) (uid : UInt32) :
    Node × Option LoopResult :=
  match production with
  | .broadcasts _ =>
      match node.originate uid (numberedContent uid) with
      | (after, .error problem) => (after, some (.rejected problem))
      | (after, .ok _) => (after.countEnqueued, none)
  | .messagesTo receiver _ =>
      let payload :=
        Payload.data node.me uid (numberedContent uid) node.clockLength
      match (node.announce payload.content).send payload receiver with
      | (after, .error _) => (after, some .completed)
      | (after, .ok _) => (after.countEnqueued, none)

/-- What a node has to produce under its workload; nothing if it is the
receiver of all messages. -/
def production (node : Node) : Production :=
  match node.workload with
  | .broadcast messages => .broadcasts messages
  | .pointToPoint receiver messages =>
      if receiver = node.me then .messagesTo receiver 0
      else .messagesTo receiver messages

end Node

end CausalCast
