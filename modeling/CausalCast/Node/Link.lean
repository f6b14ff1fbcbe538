import CausalCast.Node
import CausalCast.Payload.Codec
import CausalCast.Timer
import CausalCast.Transport

/-!
# The link of a node

The link delivers data to a recipient by sending it again and again until the
recipient is known to have seen it.  A message that is sent is put into the
sending queue.  The sender takes messages from there, stamps them with the
node's own id and puts them on the wire; data then moves to the
retransmission queue, while acknowledgements are forgotten.  The
retransmitter takes data from there in order, drops what the recipient has
seen, and otherwise waits until it is due and puts it back into the sending
queue.

The count `unacked` covers a data message from before it enters the sending
queue until it is dropped as seen or abandoned as impossible to send.
-/

namespace CausalCast

inductive LoopResult where
  | completed
  | failed (mishap : Mishap)
  | rejected (error : TrackerError)
deriving DecidableEq, Repr

namespace Message

def new (payload : Payload) (recipient : NodeId) (now : Nat) : Message :=
  ⟨payload, recipient, now, 0⟩

def transmitted (message : Message) (now : Nat) : Message :=
  { message with sentAt := now, attempts := message.attempts + 1 }

end Message

/-- What the sender does with a message. -/
inductive Departure where
  /-- It has no way to the recipient. -/
  | abandoned
  /-- It goes out, stamped, as a datagram. -/
  | leaving (stamped : Message) (datagram : Datagram)
deriving DecidableEq, Repr

namespace Node

/-- First step of sending: count data as not acknowledged. -/
def countUnacked (node : Node) (payload : Payload) : Node :=
  if payload.isAck then node else { node with unacked := node.unacked + 1 }

/-- Take back the count of a payload. -/
def discountUnacked (node : Node) (payload : Payload) : Node :=
  if payload.isAck then node else { node with unacked := node.unacked - 1 }

def post (node : Node) (message : Message) : Node × Except QueueError Unit :=
  let (sending, outcome) := node.sending.enqueue message
  ({ node with sending := sending }, outcome)

def park (node : Node) (message : Message) : Node × Except QueueError Unit :=
  let (retransmissions, outcome) := node.retransmissions.enqueue message
  ({ node with retransmissions := retransmissions }, outcome)

def send (node : Node) (payload : Payload) (recipient : NodeId) :
    Node × Except QueueError Unit :=
  let counted := node.countUnacked payload
  match counted.post (Message.new payload recipient node.now) with
  | (posted, .ok _) => (posted, .ok ())
  | (refused, .error error) => (refused.discountUnacked payload, .error error)

/-- How a message departs: it needs an address, and has to fit in a
datagram. -/
def departure (node : Node) (message : Message) : Departure :=
  match node.membership.address? message.recipient with
  | none => .abandoned
  | some address =>
      let stamped :=
        { message with payload := message.payload.stamped node.me }
      match stamped.payload.encode with
      | .error _ => .abandoned
      | .ok bytes => .leaving stamped ⟨address, bytes⟩

/-- What the sender does when a send is over, with the mishap if there was
one.  A fatal mishap ends it; otherwise data is parked, and the sender ends
when that is no longer possible. -/
def afterSend (node : Node) (message : Message) (mishap? : Option Mishap) :
    Node × Option LoopResult :=
  match mishap?.filter (!·.isTransient) with
  | some mishap => (node, some (.failed mishap))
  | none =>
      if message.payload.isAck then (node, none)
      else
        match node.park (message.transmitted node.now) with
        | (parked, .ok _) => (parked, none)
        | (refused, .error _) => (refused, some .completed)

/-- Whether the recipient of a message is known to have seen it. -/
def isAcknowledged (node : Node) (message : Message) : Bool :=
  node.tracker.contains message.recipient message.payload.message

def settle (node : Node) : Node :=
  { node with unacked := node.unacked - 1 }

def timer (node : Node) : RetransmitTimer :=
  ⟨node.settings.retransmissionOffset⟩

/-- Whether nothing of the link remains to be done, judged by its counts. -/
def isLinkIdle (node : Node) : Bool :=
  node.sending.depth == 0 && node.retransmissions.depth == 0 &&
    node.unacked == 0

/-- Whether the node has handed its whole workload to the link, and the link
has nothing left to do. -/
def isIdle (node : Node) : Bool :=
  node.workload.originatedBy node.me ≤ node.enqueued && node.isLinkIdle

end Node

end CausalCast
