import CausalCast.Identity
import CausalCast.Text.Utf8
import CausalCast.Text.Quoted

/-!
# Payloads

A payload is one copy of a message on its way: the message's identity and
content, the vector clock that its owner stamped on it, and what the link
adds, namely the node that put this copy on the wire and whether the copy is
data or an acknowledgement.
-/

namespace CausalCast

/-- A vector clock: how many messages of each node had been delivered, by
node id.  Entry 0 belongs to no node. -/
abbrev VectorClock := List UInt32

namespace VectorClock

/-- The clock on which nothing was delivered yet. -/
def zero (length : Nat) : VectorClock :=
  List.replicate length 0

/-- The entry of a node; a missing entry counts as zero. -/
def entry (clock : VectorClock) (id : NodeId) : UInt32 :=
  clock.getD id.toNat 0

@[simp] theorem length_zero (length : Nat) : (zero length).length = length := by
  simp [zero]

end VectorClock

/-- One copy of a message, or an acknowledgement of one. -/
structure Payload where
  uid : UInt32
  sender : NodeId
  owner : NodeId
  isAck : Bool
  content : List UInt8
  clock : VectorClock
deriving DecidableEq, Repr

namespace Payload

def message (payload : Payload) : MessageId :=
  ⟨payload.owner, payload.uid⟩

/-- A data payload that its owner sends, with nothing delivered before it. -/
def data (owner : NodeId) (uid : UInt32) (content : List UInt8)
    (clockLength : Nat) : Payload where
  uid := uid
  sender := owner
  owner := owner
  isAck := false
  content := content
  clock := VectorClock.zero clockLength

def toAck (payload : Payload) : Payload :=
  { payload with isAck := true }

def toData (payload : Payload) : Payload :=
  { payload with isAck := false }

/-- The same payload, put on the wire by another node. -/
def stamped (payload : Payload) (sender : NodeId) : Payload :=
  { payload with sender := sender }

/-- The content as text; bytes that are no text are replaced. -/
def text (payload : Payload) : List Char :=
  Text.Utf8.decodeLossy payload.content

def clockText (clock : VectorClock) : String :=
  "[" ++ String.intercalate ", " (clock.map fun entry => toString entry.toNat) ++ "]"

def describe (payload : Payload) : String :=
  let kind := if payload.isAck then "ACK" else "DATA"
  kind ++ "\x7buid=" ++ toString payload.uid.toNat ++
    " owner=" ++ toString payload.owner.toNat ++
    " sender=" ++ toString payload.sender.toNat ++
    " content=" ++ Text.quoted payload.text ++
    " vc=" ++ clockText payload.clock ++ "\x7d"

@[simp] theorem message_toAck (payload : Payload) :
    payload.toAck.message = payload.message := rfl

@[simp] theorem message_toData (payload : Payload) :
    payload.toData.message = payload.message := rfl

@[simp] theorem message_stamped (payload : Payload) (sender : NodeId) :
    (payload.stamped sender).message = payload.message := rfl

end Payload

end CausalCast
