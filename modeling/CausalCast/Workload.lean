import CausalCast.Identity

/-!
# Workloads and link settings

A workload says what the nodes originate: either every node broadcasts, or
every node but one sends to that one.
-/

namespace CausalCast

inductive Workload where
  | broadcast (messages : UInt32)
  | pointToPoint (receiver : NodeId) (messages : UInt32)
deriving DecidableEq, Repr

namespace Workload

def originatedBy (workload : Workload) (me : NodeId) : UInt32 :=
  match workload with
  | broadcast messages => messages
  | pointToPoint receiver messages => if receiver = me then 0 else messages

def isBroadcast : Workload → Bool
  | broadcast _ => true
  | pointToPoint _ _ => false

end Workload

/-- How the link behaves; times are in milliseconds. -/
structure LinkSettings where
  /-- The least time between two transmissions of a message. -/
  retransmissionOffset : Nat := 100
  /-- The longest that a receiver waits before it looks at its node again. -/
  packetWait : Nat := 100
  /-- The length of the sending queue above which a producer pauses. -/
  sendingChunk : Nat := 100000
  /-- The number of receivers that share a transport. -/
  receivers : Nat := 1
deriving DecidableEq, Repr

end CausalCast
