/-!
# Identities of nodes and messages

A node is known by a number that starts at 1.  A message is known by its
owner, the node that originated it, and by the sequence number that the owner
gave it.  Copies of a message share its identity, whoever relays them.
-/

namespace CausalCast

/-- The number of a node; proper nodes have numbers from 1 on. -/
abbrev NodeId := UInt32

/-- The identity of a message, shared by all its copies. -/
structure MessageId where
  owner : NodeId
  uid : UInt32
deriving DecidableEq, Hashable, Repr

/-- One node's word that a message has reached it. -/
structure Witness where
  sender : NodeId
  message : MessageId
deriving DecidableEq, Hashable, Repr

end CausalCast
