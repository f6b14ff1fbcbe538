import CausalCast.Station

/-!
# Clusters

A cluster is one station for each member, each running a receiver, a sender
and a retransmitter, and the datagrams between them.  A datagram that leaves a
station is in the air until someone decides to deliver it, drop it or copy
it, so the network may lose, repeat and reorder at will.

Datagrams are in the air in the order in which they were sent; of those sent
in one millisecond, the ones from lower ids come first.
-/

namespace CausalCast

/-- A datagram between two members. -/
structure Airborne where
  source : NodeId
  target : NodeId
  bytes : List UInt8
deriving DecidableEq, Repr

/-- All stations, by ascending id, and the datagrams in the air. -/
structure Cluster where
  membership : Membership
  stations : List Station
  air : List Airborne

namespace Cluster

def tasks : List Task :=
  [.receiver, .sender, .retransmitter]

def memberIds (membership : Membership) : List NodeId :=
  (membership.members.map Member.id).mergeSort (· ≤ ·)

def create (membership : Membership) (graph : CausalityGraph)
    (workload : Workload) (settings : LinkSettings) :
    Except ConfigError Cluster := do
  let stations ← (memberIds membership).mapM fun me => do
    let node ← Node.create me membership graph workload settings
    pure (tasks.foldl Station.start (Station.new node))
  pure ⟨membership, stations.map Station.settle, []⟩

def station? (cluster : Cluster) (id : NodeId) : Option Station :=
  cluster.stations.find? (·.node.me == id)

def setStation (cluster : Cluster) (station : Station) : Cluster :=
  { cluster with
    stations := cluster.stations.map fun other =>
      if other.node.me = station.node.me then station else other }

def memberAt? (membership : Membership) (address : Address) :
    Option NodeId :=
  (membership.members.find? (·.address == address)).map Member.id

/-- The datagrams that a station sends to members. -/
def airborneOf (membership : Membership) (source : NodeId)
    (datagrams : List Datagram) : List Airborne :=
  datagrams.filterMap fun datagram =>
    (memberAt? membership datagram.destination).map fun target =>
      ⟨source, target, datagram.bytes⟩

/-- Let the datagrams that have left the stations join those in the air. -/
def collect (cluster : Cluster) : Cluster :=
  let parts := cluster.stations.map Station.collect
  let fresh := (cluster.stations.zip parts).flatMap fun (station, part) =>
    airborneOf cluster.membership station.node.me part.1
  { cluster with stations := parts.map Prod.snd, air := cluster.air ++ fresh }

/-- Change the station of a member, settle it, and collect what it sends. -/
def update (cluster : Cluster) (station : Station) : Cluster :=
  (cluster.setStation station.settle).collect

/-- Hand a datagram to the receiver of its target. -/
def handOver (cluster : Cluster) (airborne : Airborne) : Cluster :=
  match cluster.station? airborne.target with
  | none => cluster
  | some station => cluster.update (station.feed (.datagram airborne.bytes))

def remove (cluster : Cluster) (index : Nat) : Cluster :=
  { cluster with air := cluster.air.eraseIdx index }

/-- Deliver the datagram at a position in the air. -/
def deliver (cluster : Cluster) (index : Nat) : Option Airborne × Cluster :=
  match cluster.air[index]? with
  | none => (none, cluster)
  | some airborne =>
      (some airborne, (cluster.remove index).handOver airborne)

/-- Lose the datagram at a position in the air. -/
def drop (cluster : Cluster) (index : Nat) : Option Airborne × Cluster :=
  (cluster.air[index]?, cluster.remove index)

/-- Repeat the datagram at a position behind all others. -/
def copy (cluster : Cluster) (index : Nat) : Option Airborne × Cluster :=
  match cluster.air[index]? with
  | none => (none, cluster)
  | some airborne =>
      (some airborne, { cluster with air := cluster.air ++ [airborne] })

/-- Whether a datagram goes over a link; id 0 stands for any member. -/
def isOnLink (source target : NodeId) (airborne : Airborne) : Bool :=
  (source == 0 || airborne.source == source) &&
    (target == 0 || airborne.target == target)

/-- Lose all datagrams on a link; their number. -/
def dropLink (cluster : Cluster) (source target : NodeId) : Nat × Cluster :=
  (cluster.air.countP (isOnLink source target),
    { cluster with
      air := cluster.air.filter fun airborne =>
        !isOnLink source target airborne })

/-- Deliver from the front of the air, for at most a number of datagrams;
how many were delivered. -/
def deliverFront (cluster : Cluster) : Nat → Nat × Cluster
  | 0 => (0, cluster)
  | limit + 1 =>
      match cluster.deliver 0 with
      | (none, _) => (0, cluster)
      | (some _, after) =>
          let (delivered, final) := after.deliverFront limit
          (delivered + 1, final)

/-- How many deliveries can follow from what is in the air.  Without time
passing a datagram is answered by one acknowledgement, and each member relays
its message at most once to each other member. -/
def deliveryBound (cluster : Cluster) : Nat :=
  let size := cluster.stations.length
  cluster.air.length * (2 * size * size + 2)

def deliverAll (cluster : Cluster) : Nat × Cluster :=
  cluster.deliverFront cluster.deliveryBound

def tick (cluster : Cluster) : Cluster :=
  let stations := cluster.stations.map fun station => station.tick.settle
  collect { cluster with stations := stations }

def advance (cluster : Cluster) : Nat → Cluster
  | 0 => cluster
  | milliseconds + 1 => cluster.tick.advance milliseconds

end Cluster

end CausalCast
