import CausalCast.Config.Error

/-!
# Causality graphs

A causality graph says whose messages the messages of a node depend on.  It
is a table over all ids below a length.  Beside the dependencies the graph
keeps their converse, the dependents of a node; a node that depends on
itself is not listed among its own dependents.
-/

namespace CausalCast

/-- For each id the nodes it depends on, and the nodes that depend on it. -/
structure CausalityGraph where
  dependencyTable : Array (List NodeId)
  dependentTable : Array (List NodeId)
deriving DecidableEq, Repr

namespace CausalityGraph

def empty (length : Nat) : CausalityGraph :=
  ⟨Array.replicate length [], Array.replicate length []⟩

def length (graph : CausalityGraph) : Nat :=
  graph.dependencyTable.size

/-- The nodes that the messages of a node depend on. -/
def dependencies (graph : CausalityGraph) (node : NodeId) : List NodeId :=
  graph.dependencyTable.getD node.toNat []

/-- The other nodes whose messages depend on those of a node. -/
def dependents (graph : CausalityGraph) (node : NodeId) : List NodeId :=
  graph.dependentTable.getD node.toNat []

def isEmpty (graph : CausalityGraph) : Bool :=
  graph.dependencyTable.all List.isEmpty

/-- Let a node depend on another; an edge that is there already is kept as
it is. -/
def insert (graph : CausalityGraph) (node dependency : NodeId) :
    CausalityGraph :=
  if dependency ∈ graph.dependencies node then graph
  else
    { dependencyTable :=
        graph.dependencyTable.modify node.toNat (· ++ [dependency])
      dependentTable :=
        if dependency = node then graph.dependentTable
        else graph.dependentTable.modify dependency.toNat (· ++ [node]) }

/-- Let a node depend on each of a list, which may name only ids that the
graph covers, and not id 0. -/
def insertAll (graph : CausalityGraph) (node : NodeId) :
    List NodeId → Except ConfigError CausalityGraph
  | [] => .ok graph
  | dependency :: rest =>
      if graph.length ≤ dependency.toNat ∨ dependency = 0 then
        .error (.unknownNode dependency)
      else insertAll (graph.insert node dependency) node rest

/-- Add what a list says, from the left. -/
def addEdges (graph : CausalityGraph) :
    List (NodeId × List NodeId) → Except ConfigError CausalityGraph
  | [] => .ok graph
  | (node, dependencies) :: rest =>
      if graph.length ≤ node.toNat then .error (.unknownNode node)
      else do
        let extended ← graph.insertAll node dependencies
        extended.addEdges rest

/-- The graph over the ids below `length` in which each node of a list
depends on the ids listed with it. -/
def ofEdges (length : Nat) (edges : List (NodeId × List NodeId)) :
    Except ConfigError CausalityGraph :=
  (empty length).addEdges edges

@[simp] theorem length_empty (length : Nat) : (empty length).length = length := by
  simp [empty, CausalityGraph.length]

@[simp] theorem length_insert (graph : CausalityGraph)
    (node dependency : NodeId) :
    (graph.insert node dependency).length = graph.length := by
  unfold insert
  split
  · rfl
  · simp [CausalityGraph.length]

end CausalityGraph

end CausalCast
