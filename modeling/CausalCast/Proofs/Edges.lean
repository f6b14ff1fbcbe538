import CausalCast.Proofs.Dependencies
import Mathlib.Data.List.Nodup

/-!
# What a list of edges makes

A list of edges is read from the left, in each edge the node before its
targets, and the first id out of place is what a rejected list is told of.  A
list without such an id makes a graph whose second table is the converse of
the first, apart from the edges of a node to itself.  Neither table has
repetitions, so beside the order in which ids are listed nothing depends on
the order of the edges.
-/

namespace CausalCast

namespace CausalityGraph

/-! ## The converse table -/

/-- The dependents are the converse of the dependencies, and neither are
listed twice. -/
structure Mirrored (graph : CausalityGraph) : Prop where
  size_eq : graph.dependentTable.size = graph.dependencyTable.size
  mem_dependents_iff : ∀ node dependency,
    node ∈ graph.dependents dependency ↔
      node ≠ dependency ∧ dependency ∈ graph.dependencies node
  nodup_dependencies : ∀ node, (graph.dependencies node).Nodup
  nodup_dependents : ∀ node, (graph.dependents node).Nodup

theorem mirrored_empty (length : Nat) : (empty length).Mirrored := by
  have nothing : ∀ node : NodeId,
      (Array.replicate length ([] : List NodeId)).getD node.toNat [] = [] := by
    intro node
    rw [Array.getD_eq_getD_getElem?, Array.getElem?_replicate]
    split <;> rfl
  refine ⟨by simp [empty], ?_, ?_, ?_⟩
  · intro node dependency
    simp only [dependents, dependencies, empty, nothing, List.not_mem_nil,
      and_false]
  · intro node
    simp only [dependencies, empty, nothing, List.nodup_nil]
  · intro node
    simp only [dependents, empty, nothing, List.nodup_nil]

theorem Mirrored.insert {graph : CausalityGraph} (mirrored : graph.Mirrored)
    {node dependency : NodeId} (covered : node.toNat < graph.length)
    (proper : IsTarget graph.length dependency) :
    (graph.insert node dependency).Mirrored := by
  by_cases present : dependency ∈ graph.dependencies node
  · rw [CausalityGraph.insert, if_pos present]
    exact mirrored
  have inTable : dependency.toNat < graph.dependentTable.size := by
    rw [mirrored.size_eq]
    exact proper.2
  constructor
  case size_eq =>
    rw [size_dependentTable_insert, mirrored.size_eq]
    exact (length_insert graph node dependency).symm
  case mem_dependents_iff =>
    intro other target
    rw [mem_dependents_insert inTable, mem_dependencies_insert covered,
      mirrored.mem_dependents_iff]
    constructor
    · rintro (⟨different, old⟩ | ⟨rfl, rfl, different, _⟩)
      · exact ⟨different, .inl old⟩
      · exact ⟨different.symm, .inr ⟨rfl, rfl⟩⟩
    · rintro ⟨different, old | ⟨rfl, rfl⟩⟩
      · exact .inl ⟨different, old⟩
      · exact .inr ⟨rfl, rfl, different.symm, present⟩
  case nodup_dependencies =>
    intro other
    rw [dependencies_insert graph covered]
    split
    · simpa using (mirrored.nodup_dependencies node).concat present
    · exact mirrored.nodup_dependencies other
  case nodup_dependents =>
    intro other
    rw [dependents_insert graph inTable]
    split
    · have fresh : node ∉ graph.dependents dependency := by
        intro listed
        exact present ((mirrored.mem_dependents_iff _ _).mp listed).2
      simpa using (mirrored.nodup_dependents dependency).concat fresh
    · exact mirrored.nodup_dependents other

theorem mirrored_ofEdges {length : Nat} {edges : List (NodeId × List NodeId)}
    {graph : CausalityGraph} (built : ofEdges length edges = .ok graph) :
    graph.Mirrored := by
  refine (ofEdges_keeps ?_ (mirrored_empty length) built).1
  rintro graph node target rfl covered proper mirrored
  exact mirrored.insert covered proper

theorem lt_length_of_mem_dependencies {graph : CausalityGraph}
    {node dependency : NodeId}
    (member : dependency ∈ graph.dependencies node) :
    node.toNat < graph.length := by
  by_contra outside
  rw [dependencies, Array.getD_eq_getD_getElem?,
    Array.getElem?_eq_none (Nat.not_lt.mp outside)] at member
  contradiction

theorem Mirrored.lt_length_of_mem_dependents {graph : CausalityGraph}
    (mirrored : graph.Mirrored) {node dependency : NodeId}
    (member : node ∈ graph.dependents dependency) :
    node.toNat < graph.length :=
  lt_length_of_mem_dependencies
    ((mirrored.mem_dependents_iff node dependency).mp member).2

/-! ## Ids out of place -/

instance (length : Nat) : DecidablePred (IsTarget length) :=
  fun id => inferInstanceAs (Decidable (1 ≤ id.toNat ∧ id.toNat < length))

/-- A place at which a list of edges has an id. -/
inductive Mention where
  | node (id : NodeId)
  | target (id : NodeId)

namespace Mention

def id : Mention → NodeId
  | node id => id
  | target id => id

/-- Whether an id may stand at its place in a graph of a certain length. -/
def Proper (length : Nat) : Mention → Prop
  | node id => id.toNat < length
  | target id => IsTarget length id

instance (length : Nat) : DecidablePred (Proper length)
  | node id => inferInstanceAs (Decidable (id.toNat < length))
  | target id => inferInstanceAs (Decidable (IsTarget length id))

end Mention

/-- The places of a list of edges, in order. -/
def mentions (edges : List (NodeId × List NodeId)) : List Mention :=
  edges.flatMap fun edge => .node edge.1 :: edge.2.map .target

theorem forall_mentions_iff {edges : List (NodeId × List NodeId)}
    {length : Nat} :
    (∀ mention ∈ mentions edges, mention.Proper length) ↔
      ∀ edge ∈ edges, edge.1.toNat < length ∧
        ∀ target ∈ edge.2, IsTarget length target := by
  simp only [mentions, List.forall_mem_flatMap, List.forall_mem_cons,
    List.forall_mem_map]
  rfl

/-- The first id out of place in a list of edges. -/
def misplaced? (length : Nat) (edges : List (NodeId × List NodeId)) :
    Option Mention :=
  (mentions edges).find? fun mention => ¬mention.Proper length

theorem misplaced?_eq_none_iff {length : Nat}
    {edges : List (NodeId × List NodeId)} :
    misplaced? length edges = none ↔
      ∀ edge ∈ edges, edge.1.toNat < length ∧
        ∀ target ∈ edge.2, IsTarget length target := by
  rw [← forall_mentions_iff, misplaced?, List.find?_eq_none]
  simp

theorem misplaced?_cons {length : Nat} {node : NodeId}
    {targets : List NodeId} {edges : List (NodeId × List NodeId)} :
    misplaced? length ((node, targets) :: edges) =
      if node.toNat < length then
        ((targets.find? fun target => ¬IsTarget length target).map
          Mention.target).or (misplaced? length edges)
      else some (.node node) := by
  rw [misplaced?, mentions, List.flatMap_cons, List.cons_append,
    List.find?_cons, List.find?_append, List.find?_map]
  by_cases covered : node.toNat < length
  · simp only [Mention.Proper, covered, not_true_eq_false, decide_false,
      if_true]
    rfl
  · simp [Mention.Proper, covered]

theorem insertAll_of_misplaced {graph : CausalityGraph} {node : NodeId}
    {targets : List NodeId} {target : NodeId}
    (misplaced : (targets.find? fun target =>
      ¬IsTarget graph.length target) = some target) :
    graph.insertAll node targets = .error (.unknownNode target) := by
  induction targets generalizing graph with
  | nil => contradiction
  | cons first targets induction =>
      by_cases proper : IsTarget graph.length first
      · rw [List.find?_cons_of_neg (by simpa using proper),
          ← length_insert graph node first] at misplaced
        rw [insertAll, if_neg (isTarget_iff.mp proper)]
        exact induction misplaced
      · rw [List.find?_cons_of_pos (by simpa using proper)] at misplaced
        obtain rfl := Option.some.inj misplaced
        rw [insertAll, if_pos (not_not.mp (isTarget_iff.not.mp proper))]

/-- Reading stops at the first id out of place. -/
theorem addEdges_of_misplaced {graph : CausalityGraph}
    {edges : List (NodeId × List NodeId)} {mention : Mention}
    (misplaced : misplaced? graph.length edges = some mention) :
    graph.addEdges edges = .error (.unknownNode mention.id) := by
  induction edges generalizing graph with
  | nil => contradiction
  | cons edge edges induction =>
      obtain ⟨node, targets⟩ := edge
      rw [misplaced?_cons] at misplaced
      by_cases covered : node.toNat < graph.length
      · rw [if_pos covered] at misplaced
        rw [addEdges, if_neg (Nat.not_le.mpr covered)]
        cases wrong : targets.find? fun target =>
            ¬IsTarget graph.length target with
        | some target =>
            rw [wrong] at misplaced
            obtain rfl := Option.some.inj misplaced
            rw [insertAll_of_misplaced wrong]
            rfl
        | none =>
            rw [wrong] at misplaced
            have proper : ∀ target ∈ targets,
                IsTarget graph.length target := by
              simpa using wrong
            obtain ⟨extended, built, length⟩ := exists_insertAll node proper
            rw [built]
            exact induction (by rwa [length])
      · rw [if_neg covered] at misplaced
        obtain rfl := Option.some.inj misplaced
        rw [addEdges, if_pos (Nat.not_lt.mp covered)]
        rfl

theorem ofEdges_of_misplaced {length : Nat}
    {edges : List (NodeId × List NodeId)} {mention : Mention}
    (misplaced : misplaced? length edges = some mention) :
    ofEdges length edges = .error (.unknownNode mention.id) :=
  addEdges_of_misplaced (by rwa [length_empty])

theorem exists_ofEdges_iff {length : Nat}
    {edges : List (NodeId × List NodeId)} :
    (∃ graph, ofEdges length edges = .ok graph) ↔
      misplaced? length edges = none := by
  constructor
  · rintro ⟨graph, built⟩
    cases misplaced : misplaced? length edges with
    | none => rfl
    | some mention =>
        rw [ofEdges_of_misplaced misplaced] at built
        contradiction
  · intro proper
    exact exists_ofEdges (misplaced?_eq_none_iff.mp proper)

theorem ofEdges_eq_error_iff {length : Nat}
    {edges : List (NodeId × List NodeId)} {problem : ConfigError} :
    ofEdges length edges = .error problem ↔
      ∃ mention, misplaced? length edges = some mention ∧
        problem = .unknownNode mention.id := by
  constructor
  · intro rejected
    cases misplaced : misplaced? length edges with
    | none =>
        obtain ⟨graph, built⟩ := exists_ofEdges_iff.mpr misplaced
        rw [rejected] at built
        contradiction
    | some mention =>
        rw [ofEdges_of_misplaced misplaced] at rejected
        exact ⟨mention, rfl, (Except.error.inj rejected).symm⟩
  · rintro ⟨mention, misplaced, rfl⟩
    exact ofEdges_of_misplaced misplaced

theorem misplaced?_eq_some_iff {length : Nat}
    {edges : List (NodeId × List NodeId)} {mention : Mention} :
    misplaced? length edges = some mention ↔
      ¬mention.Proper length ∧ ∃ before after,
        mentions edges = before ++ mention :: after ∧
          ∀ earlier ∈ before, earlier.Proper length := by
  simp [misplaced?, List.find?_eq_some_iff_append]

/-! ## What a graph says -/

theorem mem_targetsOf {node target : NodeId}
    {edges : List (NodeId × List NodeId)} :
    target ∈ targetsOf node edges ↔
      ∃ targets, (node, targets) ∈ edges ∧ target ∈ targets := by
  simp only [targetsOf, List.mem_flatMap]
  constructor
  · rintro ⟨⟨source, targets⟩, listed, member⟩
    by_cases same : source = node
    · subst same
      exact ⟨targets, listed, by simpa using member⟩
    · simp [same] at member
  · rintro ⟨targets, listed, member⟩
    exact ⟨(node, targets), listed, by simpa using member⟩

theorem mem_dependencies_ofEdges {length : Nat}
    {edges : List (NodeId × List NodeId)} {graph : CausalityGraph}
    (built : ofEdges length edges = .ok graph) {node target : NodeId} :
    target ∈ graph.dependencies node ↔
      ∃ targets, (node, targets) ∈ edges ∧ target ∈ targets := by
  rw [dependencies_ofEdges built, List.mem_eraseDups, mem_targetsOf]

/-- A graph says of every two ids what its edges say, whatever their order. -/
theorem exists_ofEdges_perm {length : Nat}
    {edges others : List (NodeId × List NodeId)} {graph : CausalityGraph}
    (built : ofEdges length edges = .ok graph) (perm : edges.Perm others) :
    ∃ permuted, ofEdges length others = .ok permuted ∧
      ∀ node target,
        (target ∈ permuted.dependencies node ↔
          target ∈ graph.dependencies node) ∧
        (target ∈ permuted.dependents node ↔
          target ∈ graph.dependents node) := by
  have proper := misplaced?_eq_none_iff.mp (exists_ofEdges_iff.mp ⟨graph, built⟩)
  obtain ⟨permuted, made⟩ := exists_ofEdges
    (fun edge member => proper edge (perm.mem_iff.mpr member))
  have same : ∀ node target, target ∈ permuted.dependencies node ↔
      target ∈ graph.dependencies node := by
    intro node target
    rw [mem_dependencies_ofEdges made, mem_dependencies_ofEdges built]
    simp only [perm.mem_iff]
  refine ⟨permuted, made, fun node target => ⟨same node target, ?_⟩⟩
  rw [(mirrored_ofEdges made).mem_dependents_iff,
    (mirrored_ofEdges built).mem_dependents_iff, same]

/-- A list of edges is taken exactly if its ids are proper, and otherwise the
first one that is not is named.  A node depends on the targets that the list
has for it, each listed once and where it first occurs; its dependents are the
other nodes that depend on it, each listed once.  The order of the edges does
not change which. -/
theorem made_of_edges (length : Nat) (edges : List (NodeId × List NodeId)) :
    ((∃ graph, ofEdges length edges = .ok graph) ↔
      ∀ edge ∈ edges, edge.1.toNat < length ∧
        ∀ target ∈ edge.2, IsTarget length target) ∧
    (∀ problem, ofEdges length edges = .error problem ↔
      ∃ before mention after, mentions edges = before ++ mention :: after ∧
        (∀ earlier ∈ before, earlier.Proper length) ∧
        ¬mention.Proper length ∧ problem = .unknownNode mention.id) ∧
    ∀ graph, ofEdges length edges = .ok graph →
      graph.length = length ∧
      (∀ node, graph.dependencies node =
        (targetsOf node edges).eraseDups) ∧
      (∀ node target, target ∈ graph.dependencies node ↔
        ∃ targets, (node, targets) ∈ edges ∧ target ∈ targets) ∧
      (∀ node target, node ∈ graph.dependents target ↔
        node ≠ target ∧ target ∈ graph.dependencies node) ∧
      (∀ node, (graph.dependencies node).Nodup ∧
        (graph.dependents node).Nodup) ∧
      ∀ others, edges.Perm others →
        ∃ permuted, ofEdges length others = .ok permuted ∧
          ∀ node target,
            (target ∈ permuted.dependencies node ↔
              target ∈ graph.dependencies node) ∧
            (target ∈ permuted.dependents node ↔
              target ∈ graph.dependents node) := by
  refine ⟨exists_ofEdges_iff.trans misplaced?_eq_none_iff, ?_, ?_⟩
  · intro problem
    rw [ofEdges_eq_error_iff]
    constructor
    · rintro ⟨mention, misplaced, rfl⟩
      obtain ⟨wrong, before, after, split, proper⟩ :=
        misplaced?_eq_some_iff.mp misplaced
      exact ⟨before, mention, after, split, proper, wrong, rfl⟩
    · rintro ⟨before, mention, after, split, proper, wrong, rfl⟩
      exact ⟨mention, misplaced?_eq_some_iff.mpr
        ⟨wrong, before, after, split, proper⟩, rfl⟩
  · intro graph built
    have mirrored := mirrored_ofEdges built
    exact ⟨(coherent_ofEdges built).2, dependencies_ofEdges built,
      fun node target => mem_dependencies_ofEdges built,
      mirrored.mem_dependents_iff,
      fun node => ⟨mirrored.nodup_dependencies node,
        mirrored.nodup_dependents node⟩,
      fun others perm => exists_ofEdges_perm built perm⟩

/-- A node that depends on itself, one that is listed twice, and id 0, which
may depend on others while nobody may depend on it. -/
theorem made_of_repeated_node :
    ∃ graph permuted,
      ofEdges 3 [(1, [1, 2, 2]), (0, [2]), (2, [1]), (1, [2])] = .ok graph ∧
      graph.dependencies 1 = [1, 2] ∧ 1 ∉ graph.dependents 1 ∧
      0 ∈ graph.dependents 2 ∧
      ofEdges 3 [(1, [2]), (2, [1]), (0, [2]), (1, [1, 2, 2])] =
        .ok permuted ∧
      0 ∈ permuted.dependents 2 ∧
      ofEdges 3 [(1, [2]), (2, [1, 0, 7]), (9, [])] =
        .error (.unknownNode 0) := by
  have proper : ∀ edge ∈
      ([(1, [1, 2, 2]), (0, [2]), (2, [1]), (1, [2])] :
        List (NodeId × List NodeId)),
      edge.1.toNat < 3 ∧ ∀ target ∈ edge.2, IsTarget 3 target := by
    simp [IsTarget]
  obtain ⟨accepted, _, made⟩ :=
    made_of_edges 3 [(1, [1, 2, 2]), (0, [2]), (2, [1]), (1, [2])]
  obtain ⟨graph, built⟩ := accepted.mpr proper
  obtain ⟨_, order, _, converse, _, same⟩ := made graph built
  obtain ⟨permuted, also, alike⟩ := same _ (List.reverse_perm _).symm
  have zero : 0 ∈ graph.dependents 2 := by
    rw [converse, order]
    decide
  refine ⟨graph, permuted, built, ?_, ?_, zero, also,
    (alike 2 0).2.mpr zero, ?_⟩
  · rw [order]
    decide
  · rw [converse]
    simp
  · obtain ⟨_, rejected, _⟩ := made_of_edges 3 [(1, [2]), (2, [1, 0, 7]), (9, [])]
    refine (rejected _).mpr ⟨[.node 1, .target 2, .node 2, .target 1],
      .target 0, [.target 7, .node 9], rfl, ?_, ?_, rfl⟩
    · decide
    · decide

end CausalityGraph

end CausalCast
