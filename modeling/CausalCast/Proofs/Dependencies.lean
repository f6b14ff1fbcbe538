import CausalCast.CausalityGraph

/-!
# Dependencies and dependents

A graph that was built from a list of edges keeps two tables which say the
same: apart from itself, a node depends on another exactly if it is among the
dependents of the other.  Every dependency is the id of a node that the graph
covers.

A list of edges is taken if all of its ids are proper.  The dependencies of a
node are then the targets that the list has for it, in the order in which they
first occur.
-/

namespace CausalCast

namespace CausalityGraph

/-- An id that a node may depend on in a graph of a certain length. -/
def IsTarget (length : Nat) (target : NodeId) : Prop :=
  1 ≤ target.toNat ∧ target.toNat < length

theorem isTarget_iff {length : Nat} {target : NodeId} :
    IsTarget length target ↔ ¬(length ≤ target.toNat ∨ target = 0) := by
  have zero_iff : target = 0 ↔ target.toNat = 0 := UInt32.toNat_inj.symm
  rw [IsTarget, zero_iff]
  omega

/-- The two tables of a graph agree, and dependencies are proper nodes. -/
structure Coherent (graph : CausalityGraph) : Prop where
  size_eq : graph.dependentTable.size = graph.dependencyTable.size
  dependent : ∀ node dependency, dependency ∈ graph.dependencies node →
    dependency ≠ node → node ∈ graph.dependents dependency
  inRange : ∀ node dependency, dependency ∈ graph.dependencies node →
    1 ≤ dependency.toNat ∧ dependency.toNat < graph.length

theorem coherent_empty (length : Nat) : (empty length).Coherent := by
  have nothing : ∀ node, (empty length).dependencies node = [] := by
    intro node
    simp only [dependencies, empty, Array.getD_eq_getD_getElem?,
      Array.getElem?_replicate]
    split <;> rfl
  refine ⟨by simp [empty], ?_, ?_⟩
  · intro node dependency member
    simp [nothing] at member
  · intro node dependency member
    simp [nothing] at member

private theorem getD_modify_append (table : Array (List NodeId))
    {changed : NodeId} (inRange : changed.toNat < table.size)
    (added other : NodeId) :
    (table.modify changed.toNat (· ++ [added])).getD other.toNat [] =
      if other = changed then table.getD changed.toNat [] ++ [added]
      else table.getD other.toNat [] := by
  simp only [Array.getD_eq_getD_getElem?, Array.getElem?_modify]
  by_cases same : other = changed
  · subst same
    simp [inRange]
  · have apart : ¬changed.toNat = other.toNat :=
      fun equal => same (UInt32.toNat_inj.mp equal.symm)
    simp [same, apart]

theorem dependencies_insert (graph : CausalityGraph) {node dependency : NodeId}
    (inRange : node.toNat < graph.length) (other : NodeId) :
    (graph.insert node dependency).dependencies other =
      if other = node ∧ dependency ∉ graph.dependencies node then
        graph.dependencies node ++ [dependency]
      else graph.dependencies other := by
  unfold insert
  by_cases present : dependency ∈ graph.dependencies node
  · simp [present]
  · rw [if_neg present]
    simp only [dependencies] at present ⊢
    rw [getD_modify_append _ inRange]
    simp only [present, not_false_eq_true, and_true]

theorem dependents_insert (graph : CausalityGraph) {node dependency : NodeId}
    (inRange : dependency.toNat < graph.dependentTable.size) (other : NodeId) :
    (graph.insert node dependency).dependents other =
      if other = dependency ∧ dependency ≠ node ∧
          dependency ∉ graph.dependencies node then
        graph.dependents dependency ++ [node]
      else graph.dependents other := by
  unfold insert
  by_cases present : dependency ∈ graph.dependencies node
  · simp [present]
  · rw [if_neg present]
    by_cases own : dependency = node
    · simp [own, dependents]
    · simp only [dependents, own, if_false]
      rw [getD_modify_append _ inRange]
      simp only [present, own, ne_eq, not_false_eq_true, and_true]

theorem size_dependentTable_insert (graph : CausalityGraph)
    (node dependency : NodeId) :
    (graph.insert node dependency).dependentTable.size =
      graph.dependentTable.size := by
  unfold insert
  split
  · rfl
  · dsimp only
    split <;> simp

theorem mem_dependencies_insert {graph : CausalityGraph}
    {node dependency : NodeId} (inRange : node.toNat < graph.length)
    {other target : NodeId} :
    target ∈ (graph.insert node dependency).dependencies other ↔
      target ∈ graph.dependencies other ∨
        other = node ∧ target = dependency := by
  rw [dependencies_insert graph inRange]
  by_cases same : other = node
  · subst same
    by_cases present : dependency ∈ graph.dependencies other
    · simp only [present, not_true_eq_false, and_false, if_false, true_and]
      constructor
      · exact .inl
      · rintro (member | rfl)
        · exact member
        · exact present
    · simp [present]
  · simp [same]

theorem mem_dependents_insert {graph : CausalityGraph}
    {node dependency : NodeId}
    (inRange : dependency.toNat < graph.dependentTable.size)
    {other target : NodeId} :
    other ∈ (graph.insert node dependency).dependents target ↔
      other ∈ graph.dependents target ∨
        other = node ∧ target = dependency ∧ dependency ≠ node ∧
          dependency ∉ graph.dependencies node := by
  rw [dependents_insert graph inRange]
  by_cases here : target = dependency ∧ dependency ≠ node ∧
      dependency ∉ graph.dependencies node
  · obtain ⟨rfl, different, fresh⟩ := here
    simp [different, fresh]
  · simp [here]

theorem Coherent.insert {graph : CausalityGraph} (coherent : graph.Coherent)
    {node dependency : NodeId} (covered : node.toNat < graph.length)
    (proper : IsTarget graph.length dependency) :
    (graph.insert node dependency).Coherent := by
  have inTable : dependency.toNat < graph.dependentTable.size := by
    rw [coherent.size_eq]
    exact proper.2
  refine ⟨?_, ?_, ?_⟩
  · rw [size_dependentTable_insert, coherent.size_eq]
    exact (length_insert graph node dependency).symm
  · intro other target member different
    rw [mem_dependents_insert inTable]
    rcases (mem_dependencies_insert covered).mp member with old | ⟨rfl, rfl⟩
    · exact .inl (coherent.dependent other target old different)
    · by_cases present : target ∈ graph.dependencies other
      · exact .inl (coherent.dependent other target present different)
      · exact .inr ⟨rfl, rfl, different, present⟩
  · intro other target member
    rw [length_insert]
    rcases (mem_dependencies_insert covered).mp member with old | ⟨rfl, rfl⟩
    · exact coherent.inRange other target old
    · exact proper

/-! ## One edge after another -/

section Keeps

variable {motive : CausalityGraph → Prop} {length : Nat}
  (step : ∀ (graph : CausalityGraph) (node target : NodeId),
    graph.length = length → node.toNat < length → IsTarget length target →
      motive graph → motive (graph.insert node target))

include step

theorem insertAll_keeps {graph extended : CausalityGraph} {node : NodeId}
    {targets : List NodeId} (covers : graph.length = length)
    (covered : node.toNat < length) (holds : motive graph)
    (built : graph.insertAll node targets = .ok extended) :
    motive extended ∧ extended.length = length := by
  induction targets generalizing graph with
  | nil =>
      obtain rfl := Except.ok.inj built
      exact ⟨holds, covers⟩
  | cons target targets induction =>
      simp only [insertAll] at built
      split at built
      · contradiction
      case isFalse proper =>
          rw [covers] at proper
          have inRange := isTarget_iff.mpr proper
          exact induction (by rw [length_insert, covers])
            (step graph node target covers covered inRange holds) built

theorem addEdges_keeps {graph extended : CausalityGraph}
    {edges : List (NodeId × List NodeId)} (covers : graph.length = length)
    (holds : motive graph) (built : graph.addEdges edges = .ok extended) :
    motive extended ∧ extended.length = length := by
  induction edges generalizing graph with
  | nil =>
      obtain rfl := Except.ok.inj built
      exact ⟨holds, covers⟩
  | cons edge edges induction =>
      obtain ⟨node, targets⟩ := edge
      simp only [addEdges] at built
      split at built
      · contradiction
      case isFalse covered =>
          rw [covers, Nat.not_le] at covered
          cases first : graph.insertAll node targets with
          | error problem =>
              rw [first] at built
              contradiction
          | ok middle =>
              rw [first] at built
              obtain ⟨kept, still⟩ :=
                insertAll_keeps step covers covered holds first
              exact induction still kept built

/-- What holds of the graph without edges and is kept by every edge holds of
the graph that a list of edges makes. -/
theorem ofEdges_keeps {edges : List (NodeId × List NodeId)}
    {graph : CausalityGraph} (start : motive (empty length))
    (built : ofEdges length edges = .ok graph) :
    motive graph ∧ graph.length = length :=
  addEdges_keeps step (length_empty length) start built

end Keeps

theorem coherent_ofEdges {length : Nat} {edges : List (NodeId × List NodeId)}
    {graph : CausalityGraph} (built : ofEdges length edges = .ok graph) :
    graph.Coherent ∧ graph.length = length := by
  refine ofEdges_keeps ?_ (coherent_empty length) built
  rintro graph node target rfl covered proper coherent
  exact coherent.insert covered proper

/-! ## The targets of a list of edges -/

/-- What a list says about a node, in order and with repetitions. -/
def targetsOf (node : NodeId) (edges : List (NodeId × List NodeId)) :
    List NodeId :=
  edges.flatMap fun edge => if edge.1 = node then edge.2 else []

theorem eraseDups_append_singleton (targets : List NodeId) (target : NodeId) :
    (targets ++ [target]).eraseDups =
      if target ∈ targets.eraseDups then targets.eraseDups
      else targets.eraseDups ++ [target] := by
  rw [List.eraseDups_append]
  by_cases present : target ∈ targets
  · simp [List.removeAll, present]
  · simp [List.removeAll, present, List.eraseDups_cons]

theorem dependencies_insertAll {graph extended : CausalityGraph} {node : NodeId}
    {collected targets : List NodeId} (covered : node.toNat < graph.length)
    (known : graph.dependencies node = collected.eraseDups)
    (built : graph.insertAll node targets = .ok extended) (other : NodeId) :
    extended.dependencies other =
      if other = node then (collected ++ targets).eraseDups
      else graph.dependencies other := by
  induction targets generalizing graph collected with
  | nil =>
      obtain rfl := Except.ok.inj built
      rw [List.append_nil, ← known]
      split
      case isTrue same => rw [same]
      case isFalse => rfl
  | cons target targets induction =>
      simp only [insertAll] at built
      split at built
      · contradiction
      · have inserted : (graph.insert node target).dependencies node =
            (collected ++ [target]).eraseDups := by
          rw [dependencies_insert graph covered, known,
            eraseDups_append_singleton]
          by_cases present : target ∈ collected.eraseDups
          · simp [present]
          · simp [present]
        have later := induction (by rwa [length_insert]) inserted built
        rw [later, List.append_assoc, List.singleton_append]
        by_cases same : other = node
        · rw [if_pos same, if_pos same]
        · rw [if_neg same, if_neg same, dependencies_insert graph covered,
            if_neg (fun both => same both.1)]

theorem dependencies_addEdges {graph extended : CausalityGraph}
    {edges : List (NodeId × List NodeId)} {collected : NodeId → List NodeId}
    (known : ∀ node, graph.dependencies node = (collected node).eraseDups)
    (built : graph.addEdges edges = .ok extended) (node : NodeId) :
    extended.dependencies node =
      (collected node ++ targetsOf node edges).eraseDups := by
  induction edges generalizing graph collected with
  | nil =>
      obtain rfl := Except.ok.inj built
      rw [known, targetsOf, List.flatMap_nil, List.append_nil]
  | cons edge edges induction =>
      obtain ⟨source, targets⟩ := edge
      simp only [addEdges] at built
      split at built
      · contradiction
      case isFalse covered =>
          cases step : graph.insertAll source targets with
          | error problem =>
              rw [step] at built
              contradiction
          | ok middle =>
              rw [step] at built
              have added := dependencies_insertAll (Nat.not_le.mp covered)
                (known source) step
              have next : ∀ other, middle.dependencies other =
                  (collected other ++
                    if source = other then targets else []).eraseDups := by
                intro other
                rw [added]
                by_cases same : other = source
                · simp [same]
                · simp [same, Ne.symm same, known]
              have final := induction next built
              rw [final, List.append_assoc]
              rfl

theorem dependencies_ofEdges {length : Nat}
    {edges : List (NodeId × List NodeId)} {graph : CausalityGraph}
    (built : ofEdges length edges = .ok graph) (node : NodeId) :
    graph.dependencies node = (targetsOf node edges).eraseDups := by
  have nothing : ∀ node, (empty length).dependencies node =
      ([] : List NodeId).eraseDups := by
    intro node
    simp only [dependencies, empty, Array.getD_eq_getD_getElem?,
      Array.getElem?_replicate]
    split <;> rfl
  have added := @dependencies_addEdges _ _ _ (fun _ => []) nothing built node
  exact added

theorem exists_insertAll {graph : CausalityGraph} (node : NodeId)
    {targets : List NodeId}
    (proper : ∀ target ∈ targets, IsTarget graph.length target) :
    ∃ extended, graph.insertAll node targets = .ok extended ∧
      extended.length = graph.length := by
  induction targets generalizing graph with
  | nil => exact ⟨graph, rfl, rfl⟩
  | cons target targets induction =>
      obtain ⟨taken, others⟩ := List.forall_mem_cons.mp proper
      rw [← length_insert graph node target] at others
      obtain ⟨extended, built, length⟩ := induction others
      rw [insertAll, if_neg (isTarget_iff.mp taken)]
      exact ⟨extended, built, length.trans (length_insert graph node target)⟩

theorem exists_addEdges {graph : CausalityGraph}
    {edges : List (NodeId × List NodeId)}
    (proper : ∀ edge ∈ edges, edge.1.toNat < graph.length ∧
      ∀ target ∈ edge.2, IsTarget graph.length target) :
    ∃ extended, graph.addEdges edges = .ok extended := by
  induction edges generalizing graph with
  | nil => exact ⟨graph, rfl⟩
  | cons edge edges induction =>
      obtain ⟨⟨covered, targets⟩, others⟩ := List.forall_mem_cons.mp proper
      obtain ⟨middle, built, length⟩ := exists_insertAll edge.1 targets
      rw [← length] at others
      obtain ⟨extended, rest⟩ := induction others
      refine ⟨extended, ?_⟩
      rw [addEdges, if_neg (Nat.not_le.mpr covered), built]
      exact rest

theorem exists_ofEdges {length : Nat} {edges : List (NodeId × List NodeId)}
    (proper : ∀ edge ∈ edges, edge.1.toNat < length ∧
      ∀ target ∈ edge.2, IsTarget length target) :
    ∃ graph, ofEdges length edges = .ok graph := by
  apply exists_addEdges
  rwa [length_empty]

end CausalityGraph

end CausalCast
