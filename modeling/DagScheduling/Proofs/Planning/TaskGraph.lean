/-
Module: DagScheduling.Proofs.Planning.TaskGraph
Purpose: The relations of a well-formed task list and the graph they give: its edges are the
  relations and those of the root, and every task is below the root.
Main exports: Related, WellFormed, BuiltFrom, addRelations_ok, BuiltFrom.child_iff,
  BuiltFrom.acyclic, BuiltFrom.below_root
-/
import DagScheduling.Planning.TaskGraph
import DagScheduling.Proofs.Graph.Paths
import DagScheduling.Proofs.Planning.Faults
import DagScheduling.Proofs.Planning.Sweep

namespace DagScheduling

variable {tasks : List Task} {parent child : TaskId} {count : Nat} {graph : Graph} {weight : Float}

/-- The relation is recorded by the parent or by the child. -/
def Related (tasks : List Task) (parent child : TaskId) : Prop :=
  (∃ task ∈ tasks, task.id = parent ∧ child ∈ task.childIds) ∨
    ∃ task ∈ tasks, task.id = child ∧ parent ∈ task.parentIds

theorem relates_relations : Relates (relations tasks) = Related tasks := by
  funext parent child
  simp only [Relates, relations, List.mem_eraseDups, recordedRelations, List.mem_append,
    List.mem_flatMap, Task.childRelations, Task.parentRelations, List.mem_map, Prod.mk.injEq,
    Related, eq_iff_iff]
  apply or_congr
  · constructor
    · rintro ⟨task, member, named, namedMember, same, rfl⟩
      exact ⟨task, member, same, namedMember⟩
    · rintro ⟨task, member, same, namedMember⟩
      exact ⟨task, member, child, namedMember, same, rfl⟩
  · constructor
    · rintro ⟨task, member, named, namedMember, rfl, same⟩
      exact ⟨task, member, same, namedMember⟩
    · rintro ⟨task, member, same, namedMember⟩
      exact ⟨task, member, parent, namedMember, rfl, same⟩

theorem acyclic_relations_iff : Acyclic (relations tasks) ↔
    ∀ task, ¬ Relation.TransGen (Related tasks) task task := by
  rw [Acyclic, relates_relations]

/-- A task list that can be planned. -/
structure WellFormed (tasks : List Task) : Prop where
  nonempty : tasks ≠ []
  numbers : (tasks.map Task.id).Perm (List.range' 1 tasks.length)
  costs : ∀ task ∈ tasks, task.cost.isFinite = true ∧ 0.0 < task.cost
  references : ∀ task ∈ tasks, ∀ id ∈ task.parentIds ++ task.childIds, 1 ≤ id ∧ id ≤ tasks.length
  acyclic : ∀ task, ¬ Relation.TransGen (Related tasks) task task

/-- `N` different numbers among `1..=N` are all of them. -/
theorem Admitted.numbers (admitted : Admitted tasks.length tasks) :
    (tasks.map Task.id).Perm (List.range' 1 tasks.length) := by
  apply perm_of_within admitted.distinct _ (List.length_map _)
  intro id member
  obtain ⟨task, taskMember, same⟩ := List.mem_map.mp member
  rw [← same]
  exact admitted.numbered task taskMember

theorem numbered_relations (admitted : Admitted count tasks)
    (resolved : ∀ task ∈ tasks, Resolved count task) : Numbered (count + 1) (relations tasks) := by
  intro parent child relates
  have within (id : TaskId) (inside : 1 ≤ id ∧ id ≤ count) : 1 ≤ id ∧ id < count + 1 :=
    ⟨inside.1, by lia⟩
  rw [relates_relations] at relates
  rcases relates with ⟨task, member, same, named⟩ | ⟨task, member, same, named⟩
  · refine ⟨within parent ?_, within child ?_⟩
    · rw [← same]
      exact admitted.numbered task member
    · exact resolved task member child (List.mem_append_right _ named)
  · refine ⟨within parent ?_, within child ?_⟩
    · exact resolved task member parent (List.mem_append_left _ named)
    · rw [← same]
      exact admitted.numbered task member

theorem mem_rootRelations :
    (parent, child) ∈ rootRelations tasks ↔
      parent = root ∧ (∃ task ∈ tasks, task.id = child) ∧ ∀ other, ¬ Related tasks other child := by
  simp only [rootRelations, List.mem_map, List.mem_filter, Bool.not_eq_true',
    List.any_eq_false, beq_iff_eq, Prod.mk.injEq, Prod.forall, ← relates_relations, Relates]
  constructor
  · rintro ⟨task, ⟨member, orphan⟩, rfl, rfl⟩
    exact ⟨rfl, ⟨task, member, rfl⟩, fun other relates => orphan other task.id relates rfl⟩
  · rintro ⟨rfl, ⟨task, member, rfl⟩, orphan⟩
    refine ⟨task, ⟨member, ?_⟩, rfl, rfl⟩
    intro other named relates same
    rw [same] at relates
    exact orphan other relates

/-! ### Edges for relations -/

/-- Between nodes of the graph an edge can be added for each relation. -/
theorem addRelations_ok (graph : Graph) (weight : Float) {related : List Relation}
    (inRange : ∀ relation ∈ related,
      relation.1 < graph.nodeCount ∧ relation.2 < graph.nodeCount) :
    ∃ later, addRelations graph weight related = .ok later ∧
      later.nodeCount = graph.nodeCount ∧
      (∀ v, later.isRemoved v = graph.isRemoved v) ∧
      ∀ v, later.childrenOf v = graph.childrenOf v ++ Sweep.successors related v := by
  induction related generalizing graph with
  | nil =>
      refine ⟨graph, rfl, rfl, fun _ => rfl, ?_⟩
      intro v
      rw [Sweep.successors, List.filter_nil, List.map_nil, List.append_nil]
  | cons relation rest inductionHypothesis =>
      obtain ⟨⟨source, dest⟩, restInRange⟩ := List.forall_mem_cons.mp inRange
      obtain ⟨next, added, nodeCount, isRemoved, edgesOf⟩ := graph.addEdge_ok weight source dest
      rw [← nodeCount] at restInRange
      obtain ⟨later, rest, restNodeCount, restIsRemoved, childrenOf⟩ :=
        inductionHypothesis next restInRange
      refine ⟨later, ?_, restNodeCount.trans nodeCount,
        fun v => (restIsRemoved v).trans (isRemoved v), ?_⟩
      · rw [addRelations, List.foldlM_cons, added, ok_bind]
        exact rest
      · intro v
        rw [childrenOf, Graph.childrenOf, edgesOf, Graph.childrenOf, Sweep.successors,
          Sweep.successors, List.filter_cons]
        by_cases same : relation.1 = v
        · simp [same]
        · simp [same, Ne.symm same]

/-- What the graph of a task list looks like, the weights of its edges aside. -/
structure BuiltFrom (tasks : List Task) (graph : Graph) : Prop where
  nodeCount : graph.nodeCount = tasks.length + 1
  isRemoved : ∀ v, graph.isRemoved v = false
  childrenOf : ∀ v,
    graph.childrenOf v = Sweep.successors (rootRelations tasks ++ relations tasks) v

theorem addRelations_built (weight : Float) (admitted : Admitted tasks.length tasks)
    (resolved : ∀ task ∈ tasks, Resolved tasks.length task) :
    ∃ graph, addRelations (Graph.ofNodeCount (tasks.length + 1)) weight
      (rootRelations tasks ++ relations tasks) = .ok graph ∧ BuiltFrom tasks graph := by
  have inRange : ∀ relation ∈ rootRelations tasks ++ relations tasks,
      relation.1 < tasks.length + 1 ∧ relation.2 < tasks.length + 1 := by
    rintro ⟨parent, child⟩ member
    rcases List.mem_append.mp member with ofRoot | ofTask
    · obtain ⟨rfl, ⟨task, taskMember, rfl⟩, -⟩ := mem_rootRelations.mp ofRoot
      have bound := (admitted.numbered task taskMember).2
      exact ⟨Nat.zero_lt_succ _, Nat.lt_succ_of_le bound⟩
    · obtain ⟨⟨-, parentInRange⟩, -, childInRange⟩ := numbered_relations admitted resolved ofTask
      exact ⟨parentInRange, childInRange⟩
  rw [← Graph.nodeCount_ofNodeCount (tasks.length + 1)] at inRange
  obtain ⟨graph, added, nodeCount, isRemoved, childrenOf⟩ :=
    addRelations_ok (Graph.ofNodeCount (tasks.length + 1)) weight inRange
  refine ⟨graph, added, ?_, ?_, ?_⟩
  · rw [nodeCount, Graph.nodeCount_ofNodeCount]
  · intro v
    rw [isRemoved, Graph.isRemoved_ofNodeCount]
  · intro v
    rw [childrenOf, Graph.childrenOf, Graph.edgesOf_ofNodeCount, List.map_nil, List.nil_append]

/-! ### The graph of a well-formed list -/

namespace WellFormed

theorem admitted (wellFormed : WellFormed tasks) : Admitted tasks.length tasks where
  numbered := by
    intro task member
    exact mem_range'_one.mp (wellFormed.numbers.subset (List.mem_map_of_mem member))
  distinct := nodup_of_complete wellFormed.numbers
  costs := wellFormed.costs

theorem exists_task (wellFormed : WellFormed tasks) {id : TaskId} (positive : 1 ≤ id)
    (inRange : id ≤ tasks.length) : ∃ task ∈ tasks, task.id = id := by
  have member : id ∈ tasks.map Task.id := by
    apply wellFormed.numbers.mem_iff.mpr
    exact mem_range'_one.mpr ⟨positive, inRange⟩
  exact List.mem_map.mp member

theorem acyclic_relations (wellFormed : WellFormed tasks) : Acyclic (relations tasks) :=
  acyclic_relations_iff.mpr wellFormed.acyclic

theorem numbered (wellFormed : WellFormed tasks) (related : Related tasks parent child) :
    (1 ≤ parent ∧ parent ≤ tasks.length) ∧ 1 ≤ child ∧ child ≤ tasks.length := by
  rw [← relates_relations] at related
  have within := numbered_relations wellFormed.admitted wellFormed.references related
  exact ⟨⟨within.1.1, by lia⟩, within.2.1, by lia⟩

end WellFormed

namespace BuiltFrom

theorem child_iff (built : BuiltFrom tasks graph) :
    graph.Child parent child ↔
      (parent = root ∧ (∃ task ∈ tasks, task.id = child) ∧ ∀ other, ¬ Related tasks other child) ∨
        Related tasks parent child := by
  rw [Graph.Child, built.childrenOf, Sweep.mem_successors, ← mem_rootRelations,
    ← relates_relations]
  exact List.mem_append

/-- Edges lead to tasks only. -/
theorem positive_of_child (built : BuiltFrom tasks graph) (wellFormed : WellFormed tasks)
    (edge : graph.Child parent child) : 1 ≤ child := by
  rcases built.child_iff.mp edge with ⟨-, ⟨task, member, same⟩, -⟩ | related
  · rw [← same]
    exact (wellFormed.admitted.numbered task member).1
  · exact (wellFormed.numbered related).2.1

theorem acyclic (built : BuiltFrom tasks graph) (wellFormed : WellFormed tasks) (v : NodeId) :
    ¬ graph.Below v v := by
  have positive_below {v w : NodeId} (below : graph.Below v w) : 1 ≤ w := by
    obtain ⟨parent, -, edge⟩ := Relation.TransGen.tail'_iff.mp below
    exact built.positive_of_child wellFormed edge
  -- Apart from the root's own, all edges are relations.
  have related_below {v w : NodeId} (below : graph.Below v w) (positive : 1 ≤ v) :
      Relation.TransGen (Related tasks) v w := by
    induction below with
    | single edge =>
        rcases built.child_iff.mp edge with ⟨isRoot, -⟩ | related
        · subst isRoot
          exact absurd positive (by decide)
        · exact .single related
    | tail earlier edge inductionHypothesis =>
        rcases built.child_iff.mp edge with ⟨isRoot, -⟩ | related
        · subst isRoot
          exact absurd (positive_below earlier) (by decide)
        · exact inductionHypothesis.tail related
  intro cycle
  exact wellFormed.acyclic v (related_below cycle (positive_below cycle))

theorem below_root (built : BuiltFrom tasks graph) (wellFormed : WellFormed tasks) (v : TaskId)
    (positive : 1 ≤ v) (inRange : v ≤ tasks.length) : graph.Below root v := by
  induction v using wellFormed.acyclic_relations.induction with
  | step child parents =>
      by_cases orphan : ∃ parent, Related tasks parent child
      · obtain ⟨parent, related⟩ := orphan
        obtain ⟨⟨parentPositive, parentInRange⟩, -⟩ := wellFormed.numbered related
        rw [relates_relations] at parents
        have above := parents parent related parentPositive parentInRange
        exact above.tail (built.child_iff.mpr (Or.inr related))
      · have task := wellFormed.exists_task positive inRange
        exact .single (built.child_iff.mpr (Or.inl ⟨rfl, task, not_exists.mp orphan⟩))

end BuiltFrom

end DagScheduling
