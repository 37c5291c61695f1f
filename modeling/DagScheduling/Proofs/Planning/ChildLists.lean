/-
Module: DagScheduling.Proofs.Planning.ChildLists
Purpose: The graph of a well-formed task list, edge by edge: which child list each node has and
  in which order, and that no edge is there twice.
Main exports: Task.isOrphan, Task.childrenIn, BuiltFrom.childrenOf_root, BuiltFrom.childrenOf_task,
  BuiltFrom.node_cases, BuiltFrom.nodup_childrenOf, BuiltFrom.reachableCount_root, Graph.Even,
  even_of_buildGraph, Graph.Even.eq_of_sameShape
-/
import DagScheduling.Proofs.FirstOccurrences
import DagScheduling.Proofs.Graph.Search
import DagScheduling.Proofs.Planning.TaskGraph

namespace DagScheduling

open Sweep (successors)

variable {tasks : List Task} {task : Task} {graph later : Graph} {weight : Float}
  {related first second : List Relation} {parent child v w : NodeId}

/-! ### Ends of the relations from a node -/

theorem successors_append :
    successors (first ++ second) v = successors first v ++ successors second v := by
  simp [successors]

theorem successors_flatMap (relationsOf : Task → List Relation) :
    successors (tasks.flatMap relationsOf) v =
      tasks.flatMap fun task => successors (relationsOf task) v := by
  simp [successors, List.filter_flatMap, List.map_flatMap]

/-- Of two relations from one node with one end the first occurrence is that of the end. -/
theorem successors_eraseDups :
    successors related.eraseDups v = (successors related v).eraseDups := by
  simp only [successors, filter_eraseDups]
  apply map_eraseDups
  intro one oneMember two twoMember sameEnd
  have oneFrom := beq_iff_eq.mp (List.mem_filter.mp oneMember).2
  have twoFrom := beq_iff_eq.mp (List.mem_filter.mp twoMember).2
  exact Prod.ext (oneFrom.trans twoFrom.symm) sameEnd

theorem successors_childRelations :
    successors task.childRelations v = if task.id = v then task.childIds else [] := by
  by_cases same : task.id = v
  · simp [successors, Task.childRelations, same, List.filter_map, Function.comp_def]
  · simp [successors, Task.childRelations, same, List.filter_map, Function.comp_def]

theorem successors_parentRelations :
    successors task.parentRelations v =
      (task.parentIds.filter fun parent => parent == v).map fun _ => task.id := by
  simp [successors, Task.parentRelations, List.filter_map, Function.comp_def]

/-! ### Child lists -/

/-- No recorded relation gives the task a parent. -/
def Task.isOrphan (tasks : List Task) (task : Task) : Bool :=
  task.parentIds.isEmpty && tasks.all fun other => !other.childIds.contains task.id

/-- The children of a task: those it names, then the tasks that name it as a
parent, in list order, each where it first stands. -/
def Task.childrenIn (tasks : List Task) (task : Task) : List TaskId :=
  (task.childIds ++
    (tasks.filter fun other => other.parentIds.contains task.id).map Task.id).eraseDups

/-- Among tasks with different numbers only the task itself names children of its own. -/
theorem flatMap_childIds (distinct : (tasks.map Task.id).Nodup) (member : task ∈ tasks) :
    (tasks.flatMap fun other => if other.id = task.id then other.childIds else []) =
      task.childIds := by
  induction tasks with
  | nil => exact absurd member List.not_mem_nil
  | cons first rest inductionHypothesis =>
      obtain ⟨new, restDistinct⟩ := List.nodup_cons.mp distinct
      rw [List.flatMap_cons]
      rcases List.mem_cons.mp member with same | later
      · subst same
        have noOther : ∀ other ∈ rest, other.id ≠ task.id := by
          intro other otherMember same
          exact new (same ▸ List.mem_map_of_mem otherMember)
        have none : (rest.flatMap fun other =>
            if other.id = task.id then other.childIds else []) = [] := by
          apply List.flatMap_eq_nil_iff.mpr
          intro other otherMember
          exact if_neg (noOther other otherMember)
        rw [none, if_pos rfl, List.append_nil]
      · have different : first.id ≠ task.id := by
          intro same
          exact new (same ▸ List.mem_map_of_mem later)
        rw [if_neg different, List.nil_append]
        exact inductionHypothesis restDistinct later

/-- A task that names a parent several times stands among its children once. -/
theorem eraseDups_naming (tasks : List Task) (v : NodeId) :
    (tasks.flatMap fun other => successors other.parentRelations v).eraseDups =
      ((tasks.filter fun other => other.parentIds.contains v).map Task.id).eraseDups := by
  induction tasks with
  | nil => rfl
  | cons first rest inductionHypothesis =>
      rw [List.flatMap_cons, List.filter_cons]
      by_cases named : first.parentIds.contains v = true
      · have once : (successors first.parentRelations v).eraseDups = [first.id].eraseDups := by
          apply eraseDups_of_forall_eq
          · simpa [successors_parentRelations] using named
          · simp [successors_parentRelations]
        rw [if_pos named, List.map_cons]
        exact eraseDups_append_congr once inductionHypothesis
      · have never : successors first.parentRelations v = [] := by
          have other : ∀ parent ∈ first.parentIds, parent ≠ v := by
            intro parent member same
            exact named (List.contains_iff_mem.mpr (same ▸ member))
          simpa [successors_parentRelations] using other
        rw [if_neg named, never]
        exact inductionHypothesis

theorem successors_relations (distinct : (tasks.map Task.id).Nodup) (member : task ∈ tasks) :
    successors (relations tasks) task.id = task.childrenIn tasks := by
  rw [relations, successors_eraseDups, recordedRelations, successors_append,
    successors_flatMap, successors_flatMap]
  simp only [successors_childRelations]
  rw [flatMap_childIds distinct member]
  exact eraseDups_append_congr rfl (eraseDups_naming tasks task.id)

theorem isOrphan_iff (distinct : (tasks.map Task.id).Nodup) (member : task ∈ tasks) :
    task.isOrphan tasks = true ↔ ∀ parent, ¬ Related tasks parent task.id := by
  simp only [Task.isOrphan, Bool.and_eq_true, List.isEmpty_iff, List.all_eq_true, Bool.not_eq_true',
    ← Bool.not_eq_true, List.contains_iff_mem]
  constructor
  · intro orphan parent related
    rcases related with ⟨other, otherMember, -, named⟩ | ⟨other, otherMember, same, named⟩
    · exact orphan.2 other otherMember named
    · cases List.inj_on_of_nodup_map distinct otherMember member same
      rw [orphan.1] at named
      exact List.not_mem_nil named
  · intro unrelated
    constructor
    · apply List.eq_nil_iff_forall_not_mem.mpr
      intro parent named
      exact unrelated parent (Or.inr ⟨task, member, rfl, named⟩)
    · intro other otherMember named
      exact unrelated other.id (Or.inl ⟨other, otherMember, rfl, named⟩)

theorem map_snd_rootRelations (distinct : (tasks.map Task.id).Nodup) :
    (rootRelations tasks).map Prod.snd = (tasks.filter (Task.isOrphan tasks)).map Task.id := by
  have sameTest : (tasks.filter fun task =>
      !(relations tasks).any fun relation => relation.2 == task.id) =
      tasks.filter (Task.isOrphan tasks) := by
    apply List.filter_congr
    intro task member
    rw [Bool.eq_iff_iff, isOrphan_iff distinct member, ← relates_relations]
    simp only [Bool.not_eq_true', List.any_eq_false, beq_iff_eq, Relates]
    constructor
    · intro orphan parent related
      exact orphan (parent, task.id) related rfl
    · rintro orphan ⟨parent, child⟩ related same
      exact orphan parent (same ▸ related)
  simp [rootRelations, sameTest, Function.comp_def]

namespace BuiltFrom

theorem childrenOf_root (built : BuiltFrom tasks graph) (wellFormed : WellFormed tasks) :
    graph.childrenOf root = (tasks.filter (Task.isOrphan tasks)).map Task.id := by
  have noRelation : successors (relations tasks) root = [] := by
    apply List.eq_nil_iff_forall_not_mem.mpr
    intro child member
    have related := Sweep.mem_successors.mp member
    rw [relates_relations] at related
    have positive := (wellFormed.numbered related).1.1
    exact absurd positive (by decide)
  have all : successors (rootRelations tasks) root = (rootRelations tasks).map Prod.snd := by
    rw [successors, List.filter_eq_self.mpr]
    rintro ⟨parent, child⟩ member
    exact beq_iff_eq.mpr (mem_rootRelations.mp member).1
  rw [built.childrenOf, successors_append, noRelation, List.append_nil, all,
    map_snd_rootRelations wellFormed.admitted.distinct]

theorem childrenOf_task (built : BuiltFrom tasks graph) (wellFormed : WellFormed tasks)
    (member : task ∈ tasks) : graph.childrenOf task.id = task.childrenIn tasks := by
  have positive := (wellFormed.admitted.numbered task member).1
  have noRoot : successors (rootRelations tasks) task.id = [] := by
    apply List.eq_nil_iff_forall_not_mem.mpr
    intro child member
    have isRoot := (mem_rootRelations.mp (Sweep.mem_successors.mp member)).1
    exact Nat.ne_of_gt positive isRoot
  rw [built.childrenOf, successors_append, noRoot, List.nil_append,
    successors_relations wellFormed.admitted.distinct member]

/-- A node is the root, a task, or none at all. -/
theorem node_cases (built : BuiltFrom tasks graph) (wellFormed : WellFormed tasks) (v : NodeId) :
    v = root ∨ (∃ task ∈ tasks, task.id = v) ∨ graph.nodeCount ≤ v := by
  rw [built.nodeCount]
  by_cases positive : 1 ≤ v
  · by_cases inRange : v ≤ tasks.length
    · exact Or.inr (Or.inl (wellFormed.exists_task positive inRange))
    · exact Or.inr (Or.inr (Nat.lt_of_not_le inRange))
  · exact Or.inl (Nat.eq_zero_of_not_pos positive)

/-- No edge is there twice. -/
theorem nodup_childrenOf (built : BuiltFrom tasks graph) (wellFormed : WellFormed tasks)
    (v : NodeId) : (graph.childrenOf v).Nodup := by
  rcases built.node_cases wellFormed v with isRoot | ⟨task, member, same⟩ | beyond
  · rw [isRoot, built.childrenOf_root wellFormed]
    exact wellFormed.admitted.distinct.sublist (List.filter_sublist.map Task.id)
  · rw [← same, built.childrenOf_task wellFormed member]
    exact nodup_eraseDups _
  · rw [Graph.childrenOf_of_nodeCount_le beyond]
    exact List.nodup_nil

/-- All tasks are below the root, and nothing else is. -/
theorem reachableCount_root (built : BuiltFrom tasks graph) (wellFormed : WellFormed tasks) :
    graph.reachableCount root = tasks.length := by
  have acyclic : graph.AcyclicBelow root := fun v _ => built.acyclic wellFormed v
  have same : (graph.nodesBelow root).Perm (List.range' 1 tasks.length) := by
    apply (List.perm_ext_iff_of_nodup (graph.nodup_nodesBelow root) (List.nodup_range' 1)).mpr
    intro v
    rw [acyclic.mem_nodesBelow, mem_range'_one]
    constructor
    · intro below
      obtain ⟨parent, -, edge⟩ := Relation.TransGen.tail'_iff.mp below
      have inRange := below.lt_nodeCount
      rw [built.nodeCount] at inRange
      exact ⟨built.positive_of_child wellFormed edge, Nat.le_of_lt_succ inRange⟩
    · intro bounds
      exact built.below_root wellFormed v bounds.1 bounds.2
  exact length_of_complete same

end BuiltFrom

/-! ### Weights -/

/-- All edges have one weight. -/
def Graph.Even (graph : Graph) (weight : Float) : Prop :=
  ∀ v, ∀ edge ∈ graph.edgesOf v, edge.weight = weight

theorem Graph.even_ofNodeCount (count : Nat) (weight : Float) :
    (Graph.ofNodeCount count).Even weight := by
  intro v edge member
  rw [Graph.edgesOf_ofNodeCount] at member
  exact absurd member List.not_mem_nil

theorem Graph.Even.addEdge {source dest : NodeId} (even : graph.Even weight)
    (added : graph.addEdge source dest weight = .ok later) : later.Even weight := by
  by_cases sourceInRange : source < graph.nodeCount
  · by_cases destInRange : dest < graph.nodeCount
    · obtain ⟨other, isOther, -, -, edgesOf⟩ := graph.addEdge_ok weight sourceInRange destInRange
      cases isOther.symm.trans added
      intro v edge member
      rw [edgesOf] at member
      rcases List.mem_append.mp member with old | new
      · exact even v edge old
      · split at new
        · rw [List.mem_singleton.mp new]
        · exact absurd new List.not_mem_nil
    · rw [Graph.addEdge, if_pos sourceInRange, dif_neg destInRange] at added
      cases added
  · rw [Graph.addEdge, if_neg sourceInRange] at added
    cases added

theorem Graph.Even.addRelations (even : graph.Even weight)
    (added : addRelations graph weight related = .ok later) : later.Even weight := by
  induction related generalizing graph with
  | nil =>
      cases added
      exact even
  | cons relation rest inductionHypothesis =>
      obtain ⟨next, isNext, others⟩ := exists_of_bind_ok added
      exact inductionHypothesis (even.addEdge isNext) others

/-- The edges of a graph that was built have the weight asked for. -/
theorem even_of_buildGraph (accepted : buildGraph tasks weight = .ok graph) :
    graph.Even weight := by
  obtain ⟨_, -, rest⟩ := exists_of_bind_ok accepted
  cases acyclic : isAcyclic (tasks.length + 1) (relations tasks) with
  | false =>
      simp only [acyclic] at rest
      cases rest
  | true =>
      simp only [acyclic, Bool.not_true, Bool.false_eq_true, if_false] at rest
      cases added : addRelations (Graph.ofNodeCount (tasks.length + 1)) weight
          (rootRelations tasks ++ relations tasks) with
      | error cause =>
          rw [added] at rest
          cases rest
      | ok later =>
          rw [added] at rest
          cases rest
          exact (Graph.even_ofNodeCount _ weight).addRelations added

theorem Graph.Even.edgesOf_eq (even : graph.Even weight) (v : NodeId) :
    graph.edgesOf v = (graph.childrenOf v).map fun w => { dest := w, weight := weight } := by
  have unchanged : (graph.edgesOf v).map (fun edge => { dest := edge.dest, weight := weight }) =
      (graph.edgesOf v).map id := by
    apply List.map_congr_left
    intro edge member
    rw [← even v edge member, id]
  rw [Graph.childrenOf, List.map_map]
  exact ((List.map_id _).symm.trans unchanged.symm)

/-- A graph whose edges have one weight is given by its shape. -/
theorem Graph.Even.eq_of_sameShape {other : Graph} (even : graph.Even weight)
    (evenOther : other.Even weight) (same : Graph.SameShape graph other) : other = graph := by
  apply Graph.eq_of_views same.nodeCount _ same.isRemoved
  intro v
  rw [even.edgesOf_eq, evenOther.edgesOf_eq, same.childrenOf]

end DagScheduling
