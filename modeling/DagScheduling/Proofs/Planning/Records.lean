/-
Module: DagScheduling.Proofs.Planning.Records
Purpose: What the built graph looks like, and how much of it depends on where and how often a
  relation is recorded: the edges do not, the order of a child list does, in so far as the
  children that a task names itself come first.
Main exports: Rerecords, childrenIn_eq, Rerecords.wellFormed, Rerecords.childrenOf_root,
  Rerecords.childrenOf_perm, Rerecords.childrenOf_task, Portrays, buildGraph_portrays
-/
import DagScheduling.Proofs.Planning.ChildLists
import DagScheduling.Proofs.Planning.Verdict

namespace DagScheduling

variable {tasks : List Task} {task : Task} {graph other : Graph} {weight : Float}
  {change : Task → Task} {parent child v : NodeId}

instance (tasks : List Task) (parent child : TaskId) : Decidable (Related tasks parent child) :=
  inferInstanceAs (Decidable ((∃ task ∈ tasks, task.id = parent ∧ child ∈ task.childIds) ∨
    ∃ task ∈ tasks, task.id = child ∧ parent ∈ task.parentIds))

/-- The children that a task does not name itself follow in list order. -/
theorem childrenIn_eq (distinct : (tasks.map Task.id).Nodup) (member : task ∈ tasks) :
    task.childrenIn tasks = task.childIds.eraseDups ++
      (tasks.map Task.id).filter fun id => id ∉ task.childIds ∧ Related tasks task.id id := by
  have naming : ((tasks.filter fun other => other.parentIds.contains task.id).map
        Task.id).removeAll task.childIds =
      (tasks.map Task.id).filter fun id => id ∉ task.childIds ∧ Related tasks task.id id := by
    rw [List.removeAll, List.filter_map, List.filter_map, List.filter_filter]
    congr 1
    apply List.filter_congr
    intro other otherMember
    rw [Bool.eq_iff_iff]
    simp only [Function.comp_apply, Bool.and_eq_true, Bool.not_eq_true', List.elem_eq_contains,
      ← Bool.not_eq_true, List.contains_iff_mem, decide_eq_true_eq]
    apply and_congr_right
    intro unnamed
    constructor
    · intro named
      exact Or.inr ⟨other, otherMember, rfl, named⟩
    · intro related
      rcases related with ⟨same, sameMember, sameId, named⟩ | ⟨same, sameMember, sameId, named⟩
      · cases List.inj_on_of_nodup_map distinct sameMember member sameId
        exact absurd named unnamed
      · cases List.inj_on_of_nodup_map distinct sameMember otherMember sameId
        exact named
  have distinctNaming := distinct.filter fun id => id ∉ task.childIds ∧ Related tasks task.id id
  rw [Task.childrenIn, List.eraseDups_append, naming, eraseDups_of_nodup distinctNaming]

/-! ### The same relations, recorded elsewhere or more often -/

/-- The change leaves the tasks and their relations as they are, and only moves
where the relations are recorded and how often. -/
structure Rerecords (tasks : List Task) (change : Task → Task) : Prop where
  id : ∀ task ∈ tasks, (change task).id = task.id
  cost : ∀ task ∈ tasks, (change task).cost = task.cost
  related : ∀ parent child, Related (tasks.map change) parent child ↔ Related tasks parent child

namespace Rerecords

theorem map_id (rerecords : Rerecords tasks change) :
    (tasks.map change).map Task.id = tasks.map Task.id := by
  rw [List.map_map]
  apply List.map_congr_left
  intro task member
  exact rerecords.id task member

theorem related_eq (rerecords : Rerecords tasks change) :
    Related (tasks.map change) = Related tasks := by
  funext parent child
  exact propext (rerecords.related parent child)

theorem wellFormed (rerecords : Rerecords tasks change) (wellFormed : WellFormed tasks) :
    WellFormed (tasks.map change) where
  nonempty := by simpa using wellFormed.nonempty
  numbers := by
    rw [rerecords.map_id, List.length_map]
    exact wellFormed.numbers
  costs := by
    intro other otherMember
    obtain ⟨task, member, rfl⟩ := List.mem_map.mp otherMember
    rw [rerecords.cost task member]
    exact wellFormed.costs task member
  references := by
    intro other otherMember id named
    rw [List.length_map]
    rcases List.mem_append.mp named with isParent | isChild
    · have related :=
        (rerecords.related id other.id).mp (Or.inr ⟨other, otherMember, rfl, isParent⟩)
      exact (wellFormed.numbered related).1
    · have related :=
        (rerecords.related other.id id).mp (Or.inl ⟨other, otherMember, rfl, isChild⟩)
      exact (wellFormed.numbered related).2
  acyclic := by
    rw [rerecords.related_eq]
    exact wellFormed.acyclic

theorem childrenOf_root (rerecords : Rerecords tasks change) (wellFormed : WellFormed tasks)
    (built : BuiltFrom tasks graph) (rebuilt : BuiltFrom (tasks.map change) other) :
    other.childrenOf root = graph.childrenOf root := by
  have changed := rerecords.wellFormed wellFormed
  have sameOrphans : (tasks.map change).filter (Task.isOrphan (tasks.map change)) =
      (tasks.filter (Task.isOrphan tasks)).map change := by
    rw [List.filter_map]
    congr 1
    apply List.filter_congr
    intro task member
    rw [Bool.eq_iff_iff, Function.comp_apply, isOrphan_iff wellFormed.admitted.distinct member,
      isOrphan_iff changed.admitted.distinct (List.mem_map_of_mem member),
      rerecords.related_eq, rerecords.id task member]
  rw [built.childrenOf_root wellFormed, rebuilt.childrenOf_root changed, sameOrphans, List.map_map]
  apply List.map_congr_left
  intro task member
  exact rerecords.id task (List.mem_filter.mp member).1

theorem child_iff (rerecords : Rerecords tasks change) (built : BuiltFrom tasks graph)
    (rebuilt : BuiltFrom (tasks.map change) other) :
    other.Child parent child ↔ graph.Child parent child := by
  have named : (∃ task ∈ tasks.map change, task.id = child) ↔ ∃ task ∈ tasks, task.id = child := by
    rw [← List.mem_map, ← List.mem_map, rerecords.map_id]
  rw [rebuilt.child_iff, built.child_iff, rerecords.related_eq, named]

/-- The edges are the same. -/
theorem childrenOf_perm (rerecords : Rerecords tasks change) (wellFormed : WellFormed tasks)
    (built : BuiltFrom tasks graph) (rebuilt : BuiltFrom (tasks.map change) other) :
    (other.childrenOf v).Perm (graph.childrenOf v) := by
  have changed := rerecords.wellFormed wellFormed
  apply (List.perm_ext_iff_of_nodup (rebuilt.nodup_childrenOf changed v)
    (built.nodup_childrenOf wellFormed v)).mpr
  intro child
  exact rerecords.child_iff built rebuilt

/-- A task that names the same children in the same order has the same child
list, wherever its further children record it. -/
theorem childrenOf_task (rerecords : Rerecords tasks change) (wellFormed : WellFormed tasks)
    (built : BuiltFrom tasks graph) (rebuilt : BuiltFrom (tasks.map change) other)
    (member : task ∈ tasks)
    (sameNamed : (change task).childIds.eraseDups = task.childIds.eraseDups) :
    other.childrenOf task.id = graph.childrenOf task.id := by
  have changed := rerecords.wellFormed wellFormed
  have mem_childIds (child : TaskId) : child ∈ (change task).childIds ↔ child ∈ task.childIds := by
    rw [← List.mem_eraseDups, sameNamed, List.mem_eraseDups]
  have childList := rebuilt.childrenOf_task changed (List.mem_map_of_mem member)
  rw [childrenIn_eq changed.admitted.distinct (List.mem_map_of_mem member),
    rerecords.id task member, sameNamed, rerecords.map_id] at childList
  simp only [rerecords.related_eq, mem_childIds] at childList
  rw [built.childrenOf_task wellFormed member, childrenIn_eq wellFormed.admitted.distinct member,
    childList]

theorem sameShape (rerecords : Rerecords tasks change) (wellFormed : WellFormed tasks)
    (built : BuiltFrom tasks graph) (rebuilt : BuiltFrom (tasks.map change) other)
    (sameNamed : ∀ task ∈ tasks, (change task).childIds.eraseDups = task.childIds.eraseDups) :
    Graph.SameShape graph other where
  nodeCount := by rw [rebuilt.nodeCount, built.nodeCount, List.length_map]
  isRemoved := by
    intro v
    rw [rebuilt.isRemoved, built.isRemoved]
  childrenOf := by
    intro v
    rcases built.node_cases wellFormed v with isRoot | ⟨task, member, same⟩ | beyond
    · rw [isRoot, rerecords.childrenOf_root wellFormed built rebuilt]
    · rw [← same, rerecords.childrenOf_task wellFormed built rebuilt member (sameNamed task member)]
    · rw [Graph.childrenOf_of_nodeCount_le beyond, Graph.childrenOf_of_nodeCount_le]
      rw [rebuilt.nodeCount, List.length_map, ← built.nodeCount]
      exact beyond

end Rerecords

/-! ### The built graph -/

/-- The graph is the one that the task list describes: its nodes are the root
and the tasks, the root's children are the tasks without a parent, and a task's
children are those it names, then those that name it. -/
structure Portrays (tasks : List Task) (weight : Float) (graph : Graph) : Prop where
  nodeCount : graph.nodeCount = tasks.length + 1
  isRemoved : ∀ v, graph.isRemoved v = false
  even : graph.Even weight
  childrenOf_root : graph.childrenOf root = (tasks.filter (Task.isOrphan tasks)).map Task.id
  childrenOf_task : ∀ task ∈ tasks, graph.childrenOf task.id = task.childrenIn tasks

theorem portrays_of_buildGraph (accepted : buildGraph tasks weight = .ok graph) :
    Portrays tasks weight graph := by
  obtain ⟨wellFormed, built⟩ := wellFormed_of_buildGraph accepted
  exact {
    nodeCount := built.nodeCount
    isRemoved := built.isRemoved
    even := even_of_buildGraph accepted
    childrenOf_root := built.childrenOf_root wellFormed
    childrenOf_task := fun _ => built.childrenOf_task wellFormed }

/-- Of a list that was accepted a rerecorded one is accepted. -/
theorem Rerecords.buildGraph_ok (rerecords : Rerecords tasks change)
    (accepted : buildGraph tasks weight = .ok graph) :
    ∃ other, buildGraph (tasks.map change) weight = .ok other ∧
      BuiltFrom (tasks.map change) other := by
  obtain ⟨wellFormed, -⟩ := wellFormed_of_buildGraph accepted
  have short := short_of_buildGraph accepted
  rw [← List.length_map change] at short
  exact buildGraph_of_wellFormed (rerecords.wellFormed wellFormed) short weight

/-- The built graph is the one the list describes. No edge is there twice, none
leads to the root, there is no cycle, and all tasks are below the root. Where
relations are recorded elsewhere or more often, the edges stay and so does the
root's child list, and of the other child lists those of the tasks that name the
same children as before; when these are all, the graph is the same. -/
theorem buildGraph_portrays (accepted : buildGraph tasks weight = .ok graph) :
    Portrays tasks weight graph ∧
    (tasks.map Task.id).Perm (List.range' 1 tasks.length) ∧
    (∀ v, (graph.childrenOf v).Nodup) ∧ (∀ v, ¬ graph.Child v root) ∧ (∀ v, ¬ graph.Below v v) ∧
    (∀ task ∈ tasks, graph.Below root task.id) ∧ graph.reachableCount root = tasks.length ∧
    ∀ change, Rerecords tasks change →
      (∃ other, buildGraph (tasks.map change) weight = .ok other ∧
        other.childrenOf root = graph.childrenOf root ∧
        (∀ v, (other.childrenOf v).Perm (graph.childrenOf v)) ∧
        ∀ task ∈ tasks, (change task).childIds.eraseDups = task.childIds.eraseDups →
          other.childrenOf task.id = graph.childrenOf task.id) ∧
      ((∀ task ∈ tasks, (change task).childIds.eraseDups = task.childIds.eraseDups) →
        buildGraph (tasks.map change) weight = .ok graph) := by
  obtain ⟨wellFormed, built⟩ := wellFormed_of_buildGraph accepted
  refine ⟨portrays_of_buildGraph accepted, wellFormed.numbers, built.nodup_childrenOf wellFormed,
    ?_, built.acyclic wellFormed, ?_, built.reachableCount_root wellFormed, ?_⟩
  · intro v edge
    exact absurd (built.positive_of_child wellFormed edge) (by decide)
  · intro task member
    obtain ⟨positive, inRange⟩ := wellFormed.admitted.numbered task member
    exact built.below_root wellFormed task.id positive inRange
  intro change rerecords
  obtain ⟨other, acceptedOther, rebuilt⟩ := rerecords.buildGraph_ok accepted
  constructor
  · refine ⟨other, acceptedOther, rerecords.childrenOf_root wellFormed built rebuilt, ?_, ?_⟩
    · intro v
      exact rerecords.childrenOf_perm wellFormed built rebuilt
    · intro task member sameNamed
      exact rerecords.childrenOf_task wellFormed built rebuilt member sameNamed
  · intro sameNamed
    have same := (even_of_buildGraph accepted).eq_of_sameShape (even_of_buildGraph acceptedOther)
      (rerecords.sameShape wellFormed built rebuilt sameNamed)
    rw [acceptedOther, same]

/-- Two tasks that name the first as their parent. -/
private def namedByChildren : List Task :=
  [{ id := 1 }, { id := 2, parentIds := [1] }, { id := 3, parentIds := [1] }]

/-- The first task names the third as well. -/
private def nameThird (task : Task) : Task :=
  if task.id = 1 then { task with childIds := [3] } else task

private theorem rerecords_nameThird : Rerecords namedByChildren nameThird where
  id := by decide
  cost := by
    intro task _
    rw [nameThird]
    split <;> rfl
  related := by
    intro parent child
    simp [Related, namedByChildren, nameThird]
    lia

theorem buildGraph_portrays_namedByChildren :
    ∃ graph other, buildGraph namedByChildren 1.0 = .ok graph ∧
      graph.childrenOf root = [1] ∧ graph.childrenOf 1 = [2, 3] ∧ graph.reachableCount root = 3 ∧
      Rerecords namedByChildren nameThird ∧
      buildGraph (namedByChildren.map nameThird) 1.0 = .ok other ∧
      other.childrenOf root = [1] ∧ (other.childrenOf 1).Perm [2, 3] := by
  obtain ⟨graph, accepted⟩ : ∃ graph, buildGraph namedByChildren 1.0 = .ok graph := ⟨_, rfl⟩
  obtain ⟨portrays, -, -, -, -, -, reachable, rerecorded⟩ := buildGraph_portrays accepted
  have ofRoot : graph.childrenOf root = [1] := portrays.childrenOf_root
  have ofFirst : graph.childrenOf 1 = [2, 3] :=
    portrays.childrenOf_task { id := 1 } (List.mem_cons_self ..)
  obtain ⟨⟨other, acceptedOther, sameRoot, perm, -⟩, -⟩ := rerecorded nameThird rerecords_nameThird
  refine ⟨graph, other, accepted, ofRoot, ofFirst, reachable, rerecords_nameThird, acceptedOther,
    sameRoot.trans ofRoot, ?_⟩
  rw [← ofFirst]
  exact perm 1

/-- A child that its parent names comes before those that only name the parent. -/
theorem childrenOf_nameThird :
    Rerecords namedByChildren nameThird ∧
      (buildGraph namedByChildren 1.0).map (fun graph => graph.childrenOf 1) = .ok [2, 3] ∧
      (buildGraph (namedByChildren.map nameThird) 1.0).map (fun graph => graph.childrenOf 1) =
        .ok [3, 2] :=
  ⟨rerecords_nameThird, rfl, rfl⟩

end DagScheduling
