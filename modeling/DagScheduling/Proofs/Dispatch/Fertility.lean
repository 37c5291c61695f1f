/-
Module: DagScheduling.Proofs.Dispatch.Fertility
Purpose: Tasks are released by the number of children they record themselves. By the children
  they have in the built graph they are released exactly as far as the two numbers rank them
  alike, which they do where each task names all its children, and each of them once.
Main exports: ReleasedBy, releasedBy_fertileFirst_iff, Task.NamesAll, releasedBy_fanOut_iff
-/
import DagScheduling.Dispatch.Readiness
import DagScheduling.Proofs.Planning.ChildLists
import DagScheduling.Proofs.Planning.Verdict
import DagScheduling.Proofs.StableSort

namespace DagScheduling

variable {tasks : List Task} {task first second : Task} {order : List TaskId}
  {key : TaskId → Nat} {graph : Graph} {weight : Float}

/-- The order lists all tasks, those with the greatest keys first, and those
with the same key as they stand in the task list. -/
structure ReleasedBy (key : TaskId → Nat) (tasks : List Task) (order : List TaskId) : Prop where
  perm : order.Perm (tasks.map Task.id)
  descending : order.Pairwise fun first second => key second ≤ key first
  stable : (tasks.map Task.id).Pairwise fun first second =>
    key first = key second → [first, second].Sublist order

/-! ### Pairs of tasks -/

theorem preorders_recorded : Preorders fun first second : Task =>
    decide (second.childIds.length ≤ first.childIds.length) where
  trans := by
    intro a b c ahead behind
    rw [decide_eq_true_eq] at *
    exact Nat.le_trans behind ahead
  total := by
    intro a b
    rw [Bool.or_eq_true, decide_eq_true_eq, decide_eq_true_eq]
    exact Nat.le_total _ _

theorem fertileFirst_perm (tasks : List Task) :
    (fertileFirst tasks).Perm (tasks.map Task.id) :=
  (List.mergeSort_perm tasks _).map Task.id

theorem sublist_fertileFirst_of_le (ahead : [first, second].Sublist tasks)
    (level : second.childIds.length ≤ first.childIds.length) :
    [first.id, second.id].Sublist (fertileFirst tasks) :=
  ((pair_sublist_mergeSort_iff preorders_recorded ahead).mpr (by simpa using level)).map Task.id

theorem swapped_sublist_fertileFirst_of_lt (distinct : tasks.Nodup)
    (ahead : [first, second].Sublist tasks)
    (fewer : first.childIds.length < second.childIds.length) :
    [second.id, first.id].Sublist (fertileFirst tasks) :=
  ((swapped_sublist_mergeSort_iff preorders_recorded distinct ahead).mpr
    (by simpa using fewer)).map Task.id

/-! ### Release by a key -/

/-- Tasks ranked alike by key and by the children they record are released by key. -/
theorem releasedBy_of_alike (distinct : tasks.Nodup)
    (alike : tasks.Pairwise fun first second =>
      first.childIds.length < second.childIds.length ↔ key first.id < key second.id) :
    ReleasedBy key tasks (fertileFirst tasks) where
  perm := fertileFirst_perm tasks
  descending := by
    rw [fertileFirst, List.pairwise_map, List.pairwise_iff_forall_sublist]
    intro one two sorted
    have perm := List.mergeSort_perm tasks fun first second : Task =>
      decide (second.childIds.length ≤ first.childIds.length)
    have different := ne_of_pair_sublist (perm.nodup_iff.mpr distinct) sorted
    obtain ⟨oneMember, twoMember⟩ := mem_of_pair_sublist sorted
    -- What comes first was ahead in the list and is not beaten, or was behind and beats.
    rcases pair_sublist_or_swapped (perm.mem_iff.mp oneMember) (perm.mem_iff.mp twoMember)
      different with ahead | behind
    · have level := (pair_sublist_mergeSort_iff preorders_recorded ahead).mp sorted
      have ranked := List.pairwise_iff_forall_sublist.mp alike ahead
      exact Nat.le_of_not_lt (mt ranked.mpr (Nat.not_lt.mpr (of_decide_eq_true level)))
    · have beaten := (swapped_sublist_mergeSort_iff preorders_recorded distinct behind).mp sorted
      have ranked := List.pairwise_iff_forall_sublist.mp alike behind
      exact Nat.le_of_lt (ranked.mp (Nat.lt_of_not_le (of_decide_eq_false beaten)))
  stable := by
    rw [List.pairwise_map, List.pairwise_iff_forall_sublist]
    intro one two ahead sameKey
    have ranked := List.pairwise_iff_forall_sublist.mp alike ahead
    have notFewer := mt ranked.mp (Nat.not_lt.mpr (Nat.le_of_eq sameKey.symm))
    exact sublist_fertileFirst_of_le ahead (Nat.le_of_not_lt notFewer)

/-- Two tasks released by key are ranked alike by key and by the children they record. -/
theorem ReleasedBy.alike (released : ReleasedBy key tasks (fertileFirst tasks))
    (distinct : (tasks.map Task.id).Nodup) (ahead : [first, second].Sublist tasks) :
    first.childIds.length < second.childIds.length ↔ key first.id < key second.id := by
  have keyFalls {one two : TaskId} (sorted : [one, two].Sublist (fertileFirst tasks)) :
      key two ≤ key one :=
    List.pairwise_iff_forall_sublist.mp released.descending sorted
  constructor
  · intro fewer
    have swapped := swapped_sublist_fertileFirst_of_lt distinct.of_map ahead fewer
    apply Nat.lt_of_le_of_ne (keyFalls swapped)
    intro sameKey
    have stays := List.pairwise_iff_forall_sublist.mp released.stable (ahead.map Task.id) sameKey
    exact not_pair_sublist_swapped ((fertileFirst_perm tasks).nodup_iff.mpr distinct) stays swapped
  · intro lower
    apply Nat.lt_of_not_le
    intro level
    exact Nat.not_le.mpr lower (keyFalls (sublist_fertileFirst_of_le ahead level))

theorem releasedBy_fertileFirst_iff (distinct : (tasks.map Task.id).Nodup) :
    ReleasedBy key tasks (fertileFirst tasks) ↔
      tasks.Pairwise fun first second =>
        (first.childIds.length < second.childIds.length ↔ key first.id < key second.id) := by
  constructor
  · intro released
    rw [List.pairwise_iff_forall_sublist]
    intro one two ahead
    exact released.alike distinct ahead
  · exact releasedBy_of_alike distinct.of_map

/-! ### Release by fan-out -/

theorem BuiltFrom.fanOut_task (built : BuiltFrom tasks graph) (wellFormed : WellFormed tasks)
    (member : task ∈ tasks) : graph.fanOut task.id = (task.childrenIn tasks).length := by
  rw [Graph.fanOut_eq_length, built.childrenOf_task wellFormed member]

/-- The task names all its children, and each of them once. -/
def Task.NamesAll (tasks : List Task) (task : Task) : Prop :=
  task.childIds.Nodup ∧ ∀ other ∈ tasks, task.id ∈ other.parentIds → other.id ∈ task.childIds

theorem Task.NamesAll.childrenIn_eq (namesAll : task.NamesAll tasks) :
    task.childrenIn tasks = task.childIds := by
  have noFurther : ((tasks.filter fun other => other.parentIds.contains task.id).map
      Task.id).removeAll task.childIds = [] := by
    rw [List.removeAll, List.filter_eq_nil_iff]
    intro child member
    obtain ⟨other, otherMember, rfl⟩ := List.mem_map.mp member
    obtain ⟨inList, named⟩ := List.mem_filter.mp otherMember
    simpa using namesAll.2 other inList (List.contains_iff_mem.mp named)
  rw [Task.childrenIn, List.eraseDups_append, noFurther, List.eraseDups_nil, List.append_nil,
    eraseDups_of_nodup namesAll.1]

/-- In the built graph a task's children are those that either side records, each once. The tasks
are released by their number exactly if, of any two tasks, the one behind records more children
than the one ahead just when it has more. That is so where every task names all its children, and
each of them once. -/
theorem releasedBy_fanOut_iff (accepted : buildGraph tasks weight = .ok graph) :
    (∀ task ∈ tasks, graph.fanOut task.id = (task.childrenIn tasks).length) ∧
      (fertileFirst tasks).Perm (tasks.map Task.id) ∧
      (ReleasedBy graph.fanOut tasks (fertileFirst tasks) ↔
        tasks.Pairwise fun first second => (first.childIds.length < second.childIds.length ↔
          graph.fanOut first.id < graph.fanOut second.id)) ∧
      ((∀ task ∈ tasks, task.NamesAll tasks) →
        ReleasedBy graph.fanOut tasks (fertileFirst tasks)) := by
  obtain ⟨wellFormed, built⟩ := wellFormed_of_buildGraph accepted
  have distinct := wellFormed.admitted.distinct
  refine ⟨fun _ => built.fanOut_task wellFormed, fertileFirst_perm tasks,
    releasedBy_fertileFirst_iff distinct, ?_⟩
  intro namesAll
  have counted : ∀ task ∈ tasks, graph.fanOut task.id = task.childIds.length := by
    intro task member
    rw [built.fanOut_task wellFormed member, (namesAll task member).childrenIn_eq]
  rw [releasedBy_fertileFirst_iff distinct, List.pairwise_iff_forall_sublist]
  intro first second ahead
  obtain ⟨firstMember, secondMember⟩ := mem_of_pair_sublist ahead
  rw [counted first firstMember, counted second secondMember]

/-- A task between its two parents, of which the second names one more child
that names it in turn. -/
private def namedByParents : List Task :=
  [{ id := 1, childIds := [2] }, { id := 2, parentIds := [3] },
    { id := 3, childIds := [4, 2] }, { id := 4, parentIds := [3, 3] }]

theorem releasedBy_fanOut_iff_namedByParents :
    ∃ graph, buildGraph namedByParents 1.0 = .ok graph ∧
      (∀ task ∈ namedByParents, task.NamesAll namedByParents) ∧
      (graph.fanOut 3 = 2 ∧ graph.fanOut 1 = 1) ∧
      ReleasedBy graph.fanOut namedByParents (fertileFirst namedByParents) := by
  obtain ⟨graph, accepted⟩ : ∃ graph, buildGraph namedByParents 1.0 = .ok graph := ⟨_, rfl⟩
  obtain ⟨fanOut, -, -, released⟩ := releasedBy_fanOut_iff accepted
  have namesAll : ∀ task ∈ namedByParents, task.NamesAll namedByParents := by
    simp [namedByParents, Task.NamesAll]
  have third := fanOut { id := 3, childIds := [4, 2] } (by simp [namedByParents])
  have first := fanOut { id := 1, childIds := [2] } (by simp [namedByParents])
  exact ⟨graph, accepted, namesAll, ⟨third, first⟩, released namesAll⟩

/-- Three tasks, the second of which only its child names. -/
private def namedByChild : List Task := [{ id := 1 }, { id := 2 }, { id := 3, parentIds := [2] }]

/-- A task that only its child names as a parent is released as one without children. -/
theorem not_releasedBy_fanOut :
    ∃ graph, buildGraph namedByChild 1.0 = .ok graph ∧
      fertileFirst namedByChild = [1, 2, 3] ∧ graph.fanOut 1 = 0 ∧ graph.fanOut 2 = 1 ∧
      ¬ ReleasedBy graph.fanOut namedByChild (fertileFirst namedByChild) := by
  obtain ⟨graph, accepted⟩ : ∃ graph, buildGraph namedByChild 1.0 = .ok graph := ⟨_, rfl⟩
  obtain ⟨wellFormed, built⟩ := wellFormed_of_buildGraph accepted
  have firstMember : { id := 1 } ∈ namedByChild := by simp [namedByChild]
  have secondMember : { id := 2 } ∈ namedByChild := by simp [namedByChild]
  have first : graph.fanOut 1 = 0 := built.fanOut_task wellFormed firstMember
  have second : graph.fanOut 2 = 1 := built.fanOut_task wellFormed secondMember
  have order : fertileFirst namedByChild = [1, 2, 3] := by
    simp [fertileFirst, namedByChild, List.mergeSort_of_pairwise]
  refine ⟨graph, accepted, order, first, second, ?_⟩
  intro released
  have descending := released.descending
  rw [order] at descending
  have falls := List.rel_of_pairwise_cons descending (List.mem_cons_self : 2 ∈ [2, 3])
  rw [first, second] at falls
  exact absurd falls (by decide)

end DagScheduling
