/-
Module: DagScheduling.Proofs.Dispatch.Readiness
Purpose: A task is ready once its parents are completed, on whichever side a relation is
  recorded. Without a cycle some task is ready until all are completed, and the ready tasks are
  those that the edges of the built graph leave open.
Main exports: mem_parentsOf, mem_readyTasks, WellFormed.exists_ready, mem_readyTasks_of_subset,
  readyTasks_agree
-/
import DagScheduling.Dispatch.Readiness
import DagScheduling.Proofs.Planning.ChildLists
import DagScheduling.Proofs.Planning.Verdict

namespace DagScheduling

variable {tasks : List Task} {completed later : List TaskId} {id parent child : TaskId}
  {graph : Graph} {weight : Float}

theorem mem_parentsOf : parent ∈ parentsOf tasks child ↔ Related tasks parent child := by
  simp only [parentsOf, List.mem_flatMap, List.mem_append, List.mem_ite_nil_right,
    List.contains_iff_mem, List.mem_singleton, beq_iff_eq, Related]
  constructor
  · intro found
    obtain ⟨other, member, ⟨named, same⟩ | ⟨same, named⟩⟩ := found
    · exact Or.inl ⟨other, member, same.symm, named⟩
    · exact Or.inr ⟨other, member, same, named⟩
  · intro related
    obtain ⟨other, member, same, named⟩ | ⟨other, member, same, named⟩ := related
    · exact ⟨other, member, Or.inl ⟨named, same.symm⟩⟩
    · exact ⟨other, member, Or.inr ⟨same, named⟩⟩

theorem isReady_iff {task : Task} :
    isReady tasks completed task = true ↔
      task.id ∉ completed ∧ ∀ parent, Related tasks parent task.id → parent ∈ completed := by
  simp [isReady, mem_parentsOf]

theorem mem_readyTasks :
    id ∈ readyTasks tasks completed ↔
      id ∈ tasks.map Task.id ∧ id ∉ completed ∧
        ∀ parent, Related tasks parent id → parent ∈ completed := by
  simp only [readyTasks, List.mem_map, List.mem_filter, isReady_iff]
  constructor
  · intro ready
    obtain ⟨task, ⟨member, mayStart⟩, same⟩ := ready
    rw [same] at mayStart
    exact ⟨⟨task, member, same⟩, mayStart⟩
  · intro ready
    obtain ⟨⟨task, member, same⟩, mayStart⟩ := ready
    rw [← same] at mayStart
    exact ⟨task, ⟨member, mayStart⟩, same⟩

/-- A task that is not completed is ready, or some task above it is. -/
theorem WellFormed.exists_ready (wellFormed : WellFormed tasks) (id : TaskId)
    (isTask : id ∈ tasks.map Task.id) (left : id ∉ completed) :
    ∃ ready, ready ∈ readyTasks tasks completed := by
  induction id using wellFormed.acyclic_relations.induction with
  | step child inductionHypothesis =>
      rw [relates_relations] at inductionHypothesis
      -- A blocked task leads on to a parent that is not completed, and so to a ready one.
      by_cases blocked : ∃ parent, Related tasks parent child ∧ parent ∉ completed
      · obtain ⟨parent, related, parentLeft⟩ := blocked
        obtain ⟨⟨positive, inRange⟩, -⟩ := wellFormed.numbered related
        have parentIsTask := List.mem_map.mpr (wellFormed.exists_task positive inRange)
        exact inductionHypothesis parent related parentIsTask parentLeft
      · have parentsDone : ∀ parent, Related tasks parent child → parent ∈ completed := by
          simpa using blocked
        exact ⟨child, mem_readyTasks.mpr ⟨isTask, left, parentsDone⟩⟩

/-- Completing further tasks blocks none. -/
theorem mem_readyTasks_of_subset (ready : id ∈ readyTasks tasks completed)
    (subset : completed ⊆ later) (left : id ∉ later) : id ∈ readyTasks tasks later := by
  obtain ⟨isTask, -, parentsDone⟩ := mem_readyTasks.mp ready
  refine mem_readyTasks.mpr ⟨isTask, left, ?_⟩
  intro parent related
  exact subset (parentsDone parent related)

/-! ### Readiness in the built graph -/

theorem readyTasks_sublist : (readyTasks tasks completed).Sublist (tasks.map Task.id) :=
  List.filter_sublist.map Task.id

/-- The relations are the edges that do not come from the root. -/
theorem BuiltFrom.related_iff (built : BuiltFrom tasks graph) (wellFormed : WellFormed tasks) :
    Related tasks parent child ↔ parent ≠ root ∧ graph.Child parent child := by
  rw [built.child_iff]
  constructor
  · intro related
    have positive := (wellFormed.numbered related).1.1
    exact ⟨Nat.ne_of_gt positive, Or.inr related⟩
  · intro edge
    rcases edge with ⟨noRoot, ⟨isRoot, -⟩ | related⟩
    · exact absurd isRoot noRoot
    · exact related

/-- Before anything is completed the tasks without a parent are ready. -/
theorem readyTasks_nil (wellFormed : WellFormed tasks) :
    readyTasks tasks [] = (tasks.filter (Task.isOrphan tasks)).map Task.id := by
  rw [readyTasks]
  congr 1
  apply List.filter_congr
  intro task member
  rw [Bool.eq_iff_iff, isReady_iff, isOrphan_iff wellFormed.admitted.distinct member]
  simp only [List.not_mem_nil, not_false_eq_true, true_and, imp_false]

/-- The ready tasks are, in list order and each once, those that are not
completed while all tasks with an edge to them are. Before anything is completed
they are the root's children, in the order of its edges, and a ready task stays
so until it is completed itself. -/
theorem readyTasks_agree (accepted : buildGraph tasks weight = .ok graph)
    (completed : List TaskId) :
    (readyTasks tasks completed).Sublist (tasks.map Task.id) ∧ (readyTasks tasks completed).Nodup ∧
    (∀ id, id ∈ readyTasks tasks completed ↔ id ∈ tasks.map Task.id ∧ id ∉ completed ∧
      ∀ parent, parent ≠ root → graph.Child parent id → parent ∈ completed) ∧
    readyTasks tasks [] = graph.childrenOf root ∧
    ∀ later, completed ⊆ later → ∀ id ∈ readyTasks tasks completed, id ∉ later →
      id ∈ readyTasks tasks later := by
  obtain ⟨wellFormed, built⟩ := wellFormed_of_buildGraph accepted
  refine ⟨readyTasks_sublist, wellFormed.admitted.distinct.sublist readyTasks_sublist, ?_, ?_, ?_⟩
  · intro id
    rw [mem_readyTasks]
    simp only [built.related_iff wellFormed, and_imp]
  · rw [readyTasks_nil wellFormed, built.childrenOf_root wellFormed]
  · intro later subset id ready left
    exact mem_readyTasks_of_subset ready subset left

/-- A task before two others, one relation recorded by both sides, one by the
child alone, and a fourth task after both of these. -/
private def mixedRecords : List Task :=
  [{ id := 4, parentIds := [3, 2, 3] }, { id := 1, childIds := [3] },
    { id := 2, parentIds := [1] }, { id := 3, parentIds := [1], childIds := [4] }]

theorem readyTasks_agree_mixedRecords :
    ∃ graph, buildGraph mixedRecords 1.0 = .ok graph ∧
      readyTasks mixedRecords [] = graph.childrenOf root ∧
      (∀ parent, parent ≠ root → graph.Child parent 2 → parent ∈ [1]) ∧
      2 ∈ readyTasks mixedRecords [1] ∧ 2 ∈ readyTasks mixedRecords [3, 1] := by
  obtain ⟨graph, accepted⟩ : ∃ graph, buildGraph mixedRecords 1.0 = .ok graph := ⟨_, rfl⟩
  obtain ⟨-, -, mem_ready, atStart, stays⟩ := readyTasks_agree accepted [1]
  have ready : 2 ∈ readyTasks mixedRecords [1] := by decide
  have further := stays [3, 1] (List.subset_cons_self 3 [1]) 2 ready (by decide)
  exact ⟨graph, accepted, atStart, ((mem_ready 2).mp ready).2.2, ready, further⟩

end DagScheduling
