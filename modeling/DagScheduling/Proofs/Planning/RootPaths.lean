/-
Module: DagScheduling.Proofs.Planning.RootPaths
Purpose: Priorities fall along some path from the root to each task. They need not fall along
  every path: a task may be met before some of its parents.
Main exports: Priorities.Above, Graph.PathFromRoot, GoesBy, GoesBy.exists_falling_path,
  GoesBy.exists_parent_above, GoesBy.above_of_unavoidable, GoesBy.eq_of_chained, priorities_fall
-/
import DagScheduling.Proofs.Planning.Totality

namespace DagScheduling

variable {σ : Type} [SeedableSource σ] {tasks : List Task} {graph : Graph} {priorities : Priorities}
  {order chain : List TaskId} {parent child task : TaskId} {entropy : σ} {config : PlanningConfig}

/-- The first task has the strictly higher priority. -/
def Priorities.Above (priorities : Priorities) (first second : TaskId) : Prop :=
  ∃ higher lower, priorities.get? first = some higher ∧ priorities.get? second = some lower ∧
    lower < higher

/-- Edges lead from the root along `path`, which ends with `v`. -/
structure Graph.PathFromRoot (graph : Graph) (path : List NodeId) (v : NodeId) : Prop where
  edges : List.IsChain graph.Child (root :: path)
  ends : path.getLast? = some v

/-- The priorities of a well-formed list are those of an order of its tasks
that grows from the root of its graph. -/
structure GoesBy (tasks : List Task) (graph : Graph) (order : List TaskId)
    (priorities : Priorities) : Prop where
  wellFormed : WellFormed tasks
  built : BuiltFrom tasks graph
  complete : order.Perm (List.range' 1 tasks.length)
  grown : Grown graph order
  priorities_eq : priorities = .ofOrder order

theorem goesBy_of_rankTasks (planned : (rankTasks entropy config tasks).value = .ok priorities) :
    ∃ graph order, buildGraph tasks 1.0 = .ok graph ∧ GoesBy tasks graph order priorities := by
  cases checked : config.validate with
  | error cause => exact nomatch (rankTasks_invalid entropy tasks checked).symm.trans planned
  | ok =>
      cases accepted : buildGraph tasks 1.0 with
      | error cause => exact nomatch (rankTasks_refused entropy checked accepted).symm.trans planned
      | ok graph =>
          obtain ⟨order, ended, complete, grown⟩ := rankTasks_ok entropy checked accepted
          obtain ⟨wellFormed, built⟩ := wellFormed_of_buildGraph accepted
          cases ended.symm.trans planned
          exact ⟨graph, order, rfl, wellFormed, built, complete, grown, rfl⟩

namespace GoesBy

theorem mem_order (goes : GoesBy tasks graph order priorities) :
    task ∈ order ↔ 1 ≤ task ∧ task ≤ tasks.length := by
  rw [goes.complete.mem_iff, mem_range'_one]

theorem length_eq (goes : GoesBy tasks graph order priorities) :
    order.length = tasks.length :=
  length_of_complete goes.complete

theorem nodup (goes : GoesBy tasks graph order priorities) : order.Nodup :=
  nodup_of_complete goes.complete

theorem ranked_eq (goes : GoesBy tasks graph order priorities) : priorities.ranked = order := by
  have complete := goes.complete
  rw [← goes.length_eq] at complete
  rw [goes.priorities_eq]
  exact Priorities.ranked_ofOrder complete

/-- Along the order the priorities fall. -/
theorem pairwise_above (goes : GoesBy tasks graph order priorities) :
    order.Pairwise priorities.Above := by
  have get? (task : TaskId) (member : task ∈ order) :
      priorities.get? task = some (priorityIn order task) := by
    obtain ⟨positive, inRange⟩ := goes.mem_order.mp member
    rw [goes.priorities_eq]
    exact Priorities.get?_ofOrder positive (goes.length_eq.symm ▸ inRange)
  apply (pairwise_priorityIn goes.nodup).imp_of_mem
  intro first second firstMember secondMember less
  exact ⟨_, _, get? first firstMember, get? second secondMember, less⟩

/-- Every task ends a path from the root along which the priorities fall. -/
theorem exists_falling_path (goes : GoesBy tasks graph order priorities) (member : task ∈ order) :
    ∃ path, graph.PathFromRoot path task ∧ path.Pairwise priorities.Above := by
  obtain ⟨path, edges, ends, within⟩ := goes.grown.exists_path member
  exact ⟨path, ⟨edges, ends⟩, goes.pairwise_above.sublist within⟩

/-- A task that is the child of the root has no parents. -/
theorem orphan_of_child (goes : GoesBy tasks graph order priorities)
    (edge : graph.Child root child) : ∀ parent, ¬ Related tasks parent child := by
  rcases goes.built.child_iff.mp edge with ⟨-, -, orphan⟩ | related
  · exact orphan
  · have positive := (goes.wellFormed.numbered related).1.1
    exact absurd positive (by decide)

theorem exists_parent_above (goes : GoesBy tasks graph order priorities)
    (related : Related tasks parent child) :
    ∃ other, Related tasks other child ∧ priorities.Above other child := by
  have member : child ∈ order := goes.mem_order.mpr (goes.wellFormed.numbered related).2
  obtain ⟨before, after, other, split, known, edge⟩ := goes.grown.exists_parent member
  rcases known with isRoot | earlier
  · subst isRoot
    exact absurd related (goes.orphan_of_child edge parent)
  · have falls := goes.pairwise_above
    rw [split] at falls
    refine ⟨other, ?_, (List.pairwise_append.mp falls).2.2 other earlier child List.mem_cons_self⟩
    rcases goes.built.child_iff.mp edge with ⟨-, -, orphan⟩ | relatedOther
    · exact absurd related (orphan parent)
    · exact relatedOther

/-- A task that cannot be avoided on the way to another has the higher priority. -/
theorem above_of_unavoidable (goes : GoesBy tasks graph order priorities) (member : task ∈ order)
    {other : TaskId} (different : other ≠ task)
    (unavoidable : ∀ path, graph.PathFromRoot path task → other ∈ path) :
    priorities.Above other task := by
  obtain ⟨path, fromRoot, falls⟩ := goes.exists_falling_path member
  have onPath := unavoidable path fromRoot
  obtain ⟨front, rfl⟩ := List.getLast?_eq_some_iff.mp fromRoot.ends
  have before : other ∈ front := by simpa [different] using onPath
  exact (List.pairwise_append.mp falls).2.2 other before task (List.mem_singleton_self task)

theorem above_of_only_parent (goes : GoesBy tasks graph order priorities)
    (related : Related tasks parent child)
    (only : ∀ other, Related tasks other child → other = parent) :
    priorities.Above parent child := by
  obtain ⟨other, relatedOther, above⟩ := goes.exists_parent_above related
  rw [only other relatedOther] at above
  exact above

end GoesBy

/-! ### Chains -/

/-- The tasks are those of `chain`, and each is related to the next one only. -/
structure Chained (tasks : List Task) (chain : List TaskId) : Prop where
  complete : chain.Perm (tasks.map Task.id)
  related_iff : ∀ parent child, Related tasks parent child ↔
    ∃ i, chain[i]? = some parent ∧ chain[i + 1]? = some child

theorem Priorities.Above.trans {first second third : TaskId} (one : priorities.Above first second)
    (two : priorities.Above second third) : priorities.Above first third := by
  obtain ⟨high, middle, isHigh, isMiddle, less⟩ := one
  obtain ⟨sameMiddle, low, isSame, isLow, lower⟩ := two
  cases isMiddle.symm.trans isSame
  exact ⟨high, low, isHigh, isLow, Nat.lt_trans lower less⟩

instance : Trans priorities.Above priorities.Above priorities.Above :=
  ⟨Priorities.Above.trans⟩

theorem Priorities.Above.irrefl : ¬ priorities.Above task task := by
  rintro ⟨high, low, isHigh, isLow, less⟩
  cases isHigh.symm.trans isLow
  exact Nat.lt_irrefl _ less

/-- On a chain there is only one order in which every task comes after a parent. -/
theorem GoesBy.eq_of_chained (goes : GoesBy tasks graph order priorities)
    (chained : Chained tasks chain) : order = chain := by
  have same : order.Perm chain :=
    goes.complete.trans (goes.wellFormed.numbers.symm.trans chained.complete.symm)
  have distinct : chain.Nodup := same.nodup_iff.mp goes.nodup
  have falls : List.IsChain priorities.Above chain := by
    apply List.isChain_iff_getElem.mpr
    intro i inRange
    have related : Related tasks chain[i] chain[i + 1] := by
      apply (chained.related_iff _ _).mpr
      exact ⟨i, List.getElem?_eq_getElem _, List.getElem?_eq_getElem _⟩
    apply goes.above_of_only_parent related
    intro other relatedOther
    obtain ⟨j, isOther, isNext⟩ := (chained.related_iff _ _).mp relatedOther
    have place : i + 1 = j + 1 := by
      apply (List.getElem?_inj inRange distinct).mp
      rw [isNext, List.getElem?_eq_getElem]
    cases place
    rw [List.getElem?_eq_getElem, Option.some_inj] at isOther
    exact isOther.symm
  apply List.Perm.eq_of_pairwise _ goes.pairwise_above falls.pairwise same
  intro first second _ _ above below
  exact absurd (above.trans below) Priorities.Above.irrefl

/-- Each task ends a path from a task without parents along which the
priorities fall. So one of its parents has a higher priority, and so has every
task that cannot be avoided on the way to it; a chain leaves no choice at all. -/
theorem priorities_fall (planned : (rankTasks entropy config tasks).value = .ok priorities) :
    ∃ graph, buildGraph tasks 1.0 = .ok graph ∧
      (∀ task ∈ tasks, ∃ first rest, graph.PathFromRoot (first :: rest) task.id ∧
        (∀ parent, ¬ Related tasks parent first) ∧ (first :: rest).Pairwise priorities.Above) ∧
      (∀ parent child, Related tasks parent child →
        ∃ other, Related tasks other child ∧ priorities.Above other child) ∧
      (∀ task ∈ tasks, ∀ other, other ≠ task.id →
        (∀ path, graph.PathFromRoot path task.id → other ∈ path) →
        priorities.Above other task.id) ∧
      (∀ parent child, Related tasks parent child →
        (∀ other, Related tasks other child → other = parent) →
        priorities.Above parent child) ∧
      ∀ chain, Chained tasks chain → priorities.ranked = chain ∧
        ∀ (τ : Type) [SeedableSource τ] (otherEntropy : τ) otherConfig others,
          (rankTasks otherEntropy otherConfig tasks).value = .ok others → others = priorities := by
  obtain ⟨graph, order, accepted, goes⟩ := goesBy_of_rankTasks planned
  have met {task : Task} (member : task ∈ tasks) : task.id ∈ order :=
    goes.mem_order.mpr (goes.wellFormed.admitted.numbered task member)
  refine ⟨graph, accepted, ?_, fun _ _ => goes.exists_parent_above,
    fun _ member _ => goes.above_of_unavoidable (met member),
    fun _ _ => goes.above_of_only_parent, ?_⟩
  · intro task member
    obtain ⟨path, fromRoot, falls⟩ := goes.exists_falling_path (met member)
    cases path with
    | nil => exact nomatch fromRoot.ends
    | cons first rest =>
        have edge : graph.Child root first := (List.isChain_cons_cons.mp fromRoot.edges).1
        exact ⟨first, rest, fromRoot, goes.orphan_of_child edge, falls⟩
  · intro chain chained
    have ofChain := goes.eq_of_chained chained
    constructor
    · rw [goes.ranked_eq, ofChain]
    · intro τ _ otherEntropy otherConfig others plannedOther
      obtain ⟨_, _, _, goesOther⟩ := goesBy_of_rankTasks plannedOther
      rw [goesOther.priorities_eq, goesOther.eq_of_chained chained, goes.priorities_eq, ofChain]

/-- A task and its only child. -/
private def parentAndChild : List Task :=
  [{ id := 1, childIds := [2] }, { id := 2 }]

theorem priorities_fall_parentAndChild :
    ∃ priorities, (rankTasks (Xoshiro.ofSeed 0) {} parentAndChild).value = .ok priorities ∧
      priorities.Above 1 2 ∧ priorities.ranked = [1, 2] ∧
      (rankTasks (Xoshiro.ofSeed 0) .usingWidestPath parentAndChild).value = .ok priorities := by
  have only (parent child : TaskId) :
      Related parentAndChild parent child ↔ parent = 1 ∧ child = 2 := by
    simp [Related, parentAndChild, eq_comm]
  have chained : Chained parentAndChild [1, 2] := by
    refine ⟨.refl _, ?_⟩
    intro parent child
    rw [only]
    constructor
    · rintro ⟨rfl, rfl⟩
      exact ⟨0, rfl, rfl⟩
    · rintro ⟨_ | i, first, second⟩
      · cases first
        cases second
        exact ⟨rfl, rfl⟩
      · simp at second
  obtain ⟨graph, accepted⟩ : ∃ graph, buildGraph parentAndChild 1.0 = .ok graph := ⟨_, rfl⟩
  have valid : PlanningConfig.validate {} = .ok () := rfl
  obtain ⟨order, planned, -⟩ := rankTasks_ok (Xoshiro.ofSeed 0) valid accepted
  have validOther : PlanningConfig.usingWidestPath.validate = .ok () := rfl
  obtain ⟨orderOther, plannedOther, -⟩ := rankTasks_ok (Xoshiro.ofSeed 0) validOther accepted
  obtain ⟨_, _, -, -, -, ofOnlyParent, ofChain⟩ := priorities_fall planned
  obtain ⟨ranked, agree⟩ := ofChain _ chained
  refine ⟨_, planned, ofOnlyParent 1 2 ((only 1 2).mpr ⟨rfl, rfl⟩) ?_, ranked, ?_⟩
  · intro other relatedOther
    exact ((only other 2).mp relatedOther).1
  · rw [plannedOther, agree _ _ _ _ plannedOther]

/-- The second parent of a task may rank below it: 4 comes before 3. -/
example :
    (rankTasks (Xoshiro.ofSeed 0) .usingWidestPath
      [{ id := 1, childIds := [2, 3] }, { id := 2, childIds := [4] }, { id := 3, childIds := [4] },
        { id := 4 }]).value.toOption.map Priorities.values = some #[4, 3, 1, 2] := by
  decide +kernel

end DagScheduling
