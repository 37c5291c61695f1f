/-
Module: DagScheduling.Proofs.Renaming.Tasks
Purpose: A task list with other numbers for its tasks: it is well formed as before, and its graph
  and its cost table are those of the old list under the new names.
Main exports: Task.renamed, Renaming.ofPermutation, map_renamed_ofPermutation,
  WellFormed.renamed, BuiltFrom.childrenOf_renamed, buildGraph_renamed, costTable_renamed
-/
import DagScheduling.Proofs.Planning.ChildLists
import DagScheduling.Proofs.Planning.Totality
import DagScheduling.Proofs.Renaming.Graph

namespace DagScheduling

variable {tasks : List Task} {task : Task} {count : Nat} {rename : Renaming count}
  {parent child v w : TaskId}

/-- The task with its own number and all those it names replaced. -/
def Task.renamed (names : TaskId → TaskId) (task : Task) : Task :=
  { task with
    id := names task.id
    parentIds := task.parentIds.map names
    childIds := task.childIds.map names }

/-! ### Permutations of the task numbers -/

/-- A permutation of `1..=count`, with all other numbers left as they are. -/
def Renaming.ofPermutation (names : TaskId → TaskId)
    (permutes : ((List.range' 1 count).map names).Perm (List.range' 1 count)) :
    Renaming (count + 1) where
  toFun v := if v ∈ List.range' 1 count then names v else v
  injective := by
    have stays (v : TaskId) (member : v ∈ List.range' 1 count) : names v ∈ List.range' 1 count :=
      permutes.subset (List.mem_map_of_mem member)
    have distinct := nodup_of_complete permutes
    intro v w same
    by_cases vTask : v ∈ List.range' 1 count
    · by_cases wTask : w ∈ List.range' 1 count
      · rw [if_pos vTask, if_pos wTask] at same
        exact List.inj_on_of_nodup_map distinct vTask wTask same
      · rw [if_pos vTask, if_neg wTask] at same
        exact absurd (same ▸ stays v vTask) wTask
    · by_cases wTask : w ∈ List.range' 1 count
      · rw [if_neg vTask, if_pos wTask] at same
        exact absurd (same ▸ stays w wTask) vTask
      · rw [if_neg vTask, if_neg wTask] at same
        exact same
  root_eq := by
    have notTask : root ∉ List.range' 1 count := by
      rw [mem_range'_one]
      exact fun bounds => absurd bounds.1 (by decide)
    exact if_neg notTask
  lt_iff := by
    intro v
    by_cases isTask : v ∈ List.range' 1 count
    · have inside := mem_range'_one.mp isTask
      have stays := mem_range'_one.mp (permutes.subset (List.mem_map_of_mem isTask))
      rw [if_pos isTask]
      lia
    · rw [if_neg isTask]

/-- A well-formed list names tasks only. -/
theorem map_renamed_ofPermutation (wellFormed : WellFormed tasks) (names : TaskId → TaskId)
    (permutes : ((List.range' 1 tasks.length).map names).Perm (List.range' 1 tasks.length)) :
    tasks.map (Task.renamed (Renaming.ofPermutation names permutes)) =
      tasks.map (Task.renamed names) := by
  have same (id : TaskId) (bounds : 1 ≤ id ∧ id ≤ tasks.length) :
      Renaming.ofPermutation names permutes id = names id :=
    if_pos (mem_range'_one.mpr bounds)
  apply List.map_congr_left
  intro task member
  rw [Task.renamed, Task.renamed, same task.id (wellFormed.admitted.numbered task member)]
  congr 1
  · apply List.map_congr_left
    intro parent named
    exact same parent (wellFormed.references task member parent (List.mem_append_left _ named))
  · apply List.map_congr_left
    intro child named
    exact same child (wellFormed.references task member child (List.mem_append_right _ named))

/-! ### Relations under new names -/

theorem mem_map_rename {ids : List TaskId} : rename v ∈ ids.map rename ↔ v ∈ ids :=
  List.mem_map_of_injective fun _ _ same => rename.injective _ _ same

theorem contains_map_rename (ids : List TaskId) (v : TaskId) :
    (ids.map rename).contains (rename v) = ids.contains v := by
  rw [Bool.eq_iff_iff, List.contains_iff_mem, List.contains_iff_mem]
  exact mem_map_rename

theorem map_id_renamed (names : TaskId → TaskId) :
    (tasks.map (Task.renamed names)).map Task.id = (tasks.map Task.id).map names := by
  rw [List.map_map, List.map_map]
  rfl

theorem related_renamed_iff : Related (tasks.map (Task.renamed rename)) (rename parent)
    (rename child) ↔ Related tasks parent child := by
  simp only [Related, List.mem_map, exists_exists_and_eq_and, Task.renamed, rename.eq_iff,
    exists_eq_right]

/-- Under new names the relations are the old ones, and no others. -/
theorem exists_of_related_renamed (related : Related (tasks.map (Task.renamed rename)) v w) :
    ∃ parent child, rename parent = v ∧ rename child = w ∧ Related tasks parent child := by
  have named : (∃ parent, rename parent = v) ∧ ∃ child, rename child = w := by
    rcases related with ⟨other, member, same, named⟩ | ⟨other, member, same, named⟩
    · obtain ⟨task, -, rfl⟩ := List.mem_map.mp member
      obtain ⟨child, -, isChild⟩ := List.mem_map.mp named
      exact ⟨⟨task.id, same⟩, child, isChild⟩
    · obtain ⟨task, -, rfl⟩ := List.mem_map.mp member
      obtain ⟨parent, -, isParent⟩ := List.mem_map.mp named
      exact ⟨⟨parent, isParent⟩, task.id, same⟩
  obtain ⟨⟨parent, rfl⟩, child, rfl⟩ := named
  exact ⟨parent, child, rfl, rfl, related_renamed_iff.mp related⟩

theorem exists_of_path_renamed
    (path : Relation.TransGen (Related (tasks.map (Task.renamed rename))) v w) :
    ∃ parent child, rename parent = v ∧ rename child = w ∧
      Relation.TransGen (Related tasks) parent child := by
  induction path with
  | single related =>
      obtain ⟨parent, child, isParent, isChild, old⟩ := exists_of_related_renamed related
      exact ⟨parent, child, isParent, isChild, .single old⟩
  | tail _ related inductionHypothesis =>
      obtain ⟨parent, middle, isParent, isMiddle, path⟩ := inductionHypothesis
      obtain ⟨start, child, isStart, isChild, old⟩ := exists_of_related_renamed related
      cases rename.injective _ _ (isStart.trans isMiddle.symm)
      exact ⟨parent, child, isParent, isChild, path.tail old⟩

theorem Renaming.bounds_iff (rename : Renaming (count + 1)) :
    (1 ≤ rename v ∧ rename v ≤ count) ↔ 1 ≤ v ∧ v ≤ count := by
  have within : rename v ≤ count ↔ v ≤ count := by
    rw [← Nat.lt_succ_iff, ← Nat.lt_succ_iff]
    exact rename.lt_iff v
  have positive : 1 ≤ rename v ↔ 1 ≤ v := by
    rw [Nat.one_le_iff_ne_zero, Nat.one_le_iff_ne_zero]
    exact not_congr rename.eq_root_iff
  rw [within, positive]

theorem WellFormed.renamed (wellFormed : WellFormed tasks) (rename : Renaming (tasks.length + 1)) :
    WellFormed (tasks.map (Task.renamed rename)) where
  nonempty := by simpa using wellFormed.nonempty
  numbers := by
    rw [map_id_renamed, List.length_map]
    apply perm_of_within
    · exact wellFormed.admitted.distinct.map fun _ _ same => rename.injective _ _ same
    · intro name member
      obtain ⟨id, idMember, rfl⟩ := List.mem_map.mp member
      exact rename.bounds_iff.mpr (mem_range'_one.mp (wellFormed.numbers.subset idMember))
    · rw [List.length_map, List.length_map]
  costs := by
    intro other member
    obtain ⟨task, taskMember, rfl⟩ := List.mem_map.mp member
    exact wellFormed.costs task taskMember
  references := by
    intro other member name named
    obtain ⟨task, taskMember, rfl⟩ := List.mem_map.mp member
    rw [List.length_map]
    simp only [Task.renamed, ← List.map_append] at named
    obtain ⟨id, idNamed, rfl⟩ := List.mem_map.mp named
    exact rename.bounds_iff.mpr (wellFormed.references task taskMember id idNamed)
  acyclic := by
    intro name cycle
    obtain ⟨start, final, isStart, isFinal, path⟩ := exists_of_path_renamed cycle
    cases rename.injective _ _ (isStart.trans isFinal.symm)
    exact wellFormed.acyclic start path

/-! ### The graph under new names -/

theorem isOrphan_renamed (tasks : List Task) (task : Task) :
    (task.renamed rename).isOrphan (tasks.map (Task.renamed rename)) = task.isOrphan tasks := by
  simp only [Task.isOrphan, List.all_map, Function.comp_def, Task.renamed, List.isEmpty_map,
    contains_map_rename]

theorem childrenIn_renamed (tasks : List Task) (task : Task) :
    (task.renamed rename).childrenIn (tasks.map (Task.renamed rename)) =
      (task.childrenIn tasks).map rename := by
  have naming : ((tasks.map (Task.renamed rename)).filter fun other =>
        other.parentIds.contains (rename task.id)).map Task.id =
      ((tasks.filter fun other => other.parentIds.contains task.id).map Task.id).map rename := by
    simp only [List.filter_map, Function.comp_def, Task.renamed, contains_map_rename, List.map_map]
  have apart : ∀ first second : TaskId, rename first = rename second → first = second :=
    rename.injective
  rw [Task.childrenIn, Task.childrenIn,
    map_eraseDups rename _ fun first _ second _ => apart first second, List.map_append, ← naming]
  rfl

theorem BuiltFrom.childrenOf_renamed {graph other : Graph} {rename : Renaming (tasks.length + 1)}
    (wellFormed : WellFormed tasks) (built : BuiltFrom tasks graph)
    (rebuilt : BuiltFrom (tasks.map (Task.renamed rename)) other) (v : NodeId) :
    other.childrenOf (rename v) = (graph.childrenOf v).map rename := by
  have wellFormedOther := wellFormed.renamed rename
  rcases built.node_cases wellFormed v with isRoot | ⟨task, member, same⟩ | beyond
  · rw [isRoot, rename.root_eq, rebuilt.childrenOf_root wellFormedOther,
      built.childrenOf_root wellFormed, List.filter_map, List.map_map, List.map_map]
    simp only [Function.comp_def, isOrphan_renamed]
    rfl
  · rw [← same, built.childrenOf_task wellFormed member, ← childrenIn_renamed]
    exact rebuilt.childrenOf_task wellFormedOther (List.mem_map_of_mem member)
  · have beyondOther : other.nodeCount ≤ rename v := by
      rw [built.nodeCount] at beyond
      rw [rebuilt.nodeCount, List.length_map]
      exact Nat.le_of_not_lt (mt (rename.lt_iff v).mp (Nat.not_lt.mpr beyond))
    rw [Graph.childrenOf_of_nodeCount_le beyond, Graph.childrenOf_of_nodeCount_le beyondOther]
    rfl

/-- The renamed list is accepted, and its graph is the old one under the new names. -/
theorem buildGraph_renamed {graph : Graph} {weight : Float}
    (accepted : buildGraph tasks weight = .ok graph) (rename : Renaming (tasks.length + 1)) :
    ∃ other, buildGraph (tasks.map (Task.renamed rename)) weight = .ok other ∧
      Graph.Renamed rename graph other := by
  obtain ⟨wellFormed, built⟩ := wellFormed_of_buildGraph accepted
  have short := short_of_buildGraph accepted
  rw [← List.length_map (Task.renamed rename)] at short
  obtain ⟨other, acceptedOther, rebuilt⟩ :=
    buildGraph_of_wellFormed (wellFormed.renamed rename) short weight
  refine ⟨other, acceptedOther, built.nodeCount, ?_, ?_, ?_⟩
  · rw [rebuilt.nodeCount, List.length_map]
  · intro v
    rw [(even_of_buildGraph acceptedOther).edgesOf_eq, (even_of_buildGraph accepted).edgesOf_eq,
      built.childrenOf_renamed wellFormed rebuilt, List.map_map, List.map_map]
    rfl
  · intro v
    rw [rebuilt.isRemoved, built.isRemoved]

/-! ### Costs under new names -/

theorem costTable_renamed (tasks : List Task) (rename : Renaming (tasks.length + 1)) (v : NodeId) :
    (costTable (tasks.map (Task.renamed rename)))[rename v]? = (costTable tasks)[v]? := by
  have entered (entered : List Task) (costs other : Array Float)
      (sizes : costs.size = tasks.length + 1) (sizesOther : other.size = tasks.length + 1)
      (same : ∀ v, other[rename v]? = costs[v]?) :
      ((entered.map (Task.renamed rename)).foldl
        (fun costs task => costs.setIfInBounds task.id task.cost) other)[rename v]? =
      (entered.foldl (fun costs task => costs.setIfInBounds task.id task.cost) costs)[v]? := by
    induction entered generalizing costs other with
    | nil => exact same v
    | cons task rest inductionHypothesis =>
        rw [List.map_cons, List.foldl_cons, List.foldl_cons]
        apply inductionHypothesis
        · rw [Array.size_setIfInBounds, sizes]
        · rw [Array.size_setIfInBounds, sizesOther]
        · intro w
          simp only [Array.getElem?_setIfInBounds, Task.renamed, rename.eq_iff, sizes, sizesOther,
            rename.lt_iff, same]
  rw [costTable, costTable, List.length_map]
  apply entered tasks _ _ Array.size_replicate Array.size_replicate
  intro w
  simp only [Array.getElem?_replicate, rename.lt_iff]

end DagScheduling
