/-
Module: DagScheduling.Proofs.Planning.Sweep
Purpose: A sweep over relations visits every node exactly if they have no cycle, and on the way
  no counter is missing or runs below zero.
Main exports: Sweep.Steady, Sweep.free_steady, Sweep.visit_steady, Sweep.finish_steady,
  Sweep.mem_visited_iff, isAcyclic_iff
-/
import DagScheduling.Proofs.Numbering
import DagScheduling.Proofs.Planning.Relations

namespace DagScheduling

variable {related : List Relation} {count : Nat}

namespace Sweep

variable {sweep : Sweep} {node child v : NodeId} {pending visited : List NodeId}

/-! ### The relations a node waits for -/

/-- The number of relations into `v` from nodes not visited yet. -/
def openInto (related : List Relation) (visited : List NodeId) (v : NodeId) : Nat :=
  related.countP fun relation => relation.2 == v && !visited.contains relation.1

theorem openInto_eq_zero :
    openInto related visited v = 0 ↔ ∀ parent, Relates related parent v → parent ∈ visited := by
  simp only [openInto, List.countP_eq_zero, Prod.forall, Bool.and_eq_true, beq_iff_eq,
    Bool.not_eq_true', List.contains_eq_mem, decide_eq_false_iff_not, not_and, Classical.not_not]
  constructor
  · intro closed parent relates
    exact closed parent v relates rfl
  · intro closed parent child relates same
    subst same
    exact closed parent relates

/-- Visiting a node takes its own relations from those that are open. -/
theorem openInto_visit (unvisited : node ∉ visited) :
    openInto related visited v =
      openInto related (node :: visited) v + (successors related node).count v := by
  have others : related.countP (fun relation =>
      (relation.2 == v && !visited.contains relation.1) && !(relation.1 == node)) =
      openInto related (node :: visited) v := by
    apply List.countP_congr
    simp [and_left_comm, and_comm]
  have own : related.countP (fun relation =>
      (relation.2 == v && !visited.contains relation.1) && relation.1 == node) =
      (successors related node).count v := by
    rw [successors, List.count, List.countP_map, List.countP_filter]
    apply List.countP_congr
    intro relation _
    by_cases same : relation.1 = node
    · simp [same, unvisited]
    · simp [same]
  rw [← others, ← own, openInto, Nat.add_comm,
    List.countP_eq_countP_filter_add related _ fun relation => relation.1 == node,
    List.countP_filter, List.countP_filter]

/-! ### The invariant -/

/-- What holds of a sweep between visits, and within a visit while relations
into `pending` are still to be freed: a counter tells what its node waits for,
and the nodes that wait for nothing are those queued or visited, each once. -/
structure Steady (count : Nat) (related : List Relation) (pending : List NodeId) (sweep : Sweep) :
    Prop where
  size : sweep.waiting.size = count
  counter : ∀ v < count,
    sweep.waiting[v]? = some (openInto related sweep.visited v + pending.count v)
  nodup : (sweep.queue ++ sweep.visited).Nodup
  mem_iff : ∀ v, v ∈ sweep.queue ++ sweep.visited ↔ 1 ≤ v ∧ sweep.waiting[v]? = some 0
  ordered : Ordered related sweep.visited

/-! ### The counters with their checks -/

/-- `free` where the counter is there and above zero. -/
def free? (sweep : Sweep) (child : NodeId) : Option Sweep :=
  match sweep.waiting[child]? with
  | some (_ + 1) => some (sweep.free child)
  | _ => none

/-- `visit` if every counter it takes from is there and above zero. -/
def visit? (related : List Relation) (sweep : Sweep) : Option Sweep :=
  match sweep.queue with
  | [] => some sweep
  | node :: rest =>
      (successors related node).foldlM free?
        { sweep with queue := rest, visited := node :: sweep.visited }

/-- `run` with the checks of each visit. -/
def run? (related : List Relation) : Nat → Sweep → Option Sweep
  | 0, sweep => some sweep
  | fuel + 1, sweep =>
      if sweep.queue.isEmpty then some sweep
      else (sweep.visit? related).bind (run? related fuel)

/-- `countParents` if there is a counter for the end of every relation. -/
def countParents? (count : Nat) (related : List Relation) : Option (Array Nat) :=
  related.foldlM
    (fun counts relation =>
      if relation.2 < counts.size then some (counts.modify relation.2 (· + 1)) else none)
    (Array.replicate count 0)

/-- `finish` with every check on the way, those of the first look at the counters included. -/
def finish? (count : Nat) (related : List Relation) : Option Sweep :=
  (countParents? count related).bind fun counts =>
    if ∀ node ∈ (List.range count).drop 1, node < counts.size then
      run? related count (start count related)
    else none

/-! ### One relation less -/

theorem getElem?_free (sweep : Sweep) (child v : NodeId) :
    (sweep.free child).waiting[v]? =
      if child = v then sweep.waiting[v]?.map (· - 1) else sweep.waiting[v]? :=
  Array.getElem?_modify

theorem queue_free (sweep : Sweep) (child : NodeId) : (sweep.free child).queue =
    if (sweep.free child).waiting[child]? = some 0 then sweep.queue ++ [child]
    else sweep.queue := by
  simp only [free, beq_iff_eq]

@[simp] theorem visited_free (sweep : Sweep) (child : NodeId) :
    (sweep.free child).visited = sweep.visited := rfl

/-- A node waits for each relation into it that is still pending. Taking one of
these frees the node if the relation was the last. -/
theorem free_steady (steady : Steady count related (child :: pending) sweep)
    (numbered : 1 ≤ child ∧ child < count) :
    sweep.free? child = some (sweep.free child) ∧
      Steady count related pending (sweep.free child) := by
  have counter := steady.counter child numbered.2
  rw [List.count_cons_self, ← Nat.add_assoc] at counter
  have waits : child ∉ sweep.queue ++ sweep.visited := by
    rw [steady.mem_iff, counter]
    simp
  refine ⟨by rw [free?, counter], ?_, ?_, ?_, ?_, steady.ordered⟩
  · rw [free, Array.size_modify, steady.size]
  · intro v inRange
    rw [getElem?_free, steady.counter v inRange, List.count_cons]
    by_cases same : child = v
    · simp [same]
    · simp [same]
  · rw [queue_free]
    split
    · rw [List.append_assoc, List.singleton_append]
      apply List.nodup_middle.mpr
      exact List.nodup_cons.mpr ⟨waits, steady.nodup⟩
    · exact steady.nodup
  · intro v
    rw [queue_free]
    by_cases same : child = v
    · subst same
      split
      case isTrue freed => simp [freed, numbered.1]
      case isFalse waiting => simpa [waiting] using waits
    · have unchanged : (sweep.free child).waiting[v]? = sweep.waiting[v]? := by
        rw [getElem?_free, if_neg same]
      rw [unchanged, ← steady.mem_iff]
      split
      · simp [Ne.symm same]
      · rfl

theorem foldl_free_steady (steady : Steady count related pending sweep)
    (numbered : ∀ child ∈ pending, 1 ≤ child ∧ child < count) :
    pending.foldlM free? sweep = some (pending.foldl free sweep) ∧
      Steady count related [] (pending.foldl free sweep) := by
  induction pending generalizing sweep with
  | nil => exact ⟨rfl, steady⟩
  | cons child rest inductionHypothesis =>
      obtain ⟨checked, later⟩ := free_steady steady (numbered child List.mem_cons_self)
      rw [List.foldlM_cons, checked, List.foldl_cons]
      apply inductionHypothesis later
      intro other member
      exact numbered other (List.mem_cons_of_mem _ member)

/-! ### Visits -/

theorem mem_successors : child ∈ successors related node ↔ Relates related node child := by
  simp [successors, Relates]

/-- A node that is queued or visited has only visited parents, and the others have
one that is not. -/
theorem Steady.mem_iff_closed (steady : Steady count related [] sweep) :
    v ∈ sweep.queue ++ sweep.visited ↔
      1 ≤ v ∧ v < count ∧ ∀ parent, Relates related parent v → parent ∈ sweep.visited := by
  rw [steady.mem_iff]
  by_cases inRange : v < count
  · rw [steady.counter v inRange, ← openInto_eq_zero]
    simp [inRange]
  · have missing : sweep.waiting[v]? = none := by
      apply Array.getElem?_eq_none
      rw [steady.size]
      exact Nat.le_of_not_lt inRange
    simp [missing, inRange]

theorem visit_steady (steady : Steady count related [] sweep) (numbered : Numbered count related) :
    sweep.visit? related = some (sweep.visit related) ∧
      Steady count related [] (sweep.visit related) := by
  rw [visit?, visit]
  cases queued : sweep.queue with
  | nil => exact ⟨rfl, steady⟩
  | cons node rest =>
      have nodup := steady.nodup
      rw [queued, List.cons_append] at nodup
      have unvisited : node ∉ sweep.visited := by
        intro member
        exact (List.nodup_cons.mp nodup).1 (List.mem_append_right rest member)
      have closed : ∀ parent, Relates related parent node → parent ∈ sweep.visited := by
        have member : node ∈ sweep.queue ++ sweep.visited := by simp [queued]
        exact (steady.mem_iff_closed.mp member).2.2
      apply foldl_free_steady
      · refine ⟨steady.size, ?_, List.nodup_middle.mpr nodup, ?_, closed, steady.ordered⟩
        · intro v inRange
          rw [steady.counter v inRange, openInto_visit unvisited]
          rfl
        · intro v
          rw [← steady.mem_iff, queued]
          simp [or_left_comm]
      · intro child member
        exact (numbered (mem_successors.mp member)).2

theorem visited_visit_of_cons {rest : List NodeId} (queued : sweep.queue = node :: rest) :
    (sweep.visit related).visited = node :: sweep.visited := by
  have keeps (children : List NodeId) (sweep : Sweep) :
      (children.foldl free sweep).visited = sweep.visited := by
    induction children generalizing sweep with
    | nil => rfl
    | cons child rest inductionHypothesis =>
        rw [List.foldl_cons, inductionHypothesis, visited_free]
  rw [visit, queued]
  exact keeps _ _

/-- There are no more nodes to queue and visit than there are in all. -/
theorem Steady.length_le (steady : Steady count related [] sweep) :
    sweep.queue.length + sweep.visited.length ≤ count := by
  have within : sweep.queue ++ sweep.visited ⊆ List.range count := by
    intro v member
    exact List.mem_range.mpr (steady.mem_iff_closed.mp member).2.1
  have bound := (steady.nodup.subperm within).length_le
  rw [List.length_append, List.length_range] at bound
  exact bound

/-- Visits go on until none is left, and no check fails on the way. -/
theorem run_steady (steady : Steady count related [] sweep) (numbered : Numbered count related)
    {fuel : Nat} (enough : count ≤ fuel + sweep.visited.length) :
    run? related fuel sweep = some (run related fuel sweep) ∧
      Steady count related [] (run related fuel sweep) ∧ (run related fuel sweep).queue = [] := by
  induction fuel generalizing sweep with
  | zero =>
      refine ⟨rfl, steady, List.eq_nil_of_length_eq_zero ?_⟩
      have bound := steady.length_le
      rw [run]
      omega
  | succ fuel inductionHypothesis =>
      rw [run?, run]
      cases queued : sweep.queue with
      | nil => exact ⟨rfl, steady, queued⟩
      | cons node rest =>
          obtain ⟨checked, later⟩ := visit_steady steady numbered
          rw [if_neg (by simp), if_neg (by simp), checked, Option.bind_some]
          apply inductionHypothesis later
          rw [visited_visit_of_cons queued, List.length_cons]
          omega

/-! ### A whole sweep -/

private theorem count_ends {counts : Array Nat}
    (inRange : ∀ relation ∈ related, relation.2 < counts.size) :
    related.foldlM (fun counts relation =>
        if relation.2 < counts.size then some (counts.modify relation.2 (· + 1)) else none) counts =
      some (related.foldl (fun counts relation => counts.modify relation.2 (· + 1)) counts) ∧
    (related.foldl (fun counts relation => counts.modify relation.2 (· + 1)) counts).size =
      counts.size ∧
    ∀ v, (related.foldl (fun counts relation => counts.modify relation.2 (· + 1)) counts)[v]? =
      counts[v]?.map (· + related.countP fun relation => relation.2 == v) := by
  induction related generalizing counts with
  | nil => simp
  | cons relation rest inductionHypothesis =>
      have restInRange : ∀ other ∈ rest,
          other.2 < (counts.modify relation.2 (· + 1)).size := by
        intro other member
        rw [Array.size_modify]
        exact inRange other (List.mem_cons_of_mem _ member)
      obtain ⟨checked, size, counted⟩ := inductionHypothesis restInRange
      rw [List.foldlM_cons, List.foldl_cons, if_pos (inRange relation List.mem_cons_self)]
      refine ⟨checked, size.trans Array.size_modify, ?_⟩
      intro v
      rw [counted, Array.getElem?_modify, List.countP_cons]
      by_cases same : relation.2 = v
      · simp [same, Function.comp_def, Nat.add_assoc, Nat.add_comm 1]
      · simp [same]

theorem countParents_ok (numbered : Numbered count related) :
    countParents? count related = some (countParents count related) ∧
      (countParents count related).size = count ∧
      ∀ v < count, (countParents count related)[v]? = some (openInto related [] v) := by
  have inRange : ∀ relation ∈ related, relation.2 < (Array.replicate count 0).size := by
    intro relation member
    rw [Array.size_replicate]
    exact (numbered member).2.2
  obtain ⟨checked, size, counted⟩ := count_ends inRange
  refine ⟨checked, size.trans Array.size_replicate, ?_⟩
  intro v below
  rw [countParents, counted, Array.getElem?_replicate, if_pos below]
  simp [openInto]

theorem start_steady (numbered : Numbered count related) :
    Steady count related [] (start count related) := by
  obtain ⟨-, size, counter⟩ := countParents_ok numbered
  have nodes : (List.range count).drop 1 = List.range' 1 (count - 1) := by
    rw [List.range_eq_range', List.drop_range', Nat.zero_add]
  refine ⟨size, counter, ?_, ?_, trivial⟩
  · rw [start, List.append_nil, nodes]
    exact (List.nodup_range' 1).filter _
  · intro v
    rw [start, List.append_nil, nodes, List.mem_filter, mem_range'_one, beq_iff_eq]
    constructor
    · rintro ⟨⟨positive, -⟩, free⟩
      exact ⟨positive, free⟩
    · rintro ⟨positive, free⟩
      obtain ⟨inRange, -⟩ := Array.getElem?_eq_some_iff.mp free
      rw [size] at inRange
      exact ⟨⟨positive, Nat.le_sub_one_of_lt inRange⟩, free⟩

/-- Every node has been visited whose parents have all been visited, and no check failed. -/
theorem finish_steady (numbered : Numbered count related) :
    finish? count related = some (finish count related) ∧
      Steady count related [] (finish count related) ∧ (finish count related).queue = [] := by
  obtain ⟨counted, size, -⟩ := countParents_ok numbered
  have within : ∀ node ∈ (List.range count).drop 1, node < (countParents count related).size := by
    intro node member
    rw [size]
    exact List.mem_range.mp (List.mem_of_mem_drop member)
  rw [finish?, counted, Option.bind_some, if_pos within]
  exact run_steady (start_steady numbered) numbered (Nat.le_add_right _ _)

/-- A node is visited in the end exactly if all its parents are. -/
theorem mem_visited_iff (numbered : Numbered count related) :
    v ∈ (finish count related).visited ↔
      1 ≤ v ∧ v < count ∧ ∀ parent, Relates related parent v →
        parent ∈ (finish count related).visited := by
  obtain ⟨-, steady, done⟩ := finish_steady numbered
  have closed := steady.mem_iff_closed (v := v)
  rw [done, List.nil_append] at closed
  exact closed

theorem nodup_visited (numbered : Numbered count related) :
    (finish count related).visited.Nodup := by
  obtain ⟨-, steady, done⟩ := finish_steady numbered
  have nodup := steady.nodup
  rw [done, List.nil_append] at nodup
  exact nodup

theorem visited_within (numbered : Numbered count related) :
    ∀ v ∈ (finish count related).visited, 1 ≤ v ∧ v ≤ count - 1 := by
  intro v member
  obtain ⟨positive, inRange, -⟩ := (mem_visited_iff numbered).mp member
  exact ⟨positive, Nat.le_sub_one_of_lt inRange⟩

/-- The nodes on a cycle are not visited, as the order of the visits shows. -/
theorem acyclic_of_full (numbered : Numbered count related)
    (full : (finish count related).visited.length = count - 1) : Acyclic related := by
  obtain ⟨-, steady, -⟩ := finish_steady numbered
  have nodup := nodup_visited numbered
  have all := perm_of_within nodup (visited_within numbered) full
  intro v cycle
  obtain ⟨child, relates, -⟩ := Relation.TransGen.head'_iff.mp cycle
  obtain ⟨⟨positive, inRange⟩, -⟩ := numbered relates
  have member : v ∈ (finish count related).visited := by
    apply all.mem_iff.mpr
    exact mem_range'_one.mpr ⟨positive, Nat.le_sub_one_of_lt inRange⟩
  exact steady.ordered.no_cycle nodup member cycle

/-- Without a cycle a visit to every node follows from the visits to its parents. -/
theorem full_of_acyclic (numbered : Numbered count related) (acyclic : Acyclic related) :
    (finish count related).visited.length = count - 1 := by
  have all (v : NodeId) : 1 ≤ v → v < count → v ∈ (finish count related).visited := by
    apply acyclic.induction _ v
    intro child parents positive inRange
    apply (mem_visited_iff numbered).mpr ⟨positive, inRange, _⟩
    intro parent relates
    obtain ⟨⟨parentPositive, parentInRange⟩, -⟩ := numbered relates
    exact parents parent relates parentPositive parentInRange
  have covered : List.range' 1 (count - 1) ⊆ (finish count related).visited := by
    intro v member
    obtain ⟨positive, inRange⟩ := mem_range'_one.mp member
    exact all v positive (by lia)
  have lower := ((List.nodup_range' 1).subperm covered).length_le
  rw [List.length_range'] at lower
  exact Nat.le_antisymm
    (length_le_of_within (nodup_visited numbered) (visited_within numbered)) lower

end Sweep

/-- A sweep visits all nodes exactly if there is no cycle. -/
theorem isAcyclic_iff (numbered : Numbered count related) :
    isAcyclic count related = true ↔ Acyclic related := by
  rw [isAcyclic, beq_iff_eq]
  constructor
  · exact Sweep.acyclic_of_full numbered
  · exact Sweep.full_of_acyclic numbered

end DagScheduling
