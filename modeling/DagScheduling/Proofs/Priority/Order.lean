/-
Module: DagScheduling.Proofs.Priority.Order
Purpose: The priorities that an order of all tasks stands for, and that a full ledger gives.
Main exports: priorityIn, Priorities.mem_pairs, Priorities.ofOrder, Priorities.get?_ofOrder,
  Priorities.values_ofOrder_perm, Priorities.get?_ofOrder_of_getElem?, Priorities.ranked_ofOrder,
  Ledger.Issued.toPriorities_eq
-/
import DagScheduling.Proofs.Priority.Issuing
import Mathlib.Data.List.Basic

namespace DagScheduling

variable {order : List TaskId} {task first second : TaskId}

/-- The first task of an order has its length as priority, the last has 1. -/
def priorityIn (order : List TaskId) (task : TaskId) : Priority :=
  order.length - order.idxOf task

theorem priorityIn_getElem (distinct : order.Nodup) {i : Nat} (inRange : i < order.length) :
    priorityIn order order[i] = order.length - i := by
  rw [priorityIn, distinct.idxOf_getElem i inRange]

theorem map_priorityIn (distinct : order.Nodup) :
    order.map (priorityIn order) = (List.range' 1 order.length).reverse := by
  apply List.ext_getElem
  · simp
  · intro i inRange _
    rw [List.length_map] at inRange
    rw [List.getElem_map, priorityIn_getElem distinct inRange, List.getElem_reverse,
      List.getElem_range', List.length_range']
    lia

/-- Of two tasks the one that comes first has the greater priority. -/
theorem pairwise_priorityIn (distinct : order.Nodup) :
    order.Pairwise fun first second => priorityIn order second < priorityIn order first := by
  rw [List.pairwise_iff_getElem]
  intro i j iInRange jInRange before
  rw [priorityIn_getElem distinct iInRange, priorityIn_getElem distinct jInRange]
  show order.length - j < order.length - i
  omega

namespace Priorities

theorem map_fst_pairs (priorities : Priorities) :
    priorities.pairs.map Prod.fst = List.range' 1 priorities.size := by
  apply List.ext_getElem
  · simp [pairs, size]
  · intro i _ _
    simp [pairs, Nat.add_comm 1]

theorem mem_pairs {priorities : Priorities} {priority : Priority} :
    (task, priority) ∈ priorities.pairs ↔ priorities.get? task = some priority := by
  cases task with
  | zero => simp [pairs, get?]
  | succ index => simp [pairs, get?, List.mem_zipIdx_iff_getElem?]

/-- The priorities of the tasks `1..=N` by their place in an order of all of them. -/
def ofOrder (order : List TaskId) : Priorities :=
  ofList ((List.range' 1 order.length).map (priorityIn order))

theorem size_ofOrder (order : List TaskId) : (ofOrder order).size = order.length := by
  simp [size, ofOrder, ofList]

theorem get?_ofOrder (positive : 1 ≤ task) (inRange : task ≤ order.length) :
    (ofOrder order).get? task = some (priorityIn order task) := by
  cases task with
  | zero => exact absurd positive (by decide)
  | succ index =>
      have below : index < order.length := inRange
      simp [get?, ofOrder, ofList, below, Nat.add_comm 1]

theorem pairs_ofOrder (order : List TaskId) :
    (ofOrder order).pairs =
      (List.range' 1 order.length).map fun task => (task, priorityIn order task) := by
  apply List.ext_getElem
  · simp [pairs, ofOrder, ofList]
  · intro i _ _
    simp [pairs, ofOrder, ofList, Nat.add_comm 1]

variable (complete : order.Perm (List.range' 1 order.length))
include complete

theorem values_ofOrder_perm : (ofOrder order).values.toList.Perm (List.range' 1 order.length) := by
  apply (complete.symm.map (priorityIn order)).trans
  rw [map_priorityIn (nodup_of_complete complete)]
  exact List.reverse_perm _

/-- The first task of the order has the greatest priority, and each later one a priority less. -/
theorem get?_ofOrder_of_getElem? {place : Nat} (there : order[place]? = some task) :
    (ofOrder order).get? task = some (order.length - place) := by
  obtain ⟨inOrder, rfl⟩ := List.getElem?_eq_some_iff.mp there
  obtain ⟨positive, inRange⟩ :=
    mem_range'_one.mp (complete.mem_iff.mp (List.getElem_mem inOrder))
  rw [get?_ofOrder positive inRange, priorityIn_getElem (nodup_of_complete complete) inOrder]

/-- Sorting the tasks by their priorities restores the order. -/
theorem ranked_ofOrder : (ofOrder order).ranked = order := by
  have sorted : (ofOrder order).pairs.mergeSort (fun first second =>
      second.2 < first.2 || (first.2 == second.2 && first.1 ≤ second.1)) =
      order.map fun task => (task, priorityIn order task) := by
    apply List.Perm.eq_of_pairwise _ (List.pairwise_mergeSort _ _ _)
    · apply List.Pairwise.map _ _ (pairwise_priorityIn (nodup_of_complete complete))
      intro first second less
      simp [less]
    · apply (List.mergeSort_perm _ _).trans
      rw [pairs_ofOrder]
      exact complete.symm.map _
    · rintro ⟨first, firstPriority⟩ ⟨second, secondPriority⟩ - - forth back
      simp only [Bool.or_eq_true, Bool.and_eq_true, decide_eq_true_eq, beq_iff_eq] at forth back
      rw [Prod.mk.injEq]
      lia
    · intro first second third
      simp only [Bool.or_eq_true, Bool.and_eq_true, decide_eq_true_eq, beq_iff_eq]
      lia
    · intro first second
      simp only [Bool.or_eq_true, Bool.and_eq_true, decide_eq_true_eq, beq_iff_eq]
      lia
  rw [ranked, sorted, List.map_map]
  exact List.map_id' order

end Priorities

/-- A ledger in which every task has been met gives the priorities of the order
in which they were met. -/
theorem Ledger.Issued.toPriorities_eq {ledger : Ledger} {count : Nat}
    (issued : Ledger.Issued ledger count order) (complete : order.Perm (List.range' 1 count)) :
    ledger.toPriorities = .ok (Priorities.ofOrder order) := by
  have length := length_of_complete complete
  have allMet : ledger.unassigned = [] := by
    rw [issued.unassigned_eq, List.filter_eq_nil_iff]
    intro task member
    simpa using complete.mem_iff.mpr member
  have filled : ((List.range' 1 count).map fun task =>
      if task ∈ order then some (count - order.idxOf task) else none) =
      (List.range' 1 count).map fun task => some (priorityIn order task) := by
    apply List.map_congr_left
    intro task member
    rw [if_pos (complete.mem_iff.mpr member), priorityIn, length]
  rw [Ledger.toPriorities, allMet, issued.slots_eq, filled, Priorities.ofOrder, length]
  simp [List.filterMap_map]

end DagScheduling
