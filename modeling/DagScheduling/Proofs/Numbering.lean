/-
Module: DagScheduling.Proofs.Numbering
Purpose: Lists of numbers among `1..=count`: they are no longer than `count` unless a number
  repeats, and as long as it only if no number is missing.
Main exports: mem_range'_one, length_le_of_within, perm_of_within, length_of_complete,
  nodup_of_complete
-/
import Mathlib.Data.List.Perm.Subperm

namespace DagScheduling

variable {numbers : List Nat} {count v : Nat}

theorem mem_range'_one : v ∈ List.range' 1 count ↔ 1 ≤ v ∧ v ≤ count := by
  rw [List.mem_range'_1]
  omega

theorem subperm_of_within (distinct : numbers.Nodup) (within : ∀ v ∈ numbers, 1 ≤ v ∧ v ≤ count) :
    numbers.Subperm (List.range' 1 count) := by
  apply distinct.subperm
  intro v member
  exact mem_range'_one.mpr (within v member)

theorem length_le_of_within (distinct : numbers.Nodup)
    (within : ∀ v ∈ numbers, 1 ≤ v ∧ v ≤ count) : numbers.length ≤ count := by
  have bound := (subperm_of_within distinct within).length_le
  rw [List.length_range'] at bound
  exact bound

/-- So many different numbers are all of them. -/
theorem perm_of_within (distinct : numbers.Nodup) (within : ∀ v ∈ numbers, 1 ≤ v ∧ v ≤ count)
    (full : numbers.length = count) : numbers.Perm (List.range' 1 count) := by
  apply (subperm_of_within distinct within).perm_of_length_le
  rw [List.length_range']
  exact Nat.le_of_eq full.symm

theorem length_of_complete (complete : numbers.Perm (List.range' 1 count)) :
    numbers.length = count := by
  rw [complete.length_eq, List.length_range']

theorem nodup_of_complete (complete : numbers.Perm (List.range' 1 count)) : numbers.Nodup :=
  complete.nodup_iff.mpr (List.nodup_range' 1)

end DagScheduling
