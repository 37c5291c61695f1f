/-
Module: DagScheduling.Proofs.FirstOccurrences
Purpose: A list without its repetitions keeps each entry where it first stands. Filters and
  injective maps leave that order as it is, and a list put behind another adds only what is new.
Main exports: firstOccurrences_induction, filter_eraseDups, map_eraseDups, nodup_eraseDups,
  eraseDups_of_nodup, eraseDups_of_forall_eq, eraseDups_append_congr
-/
import Mathlib.Data.List.Nodup

namespace DagScheduling

variable {α β : Type} [BEq α] [BEq β]

/-- What holds of the empty list, and of a list once it holds of its tail
without the head's repetitions, holds of every list. -/
theorem firstOccurrences_induction {motive : List α → Prop} (nil : motive [])
    (cons : ∀ first rest, motive (rest.filter fun item => !item == first) → motive (first :: rest))
    (items : List α) : motive items := by
  induction remaining : items.length using Nat.strongRecOn generalizing items with
  | ind _ inductionHypothesis =>
      cases items with
      | nil => exact nil
      | cons first rest =>
          have fewer : (rest.filter fun item => !item == first).length < (first :: rest).length :=
            Nat.lt_succ_of_le (List.length_filter_le _ rest)
          exact cons first rest (inductionHypothesis _ (remaining ▸ fewer) _ rfl)

variable [LawfulBEq α] [LawfulBEq β]

/-- A filter keeps the first occurrences of what it keeps. -/
theorem filter_eraseDups (test : α → Bool) (items : List α) :
    items.eraseDups.filter test = (items.filter test).eraseDups := by
  induction items using firstOccurrences_induction with
  | nil => rfl
  | cons first rest inductionHypothesis =>
      rw [List.eraseDups_cons, List.filter_cons, List.filter_cons, inductionHypothesis,
        List.filter_comm]
      split
      · rw [List.eraseDups_cons]
      · rename_i dropped
        have absent : (rest.filter test).filter (fun item => !item == first) =
            rest.filter test := by
          apply List.filter_eq_self.mpr
          intro item member
          have kept := (List.mem_filter.mp member).2
          have different : item ≠ first := fun same => dropped (same ▸ kept)
          simpa using different
        rw [absent]

/-- A map that keeps the entries apart keeps their first occurrences. -/
theorem map_eraseDups (change : α → β) (items : List α)
    (apart : ∀ first ∈ items, ∀ second ∈ items, change first = change second → first = second) :
    items.eraseDups.map change = (items.map change).eraseDups := by
  induction items using firstOccurrences_induction with
  | nil => rfl
  | cons first rest inductionHypothesis =>
      have sameTest : rest.filter (fun item => !item == first) =
          rest.filter fun item => !change item == change first := by
        apply List.filter_congr
        intro item member
        have iff : item = first ↔ change item = change first :=
          ⟨congrArg change, apart item (List.mem_cons_of_mem _ member) first List.mem_cons_self⟩
        rw [Bool.eq_iff_iff]
        simp [iff]
      rw [List.eraseDups_cons, List.map_cons, List.map_cons, List.eraseDups_cons,
        inductionHypothesis, sameTest, List.filter_map]
      · rfl
      · intro one oneMember two twoMember
        exact apart one (List.mem_cons_of_mem _ (List.mem_filter.mp oneMember).1)
          two (List.mem_cons_of_mem _ (List.mem_filter.mp twoMember).1)

theorem nodup_eraseDups (items : List α) : items.eraseDups.Nodup := by
  induction items using firstOccurrences_induction with
  | nil => exact List.nodup_nil
  | cons first rest inductionHypothesis =>
      rw [List.eraseDups_cons]
      exact List.nodup_cons.mpr ⟨by simp, inductionHypothesis⟩

/-- A list without repetitions stays as it is. -/
theorem eraseDups_of_nodup {items : List α} (distinct : items.Nodup) : items.eraseDups = items := by
  induction items with
  | nil => rfl
  | cons first rest inductionHypothesis =>
      obtain ⟨new, restDistinct⟩ := List.nodup_cons.mp distinct
      have others : (rest.filter fun item => !item == first) = rest := by
        apply List.filter_eq_self.mpr
        intro item member
        have different : item ≠ first := fun same => new (same ▸ member)
        simpa using different
      rw [List.eraseDups_cons, others, inductionHypothesis restDistinct]

/-- Of a list that repeats one entry that entry is left. -/
theorem eraseDups_of_forall_eq {items : List α} {value : α} (nonempty : items ≠ [])
    (all : ∀ item ∈ items, item = value) : items.eraseDups = [value] := by
  cases items with
  | nil => exact absurd rfl nonempty
  | cons first rest =>
      obtain ⟨isValue, others⟩ := List.forall_mem_cons.mp all
      subst isValue
      have none : (rest.filter fun item => !item == first) = [] := by
        apply List.filter_eq_nil_iff.mpr
        intro item member
        simp [others item member]
      rw [List.eraseDups_cons, none, List.eraseDups_nil]

/-- Two lists put one behind the other may each be replaced by one with the
same first occurrences. -/
theorem eraseDups_append_congr {front back front' back' : List α}
    (sameFront : front.eraseDups = front'.eraseDups) (sameBack : back.eraseDups = back'.eraseDups) :
    (front ++ back).eraseDups = (front' ++ back').eraseDups := by
  have sameMembers (item : α) : item ∈ front ↔ item ∈ front' := by
    rw [← List.mem_eraseDups, sameFront, List.mem_eraseDups]
  have sameTest : (fun item => !front.elem item) = fun item => !front'.elem item := by
    funext item
    rw [Bool.eq_iff_iff]
    simp [sameMembers item]
  rw [List.eraseDups_append, List.eraseDups_append, sameFront, List.removeAll, List.removeAll,
    ← filter_eraseDups, ← filter_eraseDups, sameBack, sameTest]

end DagScheduling
