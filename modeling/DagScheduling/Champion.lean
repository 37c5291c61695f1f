/-
Module: DagScheduling.Champion
Purpose: The running best of a list, which every choice in this library is made by.
Main exports: champion, champion?, champion?_eq_none_iff, champion?_mem
-/

namespace DagScheduling

/-- Go through `challengers` in order and let each that beats the present
champion take its place. -/
def champion {α : Type} (beats : α → α → Bool) (first : α) (challengers : List α) : α :=
  challengers.foldl (fun best next => if beats next best then next else best) first

/-- The champion of a list, if there is one. Where `beats` is a strict order by
some key this is the first entry of the greatest key. -/
def champion? {α : Type} (beats : α → α → Bool) : List α → Option α
  | [] => none
  | first :: rest => some (champion beats first rest)

theorem champion?_eq_none_iff {α : Type} {beats : α → α → Bool} {items : List α} :
    champion? beats items = none ↔ items = [] := by
  cases items <;> simp [champion?]

theorem champion_mem {α : Type} (beats : α → α → Bool) (first : α) (challengers : List α) :
    champion beats first challengers ∈ first :: challengers := by
  unfold champion
  induction challengers generalizing first with
  | nil => exact List.mem_singleton_self first
  | cons next rest ih =>
      rw [List.foldl_cons]
      rcases List.mem_cons.mp (ih (if beats next first then next else first)) with won | later
      · rw [won]
        split
        · exact List.mem_cons_of_mem _ List.mem_cons_self
        · exact List.mem_cons_self
      · exact List.mem_cons_of_mem _ (List.mem_cons_of_mem _ later)

/-- The champion is an entry of the list. -/
theorem champion?_mem {α : Type} {beats : α → α → Bool} {items : List α} {best : α}
    (chosen : champion? beats items = some best) : best ∈ items := by
  cases items with
  | nil => exact absurd chosen (by simp [champion?])
  | cons first rest =>
      have same : champion beats first rest = best := Option.some.inj chosen
      rw [← same]
      exact champion_mem beats first rest

end DagScheduling
