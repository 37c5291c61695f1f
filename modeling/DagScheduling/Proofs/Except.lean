/-
Module: DagScheduling.Proofs.Except
Purpose: Computations that may fail, one after the other: the first failure ends them all. Two of
  them can be run side by side as long as the first succeeds.
Main exports: ok_bind, error_bind, exists_of_bind_ok, of_mapError_ok, bind_congr_ok, mapM_congr_mem,
  map_of_mapM_ok, forM_ok_iff, forM_error_iff, Follows, Follows.bind, Follows.mapM, EndsAlike,
  EndsAlike.bind
-/
import Mathlib.Data.List.Basic

namespace DagScheduling

variable {ε α β : Type} {cause : ε} {items : List α} {check : α → Except ε Unit}

@[simp] theorem ok_bind (value : α) (next : α → Except ε β) : (.ok value >>= next) = next value :=
  rfl

@[simp] theorem error_bind (cause : ε) (next : α → Except ε β) :
    (.error cause >>= next) = .error cause :=
  rfl

/-- What succeeds succeeded at its first step. -/
theorem exists_of_bind_ok {first : Except ε α} {next : α → Except ε β} {result : β}
    (succeeded : (first >>= next) = .ok result) :
    ∃ value, first = .ok value ∧ next value = .ok result := by
  cases first with
  | ok value => exact ⟨value, rfl, succeeded⟩
  | error cause => exact nomatch succeeded

theorem of_mapError_ok {δ : Type} {restate : ε → δ} {result : Except ε α} {value : α}
    (succeeded : result.mapError restate = .ok value) : result = .ok value := by
  cases result with
  | ok found => exact congrArg Except.ok (Except.ok.inj succeeded)
  | error cause => exact nomatch succeeded

/-- What comes after the first step matters only for the values that it can have. -/
theorem bind_congr_ok {first : Except ε α} {next nextOther : α → Except ε β}
    (same : ∀ value, first = .ok value → next value = nextOther value) :
    first >>= next = first >>= nextOther := by
  cases first with
  | ok value => exact same value rfl
  | error cause => rfl

theorem mapM_congr_mem {compute computeOther : α → Except ε β}
    (same : ∀ item ∈ items, compute item = computeOther item) :
    items.mapM compute = items.mapM computeOther := by
  induction items with
  | nil => rfl
  | cons item rest inductionHypothesis =>
      obtain ⟨here, others⟩ := List.forall_mem_cons.mp same
      rw [List.mapM_cons, List.mapM_cons, here, inductionHypothesis others]

/-- What each step reads off its item can be read off the items at once. -/
theorem map_of_mapM_ok {γ : Type} {compute : α → Except ε β} {read : β → γ} {key : α → γ}
    {values : List β} (each : ∀ item value, compute item = .ok value → read value = key item)
    (succeeded : items.mapM compute = .ok values) : values.map read = items.map key := by
  induction items generalizing values with
  | nil =>
      cases succeeded
      rfl
  | cons item rest inductionHypothesis =>
      rw [List.mapM_cons] at succeeded
      obtain ⟨value, computed, succeeded⟩ := exists_of_bind_ok succeeded
      obtain ⟨others, computedOthers, succeeded⟩ := exists_of_bind_ok succeeded
      cases succeeded
      rw [List.map_cons, List.map_cons, each item value computed,
        inductionHypothesis computedOthers]

theorem forM_ok_iff : items.forM check = .ok () ↔ ∀ item ∈ items, check item = .ok () := by
  induction items with
  | nil =>
      rw [List.forM]
      simp [pure, Except.pure]
  | cons item rest inductionHypothesis =>
      rw [List.forM, List.forall_mem_cons]
      cases outcome : check item with
      | ok =>
          rw [ok_bind, inductionHypothesis]
          simp
      | error cause => simp

/-- The first check to fail is the one reported. -/
theorem forM_error_iff :
    items.forM check = .error cause ↔
      ∃ before item after, items = before ++ item :: after ∧
        (∀ earlier ∈ before, check earlier = .ok ()) ∧ check item = .error cause := by
  constructor
  · intro failed
    induction items with
    | nil => exact nomatch failed
    | cons item rest inductionHypothesis =>
        rw [List.forM] at failed
        cases outcome : check item with
        | ok =>
            rw [outcome, ok_bind] at failed
            obtain ⟨before, faulty, after, split, fine, fails⟩ := inductionHypothesis failed
            refine ⟨item :: before, faulty, after, ?_, ?_, fails⟩
            · rw [split, List.cons_append]
            · exact List.forall_mem_cons.mpr ⟨outcome, fine⟩
        | error first =>
            rw [outcome, error_bind] at failed
            exact ⟨[], item, rest, rfl, by simp, outcome.trans failed⟩
  · rintro ⟨before, item, after, split, fine, fails⟩
    subst split
    induction before with
    | nil =>
        rw [List.nil_append, List.forM, fails, error_bind]
    | cons first before inductionHypothesis =>
        obtain ⟨firstFine, restFine⟩ := List.forall_mem_cons.mp fine
        rw [List.cons_append, List.forM, firstFine, ok_bind]
        exact inductionHypothesis restFine

/-! ### Two computations side by side -/

/-- Where the first computation succeeds, so does the second, with a related value. -/
def Follows {ε ε' α α' : Type} (related : α → α' → Prop) (first : Except ε α)
    (second : Except ε' α') : Prop :=
  ∀ value, first = .ok value → ∃ other, second = .ok other ∧ related value other

namespace Follows

variable {ε' δ δ' α' β' : Type} {related : α → α' → Prop} {relatedNext : β → β' → Prop}
  {first : Except ε α} {second : Except ε' α'}

theorem ok {value : α} {other : α'} (here : related value other) :
    Follows related (.ok value : Except ε α) (.ok other : Except ε' α') := by
  intro found same
  cases same
  exact ⟨other, rfl, here⟩

theorem error {cause : ε} : Follows related (.error cause) second :=
  fun _ same => nomatch same

theorem bind {next : α → Except ε β} {nextOther : α' → Except ε' β'}
    (here : Follows related first second)
    (rest : ∀ value other, related value other →
      Follows relatedNext (next value) (nextOther other)) :
    Follows relatedNext (first >>= next) (second >>= nextOther) := by
  intro result succeeded
  obtain ⟨value, isFirst, isNext⟩ := exists_of_bind_ok succeeded
  obtain ⟨other, isSecond, holds⟩ := here value isFirst
  rw [isSecond]
  exact rest value other holds result isNext

theorem mapError (follows : Follows related first second) (restate : ε → δ)
    (restateOther : ε' → δ') :
    Follows related (first.mapError restate) (second.mapError restateOther) := by
  intro value mapped
  cases first with
  | error cause => cases mapped
  | ok found =>
      cases mapped
      obtain ⟨other, isOther, holds⟩ := follows value rfl
      rw [isOther]
      exact ⟨other, rfl, holds⟩

theorem mapM {compute : α → Except ε β} {computeOther : α' → Except ε' β'} {read : α → α'}
    {view : β → β'} {items : List α}
    (each : ∀ item ∈ items,
      Follows (fun one two => two = view one) (compute item) (computeOther (read item))) :
    Follows (fun one two => two = one.map view) (items.mapM compute)
      ((items.map read).mapM computeOther) := by
  induction items with
  | nil => exact .ok rfl
  | cons item rest inductionHypothesis =>
      obtain ⟨here, others⟩ := List.forall_mem_cons.mp each
      rw [List.map_cons, List.mapM_cons, List.mapM_cons]
      apply Follows.bind here
      intro value other same
      apply Follows.bind (inductionHypothesis others)
      intro values valuesOther sameRest
      rw [same, sameRest]
      exact .ok rfl

end Follows

/-- Either both computations succeed, with related values, or both fail, for related causes. -/
inductive EndsAlike {ε ε' α α' : Type} (failing : ε → ε' → Prop) (related : α → α' → Prop) :
    Except ε α → Except ε' α' → Prop
  | ok {value : α} {other : α'} (here : related value other) :
      EndsAlike failing related (.ok value) (.ok other)
  | error {cause : ε} {causeOther : ε'} (here : failing cause causeOther) :
      EndsAlike failing related (.error cause) (.error causeOther)

namespace EndsAlike

variable {ε' α' β' : Type} {failing : ε → ε' → Prop} {related : α → α' → Prop}
  {relatedNext : β → β' → Prop} {first : Except ε α} {second : Except ε' α'}

theorem bind {next : α → Except ε β} {nextOther : α' → Except ε' β'}
    (here : EndsAlike failing related first second)
    (rest : ∀ value other, related value other →
      EndsAlike failing relatedNext (next value) (nextOther other)) :
    EndsAlike failing relatedNext (first >>= next) (second >>= nextOther) := by
  cases here with
  | ok here => exact rest _ _ here
  | error here => exact .error here

end EndsAlike

end DagScheduling
