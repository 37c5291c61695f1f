/-
Module: DagScheduling.Proofs.Dispatch.Capacities
Purpose: How fast the resource picked is among those idle at that moment. A capacity that is NaN
  hides whatever stands before it, so that a faster resource can be passed over.
Main exports: onOffer, Unsurpassed, behindLastNaN, best_behindLastNaN, unsurpassed_iff,
  Picks.best_of_split, dispatch_unsurpassed_iff, faster_passed_over
-/
import DagScheduling.Proofs.Dispatch.Matching
import Mathlib.Data.List.DropRight

namespace DagScheduling

/-- The resources as they are once some have been picked. -/
def onOffer (taken : List (Resource × Nat)) (resources : List Resource) : List Resource :=
  changeAt Resource.occupy (taken.map Prod.snd) resources

/-- No idle resource has a greater capacity than the one of this place. -/
def Unsurpassed (resources : List Resource) (place : Resource × Nat) : Prop :=
  ∀ other ∈ idlePositions resources, ¬ place.1.capacity < other.1.capacity

/-- The idle resources behind the last of them whose capacity is NaN. Where no
capacity is NaN these are all. -/
def behindLastNaN (resources : List Resource) : List (Resource × Nat) :=
  (idlePositions resources).rtakeWhile fun place => !place.1.capacity.isNaN

variable {resources later : List Resource} {place : Resource × Nat}
  {taken rest : List (Resource × Nat)}

/-! ### An item that hides those before it -/

/-- An item that beats every other, and that every other beats, is the champion
if it comes last, and otherwise leaves the choice to the items behind it. -/
theorem champion?_of_pivot {α : Type} {beats : α → α → Bool} {pivot : α} (front behind : List α)
    (takes : ∀ item, beats pivot item = true) (yields : ∀ item, beats item pivot = true) :
    champion? beats (front ++ pivot :: behind) =
      if behind = [] then some pivot else champion? beats behind := by
  have reached : champion? beats (front ++ pivot :: behind) =
      some (champion beats pivot behind) := by
    cases front with
    | nil => rfl
    | cons first front => simp [champion?, champion, List.foldl_append, takes]
  rw [reached]
  cases behind with
  | nil => rfl
  | cons next behind => simp [champion?, champion, yields]

/-- A list is of a kind throughout, or what is of that kind at its end stands
behind an item that is not. -/
private theorem split_rtakeWhile {α : Type} (ofKind : α → Bool) (items : List α) :
    items.rtakeWhile ofKind = items ∨
      ∃ front pivot, ofKind pivot = false ∧
        items = front ++ pivot :: items.rtakeWhile ofKind := by
  have split := List.rdropWhile_append_rtakeWhile (p := ofKind) (l := items)
  by_cases throughout : items.rdropWhile ofKind = []
  · left
    rwa [throughout, List.nil_append] at split
  · right
    have last := List.rdropWhile_last_not ofKind items throughout
    refine ⟨(items.rdropWhile ofKind).dropLast, (items.rdropWhile ofKind).getLast throughout,
      Bool.eq_false_of_not_eq_true last, ?_⟩
    rw [List.append_cons, List.dropLast_append_getLast throughout, split]

/-! ### The best idle resource -/

theorem isNaN_of_behind (member : place ∈ behindLastNaN resources) :
    place.1.capacity.isNaN = false := by
  simpa using List.mem_rtakeWhile_imp member

/-- The choice is among the idle resources behind the last NaN, and falls on that
one only if nothing stands behind it. -/
theorem bestIdle?_eq_behindLastNaN (resources : List Resource) :
    bestIdle? resources =
      if behindLastNaN resources = [] then (idlePositions resources).getLast?
      else champion? (fun challenger incumbent => !(challenger.1.capacity ≤ incumbent.1.capacity))
        (behindLastNaN resources) := by
  rcases split_rtakeWhile (fun place : Resource × Nat => !place.1.capacity.isNaN)
      (idlePositions resources) with throughout | ⟨front, pivot, isNaN, split⟩
  · rw [behindLastNaN, throughout, bestIdle?]
    cases idlePositions resources <;> rfl
  · have nan : pivot.1.capacity.isNaN = true := by simpa using isNaN
    rw [← behindLastNaN] at split
    rw [bestIdle?, split, champion?_of_pivot front]
    · split_ifs with nothing
      · simp [nothing]
      · rfl
    · intro other
      simpa using not_le_of_isNaN (Or.inl nan)
    · intro other
      simpa using not_le_of_isNaN (Or.inr nan)

/-- Either nothing stands behind the last NaN, and that one is chosen; or what is
chosen stands behind it, and nothing there is faster. -/
theorem best_behindLastNaN (best : bestIdle? resources = some place) :
    (behindLastNaN resources = [] ∧ place.1.capacity.isNaN = true) ∨
      (place ∈ behindLastNaN resources ∧
        ∀ other ∈ behindLastNaN resources, other.1.capacity ≤ place.1.capacity) := by
  rw [bestIdle?_eq_behindLastNaN] at best
  split_ifs at best with nothing
  · left
    refine ⟨nothing, ?_⟩
    obtain ⟨front, ending⟩ := List.getLast?_eq_some_iff.mp best
    simpa [behindLastNaN, ending, List.rtakeWhile_concat] using nothing
  · right
    refine ⟨champion?_mem best, ?_⟩
    intro other member
    simpa using champion?_leads preorders_capacity (fun _ => isNaN_of_behind) best member

/-- The resource chosen is unsurpassed just if no capacity that the last NaN hides
is greater than all behind it. -/
theorem unsurpassed_iff (best : bestIdle? resources = some place) :
    Unsurpassed resources place ↔
      behindLastNaN resources = [] ∨
        ∀ other ∈ idlePositions resources, other.1.capacity.isNaN = false →
          ∃ later ∈ behindLastNaN resources, other.1.capacity ≤ later.1.capacity := by
  rcases best_behindLastNaN best with ⟨nothing, nan⟩ | ⟨behind, fastest⟩
  · refine iff_of_true ?_ (Or.inl nothing)
    intro other _
    exact not_lt_of_isNaN (Or.inl nan)
  · have number := isNaN_of_behind behind
    constructor
    · intro unsurpassed
      right
      intro other idle otherNumber
      exact ⟨place, behind, le_of_not_lt otherNumber number (unsurpassed other idle)⟩
    · rintro (nothing | matched) other idle
      · simp [nothing] at behind
      · by_cases otherNumber : other.1.capacity.isNaN = false
        · obtain ⟨later, member, faster⟩ := matched other idle otherNumber
          exact not_lt_of_le (le_trans_of_numbers otherNumber (isNaN_of_behind member) number faster
            (fastest later member))
        · exact not_lt_of_isNaN (Or.inr (Bool.eq_true_of_not_eq_false otherNumber))

/-! ### Every binding of a cycle -/

/-- Each resource picked is the best of those on offer when it is picked. -/
theorem Picks.best_of_split (picks : Picks resources (taken ++ place :: rest) later) :
    bestIdle? (onOffer taken resources) = some place := by
  induction taken generalizing resources with
  | nil =>
      cases picks with
      | next best _ => simpa [onOffer] using best
  | cons first taken inductionHypothesis =>
      cases picks with
      | next _ further =>
          have best := inductionHypothesis further
          rwa [onOffer, changeAt_modify Resource.occupy_occupy] at best

/-- Whatever the capacities, each binding of a cycle takes a resource that is idle
at that moment, and no idle one behind the last NaN is faster. No idle resource at
all is faster just if nothing stands behind the last NaN, or each number before it
is at most one behind it. -/
theorem dispatch_unsurpassed_iff (ready : List TaskId) (priorities : Priorities)
    (resources : List Resource) (verbosity : Verbosity) :
    ∃ picked,
      Matched priorities.priorityOf ready resources picked
          (dispatch ready priorities resources verbosity).value ∧
        ∀ taken place rest, picked = taken ++ place :: rest →
          let offer := onOffer taken resources
          place ∈ idlePositions offer ∧
            (∀ other ∈ behindLastNaN offer, ¬ place.1.capacity < other.1.capacity) ∧
            (Unsurpassed offer place ↔
              behindLastNaN offer = [] ∨
                ∀ other ∈ idlePositions offer, other.1.capacity.isNaN = false →
                  ∃ later ∈ behindLastNaN offer, other.1.capacity ≤ later.1.capacity) := by
  obtain ⟨picked, matched⟩ := dispatch_matches ready priorities resources verbosity
  refine ⟨picked, matched, ?_⟩
  rintro taken place rest rfl
  have best := matched.picks.best_of_split
  refine ⟨champion?_mem best, ?_, unsurpassed_iff best⟩
  intro other member
  rcases best_behindLastNaN best with ⟨nothing, -⟩ | ⟨behind, fastest⟩
  · simp [nothing] at member
  · exact not_lt_of_le (fastest other member)

/-- The resource in the middle takes the place of the first and gives way to the last. -/
private def brokenMiddle : List Resource :=
  [{ id := 1, capacity := 5.0 }, { id := 2, capacity := 0.0 / 0.0 }, { id := 3, capacity := 3.0 }]

theorem faster_passed_over :
    let outcome := (dispatch [1] { values := #[1] } brokenMiddle 0).value
    outcome.assignments = [⟨1, 3, 1⟩] ∧
      ¬ ∃ picked,
        Matched ({ values := #[1] } : Priorities).priorityOf [1] brokenMiddle picked outcome ∧
          ∀ taken place rest, picked = taken ++ place :: rest →
            place ∈ idlePositions (onOffer taken brokenMiddle) ∧
              Unsurpassed (onOffer taken brokenMiddle) place := by
  intro outcome
  have bound : outcome.assignments = [⟨1, 3, 1⟩] := by decide +kernel
  refine ⟨bound, ?_⟩
  rintro ⟨picked, matched, unsurpassed⟩
  have named := matched.map_resource
  rw [bound] at named
  cases picked with
  | nil => cases named
  | cons place rest =>
      have third : place.1.id = 3 := (List.cons.inj named).1.symm
      obtain ⟨idle, fastest⟩ := unsurpassed [] place rest rfl
      have onOffer_nil : onOffer [] brokenMiddle = brokenMiddle := changeAt_nil
      rw [onOffer_nil] at idle fastest
      have slower : place.1.capacity = 3.0 := by
        have among : ∀ other ∈ idlePositions brokenMiddle,
            other.1.id = 3 → other.1.capacity = 3.0 := by
          simp [idlePositions, brokenMiddle, Resource.isIdle]
        exact among place idle third
      have passedOver := fastest ({ id := 1, capacity := 5.0 }, 0) List.mem_cons_self
      rw [slower] at passedOver
      exact passedOver (by decide)

end DagScheduling
