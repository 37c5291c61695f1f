/-
Module: DagScheduling.Proofs.Dispatch.Picks
Purpose: Which resources are picked, one after the other, and what that leaves of the others.
Main exports: changeAt, mem_idlePositions, Picks, Picks.resources_eq, Picks.mem_idlePositions,
  Picks.nodup, Picks.length_idlePositions, ranked, Picks.eq_take_ranked
-/
import DagScheduling.Dispatch.Binding
import DagScheduling.Proofs.FloatOrder
import DagScheduling.Proofs.StableSort

namespace DagScheduling

variable {change : Resource → Resource} {positions : List Nat} {resources later : List Resource}
  {resource : Resource} {position : Nat} {place : Resource × Nat} {picked : List (Resource × Nat)}

/-! ### Changes by position -/

/-- The resources with those at the given positions changed. -/
def changeAt (change : Resource → Resource) (positions : List Nat) (resources : List Resource) :
    List Resource :=
  resources.mapIdx fun position resource =>
    if position ∈ positions then change resource else resource

theorem getElem?_changeAt (position : Nat) :
    (changeAt change positions resources)[position]? =
      resources[position]?.map fun resource =>
        if position ∈ positions then change resource else resource :=
  List.getElem?_mapIdx

@[simp] theorem changeAt_nil : changeAt change [] resources = resources := by
  apply List.ext_getElem?
  intro position
  simp [getElem?_changeAt]

/-- A change made twice at a position is made once. -/
theorem changeAt_modify (once : ∀ resource, change (change resource) = change resource) :
    changeAt change positions (resources.modify position change) =
      changeAt change (position :: positions) resources := by
  apply List.ext_getElem?
  intro other
  rw [getElem?_changeAt, getElem?_changeAt, List.getElem?_modify]
  by_cases here : position = other
  · cases resources[other]? <;> simp [here, once]
  · simp [here, Ne.symm here]

/-! ### Idle resources -/

@[simp] theorem Resource.occupy_occupy (resource : Resource) :
    resource.occupy.occupy = resource.occupy :=
  rfl

@[simp] theorem Resource.isIdle_occupy (resource : Resource) : resource.occupy.isIdle = false :=
  rfl

@[simp] theorem Resource.isIdle_release (resource : Resource) : resource.release.isIdle = true :=
  rfl

theorem mem_idlePositions :
    place ∈ idlePositions resources ↔
      resources[place.2]? = some place.1 ∧ place.1.isIdle = true := by
  simp [idlePositions, List.mem_zipIdx_iff_getElem?]

theorem length_idlePositions (resources : List Resource) :
    (idlePositions resources).length = resources.countP Resource.isIdle := by
  calc (idlePositions resources).length
      = resources.zipIdx.countP (Resource.isIdle ∘ Prod.fst) :=
        (List.countP_eq_length_filter ..).symm
    _ = (resources.zipIdx.map Prod.fst).countP Resource.isIdle := List.countP_map.symm
    _ = resources.countP Resource.isIdle := by rw [List.zipIdx_map_fst]

private theorem nodup_positions (resources : List Resource) :
    ((idlePositions resources).map Prod.snd).Nodup := by
  have within : ((idlePositions resources).map Prod.snd).Sublist
      (resources.zipIdx.map Prod.snd) :=
    List.filter_sublist.map Prod.snd
  apply within.nodup
  rw [List.zipIdx_map_snd]
  exact List.nodup_range' 1

private theorem zipIdx_occupy (position : Nat) :
    (resources.modify position Resource.occupy).zipIdx =
      resources.zipIdx.map fun place =>
        (if place.2 = position then place.1.occupy else place.1, place.2) := by
  apply List.ext_getElem?
  intro other
  rw [List.getElem?_map, List.getElem?_zipIdx, List.getElem?_zipIdx, List.getElem?_modify]
  cases resources[other]? <;> simp [eq_comm]

/-- A resource that is occupied leaves the idle ones, and the others keep their order. -/
theorem idlePositions_occupy (position : Nat) :
    idlePositions (resources.modify position Resource.occupy) =
      (idlePositions resources).filter fun place => place.2 != position := by
  rw [idlePositions, zipIdx_occupy, List.filter_map]
  have left : resources.zipIdx.filter ((fun place : Resource × Nat => place.1.isIdle) ∘
      fun place => (if place.2 = position then place.1.occupy else place.1, place.2)) =
      (idlePositions resources).filter fun place => place.2 != position := by
    rw [idlePositions, List.filter_filter]
    apply List.filter_congr
    intro place _
    by_cases here : place.2 = position <;> simp [here]
  refine (congrArg (List.map _) left).trans ?_
  -- What is marked busy is not among those left, so that the marking changes none of them.
  apply (List.map_congr_left _).trans (List.map_id _)
  intro place member
  have other := (List.mem_filter.mp member).2
  simp only [bne_iff_ne] at other
  simp [other]

/-- Occupying one of the idle resources takes that one alone from their list. -/
theorem idlePositions_of_split {before after : List (Resource × Nat)}
    (split : idlePositions resources = before ++ place :: after) :
    idlePositions (resources.modify place.2 Resource.occupy) = before ++ after := by
  have distinct := nodup_positions resources
  rw [split, List.map_append, List.map_cons, List.nodup_middle, ← List.map_append] at distinct
  have apart : ∀ other ∈ before ++ after, (other.2 != place.2) = true := by
    intro other member
    simpa using ne_of_mem_of_not_mem (List.mem_map_of_mem member) (List.nodup_cons.mp distinct).1
  rw [idlePositions_occupy, split, List.filter_append, List.filter_cons_of_neg (by simp),
    ← List.filter_append, List.filter_eq_self.mpr apart]

/-! ### Picking -/

/-- From `resources` the best idle resource is picked and occupied, again and
again, as far as `later`. -/
inductive Picks : List Resource → List (Resource × Nat) → List Resource → Prop
  | done {resources : List Resource} : Picks resources [] resources
  | next {resources later : List Resource} {resource : Resource} {position : Nat}
      {picked : List (Resource × Nat)} (best : bestIdle? resources = some (resource, position))
      (rest : Picks (resources.modify position Resource.occupy) picked later) :
      Picks resources ((resource, position) :: picked) later

theorem bestIdle?_eq_none_iff : bestIdle? resources = none ↔ idlePositions resources = [] :=
  champion?_eq_none_iff

/-- The others stay idle, so that one idle resource less is left. -/
theorem length_idlePositions_of_best (best : bestIdle? resources = some place) :
    (idlePositions resources).length =
      (idlePositions (resources.modify place.2 Resource.occupy)).length + 1 := by
  obtain ⟨before, after, split⟩ := List.append_of_mem (champion?_mem best)
  rw [idlePositions_of_split split, split]
  simp
  omega

namespace Picks

/-- Only the resources picked are changed. -/
theorem resources_eq (picks : Picks resources picked later) :
    later = changeAt Resource.occupy (picked.map Prod.snd) resources := by
  induction picks with
  | done => simp
  | next best _ inductionHypothesis =>
      rw [inductionHypothesis, changeAt_modify Resource.occupy_occupy, List.map_cons]

/-- Every resource picked was idle. -/
theorem mem_idlePositions (picks : Picks resources picked later) (member : place ∈ picked) :
    place ∈ idlePositions resources := by
  induction picks with
  | done => exact absurd member List.not_mem_nil
  | next best _ inductionHypothesis =>
      cases member with
      | head => exact champion?_mem best
      | tail _ further =>
          have idle := inductionHypothesis further
          rw [idlePositions_occupy] at idle
          exact (List.mem_filter.mp idle).1

/-- No resource is picked twice. -/
theorem nodup (picks : Picks resources picked later) : (picked.map Prod.snd).Nodup := by
  induction picks with
  | done => simp
  | next best rest inductionHypothesis =>
      rw [List.map_cons]
      apply List.nodup_cons.mpr ⟨_, inductionHypothesis⟩
      intro again
      obtain ⟨place, member, same⟩ := List.mem_map.mp again
      have idle := rest.mem_idlePositions member
      rw [idlePositions_occupy] at idle
      simpa [same] using (List.mem_filter.mp idle).2

/-- Every pick takes one from the idle resources. -/
theorem length_idlePositions (picks : Picks resources picked later) :
    (idlePositions later).length + picked.length = (idlePositions resources).length := by
  induction picks with
  | done => simp
  | next best _ inductionHypothesis =>
      have oneLess := length_idlePositions_of_best best
      simp only [List.length_cons] at oneLess ⊢
      omega

end Picks

/-! ### Capacities that are numbers -/

/-- The idle resources with their positions, stably sorted by descending capacity. -/
def ranked (resources : List Resource) : List (Resource × Nat) :=
  (idlePositions resources).mergeSort fun first second => second.1.capacity ≤ first.1.capacity

theorem length_ranked (resources : List Resource) :
    (ranked resources).length = (idlePositions resources).length :=
  List.length_mergeSort _

/-- Capacities that are numbers compare and chain. -/
theorem preorders_capacity :
    Preorders fun first second : {place : Resource × Nat // place.1.capacity.isNaN = false} =>
      decide (second.val.1.capacity ≤ first.val.1.capacity) where
  trans := by
    intro a b c one two
    simp only [decide_eq_true_eq] at one two ⊢
    exact le_trans_of_numbers c.property b.property a.property two one
  total := by
    intro a b
    simpa using le_total_of_numbers b.property a.property

/-- The best idle resource ranks first, and occupying it leaves the order of the
others as it is. -/
theorem ranked_of_best (numbers : ∀ resource ∈ resources, resource.capacity.isNaN = false)
    (best : bestIdle? resources = some place) :
    ranked resources = place :: ranked (resources.modify place.2 Resource.occupy) := by
  have idleNumbers : ∀ idle ∈ idlePositions resources, idle.1.capacity.isNaN = false := by
    intro idle member
    exact numbers idle.1 (List.mem_of_getElem? (mem_idlePositions.mp member).1)
  obtain ⟨before, after, split, sorted⟩ := champion?_sort preorders_capacity idleNumbers best
  rw [ranked, ranked, idlePositions_of_split split]
  exact sorted

theorem Picks.eq_take_ranked (picks : Picks resources picked later)
    (numbers : ∀ resource ∈ resources, resource.capacity.isNaN = false) :
    picked = (ranked resources).take picked.length := by
  induction picks with
  | done => simp
  | @next resources later resource position picked best rest inductionHypothesis =>
      have numbersLeft : ∀ other ∈ resources.modify position Resource.occupy,
          other.capacity.isNaN = false := by
        intro other member
        obtain ⟨index, there⟩ := List.mem_iff_getElem?.mp member
        rw [List.getElem?_modify] at there
        obtain ⟨before, known, rfl⟩ := Option.map_eq_some_iff.mp there
        have number := numbers before (List.mem_of_getElem? known)
        split <;> exact number
      rw [ranked_of_best numbers best, List.length_cons, List.take_succ_cons,
        ← inductionHypothesis numbersLeft]

end DagScheduling
