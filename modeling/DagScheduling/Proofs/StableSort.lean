/-
Module: DagScheduling.Proofs.StableSort
Purpose: Whoever takes the champion of a list again and again takes the list in its stable order.
  That order is told by the pairs of items that change places.
Main exports: Preorders, FirstBest, champion?_split, FirstBest.mergeSort_eq,
  pair_sublist_mergeSort_iff, swapped_sublist_mergeSort_iff, champion?_leads, champion?_sort
-/
import DagScheduling.Champion
import Mathlib.Data.List.Sort

namespace DagScheduling

variable {α : Type} {le : α → α → Bool} {items before after : List α} {item best a b c : α}

/-- Any two items compare, and comparisons chain. Items that compare both ways are ties. -/
structure Preorders {α : Type} (le : α → α → Bool) : Prop where
  trans : ∀ a b c, le a b = true → le b c = true → le a c = true
  total : ∀ a b, (le a b || le b a) = true

namespace Preorders

theorem refl (order : Preorders le) (a : α) : le a a = true := by
  simpa using order.total a a

theorem le_of_not_le (order : Preorders le) (behind : le a b = false) : le b a = true := by
  simpa [behind] using order.total a b

end Preorders

/-! ### The champion -/

/-- `best` stands where the best of a list come first: ahead of all before it,
and at least level with all after it. -/
structure FirstBest (le : α → α → Bool) (before : List α) (best : α) (after : List α) : Prop where
  beats : ∀ item ∈ before, le item best = false
  leads : ∀ item ∈ after, le best item = true

theorem FirstBest.le_of_mem (order : Preorders le) (place : FirstBest le before best after)
    (member : item ∈ before ++ best :: after) : le best item = true := by
  rcases List.mem_append.mp member with earlier | there
  · exact order.le_of_not_le (place.beats item earlier)
  · cases there with
    | head => exact order.refl _
    | tail _ later => exact place.leads item later

private theorem champion_split (order : Preorders le) {first : α} {challengers : List α}
    (chosen : champion (fun challenger incumbent => !le incumbent challenger) first challengers =
      best) :
    ∃ before after, first :: challengers = before ++ best :: after ∧
      FirstBest le before best after := by
  induction challengers generalizing first with
  | nil => exact ⟨[], [], by simpa [champion] using chosen, by simp, by simp⟩
  | cons next rest inductionHypothesis =>
      rw [champion, List.foldl_cons] at chosen
      cases level : le first next with
      | false =>
          obtain ⟨before, after, split, place⟩ := @inductionHypothesis next
            (by simpa [champion, level] using chosen)
          have leads : le best next = true := place.le_of_mem order (split ▸ List.mem_cons_self)
          have replaced : le first best = false := by
            apply Bool.eq_false_of_not_eq_true
            intro compared
            simpa [level] using order.trans first best next compared leads
          exact ⟨first :: before, after, by simp [split],
            List.forall_mem_cons.mpr ⟨replaced, place.beats⟩, place.leads⟩
      | true =>
          obtain ⟨before, after, split, place⟩ := @inductionHypothesis first
            (by simpa [champion, level] using chosen)
          cases before with
          | nil =>
              obtain ⟨rfl, rfl⟩ := List.cons.inj split
              exact ⟨[], next :: rest, rfl, by simp,
                List.forall_mem_cons.mpr ⟨level, place.leads⟩⟩
          | cons _ before =>
              obtain ⟨rfl, rest⟩ := List.cons.inj split
              obtain ⟨beaten, beats⟩ := List.forall_mem_cons.mp place.beats
              have passed : le next best = false := by
                apply Bool.eq_false_of_not_eq_true
                intro compared
                simpa [beaten] using order.trans first next best level compared
              refine ⟨first :: next :: before, after, by simp [rest], ?_, place.leads⟩
              simpa [beaten, passed] using beats

/-- The champion is the first of the best. -/
theorem champion?_split (order : Preorders le)
    (chosen : champion? (fun challenger incumbent => !le incumbent challenger) items = some best) :
    ∃ before after, items = before ++ best :: after ∧ FirstBest le before best after := by
  cases items with
  | nil => simp [champion?] at chosen
  | cons first rest => exact champion_split order (by simpa [champion?] using chosen)

/-! ### The stable order -/

private theorem orderedInsert_between {ahead behind : List α}
    (beats : ∀ other ∈ ahead, le item other = false)
    (leads : ∀ other ∈ behind, le item other = true) :
    (ahead ++ behind).orderedInsert (fun a b => le a b = true) item = ahead ++ item :: behind := by
  induction ahead with
  | nil =>
      cases behind with
      | nil => rfl
      | cons next rest => simp [leads next List.mem_cons_self]
  | cons first ahead inductionHypothesis =>
      obtain ⟨beaten, beats⟩ := List.forall_mem_cons.mp beats
      simp [beaten, inductionHypothesis beats]

/-- Sorting by halves and inserting one by one agree, as both leave ties as they stand. -/
private theorem mergeSort_eq_insertionSort (order : Preorders le) (items : List α) :
    items.mergeSort le = items.insertionSort fun a b => le a b = true := by
  induction items with
  | nil => simp
  | cons item rest inductionHypothesis =>
      obtain ⟨ahead, behind, sorted, split, beats⟩ :=
        List.mergeSort_cons order.trans order.total item rest
      have ordered := List.pairwise_mergeSort order.trans order.total (item :: rest)
      rw [sorted] at ordered
      have leads := (List.pairwise_cons.mp (List.pairwise_append.mp ordered).2.1).1
      rw [sorted, List.insertionSort_cons, ← inductionHypothesis, split]
      exact (orderedInsert_between (by simpa using beats) leads).symm

/-- The first of the best comes first in the stable order, and leaves the order
of the others as it is. -/
theorem FirstBest.mergeSort_eq (order : Preorders le) (place : FirstBest le before best after) :
    (before ++ best :: after).mergeSort le = best :: (before ++ after).mergeSort le := by
  rw [mergeSort_eq_insertionSort order, mergeSort_eq_insertionSort order]
  induction before with
  | nil => exact List.insertionSort_cons_of_forall_rel _ place.leads
  | cons item before inductionHypothesis =>
      obtain ⟨beaten, beats⟩ := List.forall_mem_cons.mp place.beats
      rw [List.cons_append, List.insertionSort_cons, inductionHypothesis ⟨beats, place.leads⟩]
      simp [beaten]

/-! ### Pairs in the stable order -/

theorem mem_of_pair_sublist (pair : [a, b].Sublist items) : a ∈ items ∧ b ∈ items := by
  simpa using pair.subset

theorem ne_of_pair_sublist (distinct : items.Nodup) (pair : [a, b].Sublist items) : a ≠ b := by
  simpa using distinct.sublist pair

/-- Of two items of a list one stands ahead of the other. -/
theorem pair_sublist_or_swapped (isMember : a ∈ items) (otherMember : b ∈ items)
    (different : a ≠ b) : [a, b].Sublist items ∨ [b, a].Sublist items := by
  obtain ⟨before, after, rfl⟩ := List.append_of_mem isMember
  rcases List.mem_append.mp otherMember with earlier | there
  · right
    exact (List.singleton_sublist.mpr earlier).append
      (List.singleton_sublist.mpr List.mem_cons_self)
  · left
    have later : b ∈ after := List.mem_of_ne_of_mem different.symm there
    exact List.sublist_append_of_sublist_right
      ((List.singleton_sublist.mpr later).cons_cons a)

theorem not_pair_sublist_swapped (distinct : items.Nodup) (ahead : [a, b].Sublist items) :
    ¬ [b, a].Sublist items := by
  induction items with
  | nil => exact fun swapped => nomatch swapped
  | cons first rest inductionHypothesis =>
      obtain ⟨new, restDistinct⟩ := List.nodup_cons.mp distinct
      intro swapped
      cases ahead with
      | cons _ ahead =>
          cases swapped with
          | cons _ swapped => exact inductionHypothesis restDistinct ahead swapped
          | cons_cons _ swapped => exact new (mem_of_pair_sublist ahead).2
      | cons_cons _ ahead =>
          cases swapped with
          | cons _ swapped => exact new (mem_of_pair_sublist swapped).2
          | cons_cons _ swapped => exact new (List.singleton_sublist.mp ahead)

/-- Of two items the one ahead stays ahead exactly if it is at least level with the other. -/
theorem pair_sublist_mergeSort_iff (order : Preorders le) (ahead : [a, b].Sublist items) :
    [a, b].Sublist (items.mergeSort le) ↔ le a b = true := by
  constructor
  · intro stays
    have ordered := List.pairwise_mergeSort order.trans order.total items
    exact List.pairwise_iff_forall_sublist.mp ordered stays
  · intro level
    exact List.pair_sublist_mergeSort order.trans order.total level ahead

/-- Of two items the one ahead falls behind exactly if the other beats it. -/
theorem swapped_sublist_mergeSort_iff (order : Preorders le) (distinct : items.Nodup)
    (ahead : [a, b].Sublist items) :
    [b, a].Sublist (items.mergeSort le) ↔ le a b = false := by
  have perm := List.mergeSort_perm items le
  have distinctSorted := perm.nodup_iff.mpr distinct
  rw [← Bool.not_eq_true, ← pair_sublist_mergeSort_iff order ahead]
  constructor
  · exact not_pair_sublist_swapped distinctSorted
  · intro passed
    obtain ⟨isMember, otherMember⟩ := mem_of_pair_sublist ahead
    have oneWay := pair_sublist_or_swapped (perm.mem_iff.mpr isMember)
      (perm.mem_iff.mpr otherMember) (ne_of_pair_sublist distinct ahead)
    exact oneWay.resolve_left passed

/-! ### Items that compare among each other only -/

theorem champion?_map {β : Type} (beats : α → α → Bool) (read : β → α) (items : List β) :
    champion? beats (items.map read) =
      (champion? (fun one two => beats (read one) (read two)) items).map read := by
  cases items with
  | nil => rfl
  | cons first rest =>
      simp only [List.map_cons, champion?, champion, List.foldl_map, Option.map_some]
      congr 1
      apply List.foldl_hom read
      intro incumbent challenger
      exact (apply_ite read _ _ _).symm

/-- To choose among items of a kind is to choose among them as items. -/
private theorem champion?_attachWith {kind : α → Prop} (ofKind : ∀ item ∈ items, kind item)
    (chosen : champion? (fun challenger incumbent => !le incumbent challenger) items = some best) :
    ∃ winner : {item // kind item}, winner.val = best ∧
      champion? (fun challenger incumbent : {item // kind item} => !le incumbent challenger)
        (items.attachWith kind ofKind) = some winner := by
  have read : (items.attachWith kind ofKind).map Subtype.val = items := by simp
  rw [← read, champion?_map] at chosen
  obtain ⟨winner, won, same⟩ := Option.map_eq_some_iff.mp chosen
  exact ⟨winner, same, won⟩

/-- The champion of items of a kind within which all compare is at least level
with each of them. -/
theorem champion?_leads {kind : α → Prop}
    (order : Preorders fun one two : {item // kind item} => le one two)
    (ofKind : ∀ item ∈ items, kind item)
    (chosen : champion? (fun challenger incumbent => !le incumbent challenger) items = some best)
    (member : item ∈ items) : le best item = true := by
  obtain ⟨winner, rfl, won⟩ := champion?_attachWith ofKind chosen
  obtain ⟨before, after, split, place⟩ := champion?_split order won
  have among : ⟨item, ofKind item member⟩ ∈ before ++ winner :: after := by
    rw [← split]
    simpa using member
  have leads := place.le_of_mem order among
  exact leads

/-- The champion of items of a kind within which all compare comes first in their
stable order, and leaves the order of the others as it is. -/
theorem champion?_sort {kind : α → Prop}
    (order : Preorders fun one two : {item // kind item} => le one two)
    (ofKind : ∀ item ∈ items, kind item)
    (chosen : champion? (fun challenger incumbent => !le incumbent challenger) items = some best) :
    ∃ before after, items = before ++ best :: after ∧
      items.mergeSort le = best :: (before ++ after).mergeSort le := by
  have read : (items.attachWith kind ofKind).map Subtype.val = items := by simp
  obtain ⟨winner, rfl, won⟩ := champion?_attachWith ofKind chosen
  obtain ⟨before, after, split, place⟩ := champion?_split order won
  refine ⟨before.map Subtype.val, after.map Subtype.val, ?_, ?_⟩
  · rw [← read, split]
    simp
  · have reads (entries : List {item // kind item}) :
        (entries.mergeSort fun one two => le one two).map Subtype.val =
          (entries.map Subtype.val).mergeSort le :=
      List.map_mergeSort fun _ _ _ _ => rfl
    calc items.mergeSort le
        = ((items.attachWith kind ofKind).mergeSort fun one two => le one two).map Subtype.val := by
          rw [reads, read]
      _ = (winner :: (before ++ after).mergeSort fun one two => le one two).map Subtype.val := by
          rw [split, place.mergeSort_eq order]
      _ = _ := by rw [List.map_cons, reads, List.map_append]

end DagScheduling
