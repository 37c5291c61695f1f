/-
Module: DagScheduling.Proofs.Priority.Issuing
Purpose: A ledger is the order in which its nodes were met: the first has the number of tasks
  as its priority, each later one a priority less than the one before it.
Main exports: Ledger.metAll, Ledger.assign_cases, Ledger.Issued, Ledger.Issued.assign_ok,
  Ledger.Issued.assign_unknown, Ledger.Reached, Ledger.Issued.unassigned_eq,
  Ledger.Issued.slots_eq
-/
import DagScheduling.Priority.Ledger
import DagScheduling.Proofs.Numbering
import Mathlib.Data.List.Nodup
import Mathlib.Data.List.Infix

namespace DagScheduling.Ledger

variable {ledger : Ledger} {count : Nat} {order steps : List NodeId} {v : NodeId}

/-- The order of the nodes met, once one more is met. The root and a node met
before change nothing. -/
def met (order : List NodeId) (node : NodeId) : List NodeId :=
  if node = root ∨ node ∈ order then order else order ++ [node]

/-- The order of the nodes met, once the nodes of a path are met in turn. -/
def metAll (order steps : List NodeId) : List NodeId :=
  steps.foldl met order

theorem mem_met {w : NodeId} : w ∈ met order v ↔ w ∈ order ∨ w = v ∧ v ≠ root := by
  unfold met
  split
  · rename_i known
    rcases known with isRoot | member
    · simp [isRoot]
    · constructor
      · exact Or.inl
      · rintro (old | ⟨same, -⟩)
        · exact old
        · exact same ▸ member
  · rename_i new
    have notRoot : v ≠ root := fun isRoot => new (Or.inl isRoot)
    simp [notRoot]

theorem mem_metAll {w : NodeId} : w ∈ metAll order steps ↔ w ∈ order ∨ w ∈ steps ∧ w ≠ root := by
  unfold metAll
  induction steps generalizing order with
  | nil => simp
  | cons first rest inductionHypothesis =>
      rw [List.foldl_cons, inductionHypothesis, mem_met, List.mem_cons]
      by_cases same : w = first
      · simp [same]
        tauto
      · simp [same]

/-- Meeting nodes only lengthens the order. -/
theorem prefix_metAll (order steps : List NodeId) : order <+: metAll order steps := by
  unfold metAll
  induction steps generalizing order with
  | nil => exact List.prefix_refl order
  | cons first rest inductionHypothesis =>
      rw [List.foldl_cons]
      apply List.IsPrefix.trans _ (inductionHypothesis (met order first))
      unfold met
      split
      · exact List.prefix_refl order
      · exact List.prefix_append order [first]

theorem metAll_append (order first second : List NodeId) :
    metAll order (first ++ second) = metAll (metAll order first) second :=
  List.foldl_append

/-- What a path adds to the order are its new nodes, each where the path first meets it. -/
theorem metAll_eq (order steps : List NodeId) : metAll order steps =
    order ++ (steps.filter fun v => ¬ (v = root ∨ v ∈ order)).eraseDups := by
  induction steps generalizing order with
  | nil => simp [metAll]
  | cons first rest inductionHypothesis =>
      show metAll (met order first) rest = _
      rw [inductionHypothesis, met, List.filter_cons]
      by_cases known : first = root ∨ first ∈ order
      · rw [if_pos known, if_neg (by simp [known])]
      · rw [if_neg known, if_pos (by simp [known]), List.eraseDups_cons, List.filter_filter,
          List.append_assoc, List.singleton_append]
        congr 3
        apply List.filter_congr
        intro v _
        rw [Bool.eq_iff_iff]
        simp
        tauto

/-- From the start on, a path that stays away from the root leaves the order of its first
meetings. -/
theorem metAll_nil_of_notMem (noRoot : root ∉ steps) : metAll [] steps = steps.eraseDups := by
  rw [metAll_eq, List.nil_append]
  congr 1
  apply List.filter_eq_self.mpr
  intro v member
  have notRoot : v ≠ root := fun isRoot => noRoot (isRoot ▸ member)
  simpa using notRoot

/-- The ledger for the tasks `1..=count` once the nodes of `order` have been met. -/
structure Issued (ledger : Ledger) (count : Nat) (order : List NodeId) : Prop where
  size : ledger.slots.size = count + 1
  next : ledger.next + order.length = count
  nodup : order.Nodup
  inRange : ∀ v ∈ order, v ≠ root ∧ v ≤ count
  priority : ∀ v, ledger.get? v = if v ∈ order then some (count - order.idxOf v) else none

theorem get?_eq (ledger : Ledger) (v : NodeId) : ledger.get? v = ledger.slots[v]?.join := by
  unfold get?
  cases ledger.slots[v]? <;> rfl

/-- All that a call can do: nothing, to the root or to a node that has its
priority, or to issue the next priority to a node that has none. -/
theorem assign_cases {later : Ledger} {given : Option Priority}
    (call : ledger.assign v = .ok (later, given)) :
    (given = none ∧ later = ledger ∧ (v = root ∨ ledger.isAssigned v = true)) ∨
    (given = some ledger.next ∧ v ≠ root ∧ ledger.isAssigned v = false ∧
      later.next + 1 = ledger.next ∧
      ∀ w, later.get? w = if w = v then some ledger.next else ledger.get? w) := by
  unfold assign at call
  split at call
  · rename_i isRoot
    cases call
    exact Or.inl ⟨rfl, rfl, Or.inl isRoot⟩
  · rename_i notRoot
    cases slot : ledger.slots[v]? with
    | none =>
        rw [slot] at call
        cases call
    | some held =>
        rw [slot] at call
        have known : ledger.isAssigned v = held.isSome := by
          rw [isAssigned, get?_eq, slot, Option.join_some]
        cases held with
        | some priority =>
            cases call
            exact Or.inl ⟨rfl, rfl, Or.inr known⟩
        | none =>
            cases counter : ledger.next with
            | zero =>
                rw [counter] at call
                cases call
            | succ below =>
                rw [counter] at call
                cases call
                refine Or.inr ⟨rfl, notRoot, known, rfl, ?_⟩
                intro w
                rw [get?_eq, get?_eq, Array.getElem?_setIfInBounds]
                obtain ⟨bound, -⟩ := Array.getElem?_eq_some_iff.mp slot
                by_cases same : v = w
                · subst same
                  simp [bound]
                · simp [same, Ne.symm same]

theorem assign_of_isAssigned (known : ledger.isAssigned v = true) :
    ledger.assign v = .ok (ledger, none) := by
  rw [isAssigned, get?] at known
  unfold assign
  split
  · rfl
  · cases slot : ledger.slots[v]? with
    | none =>
        rw [slot] at known
        cases known
    | some held =>
        rw [slot] at known
        obtain ⟨priority, rfl⟩ := Option.isSome_iff_exists.mp known
        rfl

theorem issued_ofTaskCount (count : Nat) : Issued (ofTaskCount count) count [] where
  size := Array.size_replicate
  next := rfl
  nodup := List.nodup_nil
  inRange := by simp
  priority := by
    intro v
    rw [get?_eq, ofTaskCount, Array.getElem?_replicate]
    split <;> rfl

namespace Issued

theorem isAssigned_iff (issued : Issued ledger count order) :
    ledger.isAssigned v = true ↔ v ∈ order := by
  rw [isAssigned, issued.priority v]
  split <;> simp [*]

theorem slot_eq (issued : Issued ledger count order) (inRange : v ≤ count) :
    ledger.slots[v]? = some (if v ∈ order then some (count - order.idxOf v) else none) := by
  have bound : v < ledger.slots.size := by
    rw [issued.size]
    lia
  have known := issued.priority v
  rw [get?_eq, Array.getElem?_eq_getElem bound] at known
  rw [Array.getElem?_eq_getElem bound]
  exact congrArg some known

/-- A node without a number among the tasks and the root has no slot. -/
theorem assign_unknown (issued : Issued ledger count order) (beyond : count < v) :
    ledger.assign v = .error (.unknownNode v) := by
  have notRoot : v ≠ root := Nat.ne_of_gt (Nat.lt_of_le_of_lt (Nat.zero_le count) beyond)
  have noSlot : ledger.slots[v]? = none := by
    apply Array.getElem?_eq_none
    rw [issued.size]
    exact beyond
  rw [assign, if_neg notRoot, noSlot]

theorem assign_known (issued : Issued ledger count order) (known : v = root ∨ v ∈ order) :
    ledger.assign v = .ok (ledger, none) := by
  unfold assign
  split
  · rfl
  · rename_i notRoot
    have member := known.resolve_left notRoot
    rw [issued.slot_eq (issued.inRange v member).2, if_pos member]

/-- There is room for a task not met yet: the counter is at zero only when
every slot is filled. -/
theorem length_lt (issued : Issued ledger count order) (notRoot : v ≠ root) (inRange : v ≤ count)
    (new : v ∉ order) : order.length < count := by
  have within : ∀ w ∈ v :: order, 1 ≤ w ∧ w ≤ count := by
    refine List.forall_mem_cons.mpr ⟨⟨Nat.pos_of_ne_zero notRoot, inRange⟩, ?_⟩
    intro w old
    have bounds := issued.inRange w old
    exact ⟨Nat.pos_of_ne_zero bounds.1, bounds.2⟩
  exact length_le_of_within (List.nodup_cons.mpr ⟨new, issued.nodup⟩) within

theorem assign_new (issued : Issued ledger count order) (notRoot : v ≠ root)
    (inRange : v ≤ count) (new : v ∉ order) :
    ∃ later, ledger.assign v = .ok (later, some ledger.next) ∧
      Issued later count (order ++ [v]) := by
  have room := issued.length_lt notRoot inRange new
  have counter := issued.next
  obtain ⟨below, atLeastOne⟩ : ∃ below, ledger.next = below + 1 := ⟨ledger.next - 1, by lia⟩
  rw [assign, if_neg notRoot, issued.slot_eq inRange, if_neg new, atLeastOne]
  refine ⟨_, rfl, ?_, ?_, ?_, ?_, ?_⟩
  · rw [Array.size_setIfInBounds, issued.size]
  · rw [List.length_append, List.length_singleton]
    lia
  · exact List.Nodup.append issued.nodup (List.nodup_singleton v) (by simpa using new)
  · intro w member
    rcases List.mem_append.mp member with old | last
    · exact issued.inRange w old
    · rw [List.mem_singleton.mp last]
      exact ⟨notRoot, inRange⟩
  · intro w
    have old := issued.priority w
    rw [get?_eq] at old ⊢
    rw [Array.getElem?_setIfInBounds]
    by_cases same : v = w
    · subst same
      have place : (order ++ [v]).idxOf v = order.length := by
        simp [List.idxOf_append, new]
      have bound : v < ledger.slots.size := by
        rw [issued.size]
        lia
      have value : below + 1 = count - order.length := by lia
      simp [bound, place, value]
    · rw [if_neg same, old]
      have membership : w ∈ order ++ [v] ↔ w ∈ order := by simp [Ne.symm same]
      simp only [membership]
      split
      · rename_i member
        rw [List.idxOf_append_of_mem member]
      · rfl

/-- A node with a slot is met without an error. -/
theorem assign_ok (issued : Issued ledger count order) (inRange : v ≤ count) :
    ∃ later given, ledger.assign v = .ok (later, given) ∧ Issued later count (met order v) := by
  unfold met
  split
  · rename_i known
    exact ⟨ledger, none, issued.assign_known known, issued⟩
  · rename_i new
    obtain ⟨notRoot, notMember⟩ := not_or.mp new
    obtain ⟨later, assigned, after⟩ := issued.assign_new notRoot inRange notMember
    exact ⟨later, some ledger.next, assigned, after⟩

/-! ### What the ledger tells at the end -/

theorem unassigned_eq (issued : Issued ledger count order) :
    ledger.unassigned = (List.range' 1 count).filter fun task => decide (task ∉ order) := by
  unfold unassigned
  rw [issued.size, List.range_eq_range', List.drop_range']
  apply List.filter_congr
  intro task _
  rw [Bool.eq_iff_iff, Bool.not_eq_true', ← Bool.not_eq_true, issued.isAssigned_iff]
  simp

theorem slots_eq (issued : Issued ledger count order) :
    ledger.slots.toList.drop 1 = (List.range' 1 count).map fun task =>
      if task ∈ order then some (count - order.idxOf task) else none := by
  have whole : ledger.slots.toList = (List.range (count + 1)).map fun task =>
      if task ∈ order then some (count - order.idxOf task) else none := by
    apply List.ext_getElem?
    intro v
    rw [Array.getElem?_toList, List.getElem?_map]
    by_cases inRange : v ≤ count
    · rw [issued.slot_eq inRange, List.getElem?_range (Nat.lt_succ_of_le inRange)]
      rfl
    · have beyond : count + 1 ≤ v := Nat.lt_of_not_le inRange
      rw [Array.getElem?_eq_none (by rw [issued.size]; exact beyond),
        List.getElem?_eq_none (by rw [List.length_range]; exact beyond)]
      rfl
  rw [whole, ← List.map_drop, List.range_eq_range', List.drop_range']
  rfl

end Issued

/-- The ledgers that calls on a fresh ledger lead to, in whatever order nodes
are met and however often. -/
inductive Reached (count : Nat) : Ledger → Prop
  | fresh : Reached count (ofTaskCount count)
  | assigned {ledger later : Ledger} {node : NodeId} {given : Option Priority}
      (before : Reached count ledger) (call : ledger.assign node = .ok (later, given)) :
      Reached count later

/-- Such a ledger is the order in which its nodes were met. -/
theorem Reached.exists_issued (reached : Reached count ledger) :
    ∃ order, Issued ledger count order := by
  induction reached with
  | fresh => exact ⟨[], issued_ofTaskCount count⟩
  | @assigned ledger later node given _ call inductionHypothesis =>
      obtain ⟨order, issued⟩ := inductionHypothesis
      by_cases inRange : node ≤ count
      · obtain ⟨_, _, assigned, after⟩ := issued.assign_ok inRange
        rw [call] at assigned
        cases assigned
        exact ⟨_, after⟩
      · rw [issued.assign_unknown (Nat.lt_of_not_le inRange)] at call
        cases call

end DagScheduling.Ledger
