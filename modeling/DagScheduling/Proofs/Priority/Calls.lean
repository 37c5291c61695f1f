/-
Module: DagScheduling.Proofs.Priority.Calls
Purpose: A fresh ledger under calls in any order. The tasks get descending priorities in the order
  in which they are first named, every other call leaves the ledger as it is, and the counter tells
  how many slots are free.
Main exports: Ledger.afterCalls, Ledger.issues, Ledger.firstNamed, Ledger.Issued.call_cases,
  Ledger.Issued.assign_eq, Ledger.Issued.afterCalls, Ledger.Issued.toPriorities_ok,
  Ledger.calls_issue_descending
-/
import DagScheduling.Proofs.FirstOccurrences
import DagScheduling.Proofs.Priority.Order

namespace DagScheduling.Ledger

variable {ledger : Ledger} {count : Nat} {order : List NodeId} {v : NodeId}

/-- The ledger after a call. A call that fails leaves it as it is. -/
def afterCall (ledger : Ledger) (node : NodeId) : Ledger :=
  match ledger.assign node with
  | .ok (later, _) => later
  | .error _ => ledger

/-- The ledger after a run of calls. -/
def afterCalls (ledger : Ledger) (calls : List NodeId) : Ledger :=
  calls.foldl afterCall ledger

/-- The priority that a call issues, with its node; nothing if it issues none. -/
def issue (ledger : Ledger) (node : NodeId) : List (NodeId × Priority) :=
  match ledger.assign node with
  | .ok (_, some priority) => [(node, priority)]
  | _ => []

/-- The priorities that a run of calls issues, each with its node, in the order of the calls. -/
def issues (ledger : Ledger) : List NodeId → List (NodeId × Priority)
  | [] => []
  | node :: rest => ledger.issue node ++ (ledger.afterCall node).issues rest

/-- The calls that name one of the tasks `1..=count`. -/
def tasksNamed (count : Nat) (calls : List NodeId) : List NodeId :=
  calls.filter fun node => 1 ≤ node ∧ node ≤ count

/-- The tasks that calls name, each where it is first named. -/
def firstNamed (count : Nat) (calls : List NodeId) : List NodeId :=
  (tasksNamed count calls).eraseDups

theorem mem_firstNamed {calls : List NodeId} :
    v ∈ firstNamed count calls ↔ v ∈ calls ∧ 1 ≤ v ∧ v ≤ count := by
  simp [firstNamed, tasksNamed]

/-- Nodes met before do not lengthen the order. -/
theorem metAll_of_known {steps : List NodeId} (known : ∀ w ∈ steps, w = root ∨ w ∈ order) :
    metAll order steps = order := by
  have none : (steps.filter fun w => ¬ (w = root ∨ w ∈ order)) = [] := by
    apply List.filter_eq_nil_iff.mpr
    intro w member
    simpa [or_iff_not_imp_left] using known w member
  rw [metAll_eq, none, List.eraseDups_nil, List.append_nil]

theorem metAll_tasksNamed (count : Nat) (calls : List NodeId) :
    metAll [] (tasksNamed count calls) = firstNamed count calls := by
  apply metAll_nil_of_notMem
  simp [tasksNamed, root]

namespace Issued

/-! ### One call -/

/-- All that a call can come to: nothing for the root and for a node that has its priority, a
refusal for a number without a slot, and the next priority for any other task. -/
theorem call_cases (issued : Issued ledger count order) (v : NodeId) :
    ((v = root ∨ v ∈ order) ∧ ledger.assign v = .ok (ledger, none)) ∨
    (count < v ∧ ledger.assign v = .error (.unknownNode v)) ∨
    (v ∉ order ∧ 1 ≤ v ∧ v ≤ count ∧
      ∃ later, ledger.assign v = .ok (later, some ledger.next) ∧
        Issued later count (order ++ [v])) := by
  by_cases known : v = root ∨ v ∈ order
  · exact Or.inl ⟨known, issued.assign_known known⟩
  · obtain ⟨notRoot, new⟩ := not_or.mp known
    rcases Nat.lt_or_ge count v with beyond | inRange
    · exact Or.inr (Or.inl ⟨beyond, issued.assign_unknown beyond⟩)
    · exact Or.inr (Or.inr ⟨new, Nat.pos_of_ne_zero notRoot, inRange,
        issued.assign_new notRoot inRange new⟩)

/-- The answer to a call. The counter is never found at zero. -/
theorem assign_eq (issued : Issued ledger count order) (v : NodeId) :
    ledger.assign v =
      if v = root ∨ ledger.isAssigned v = true then .ok (ledger, none)
      else if count < v then .error (.unknownNode v)
      else .ok (ledger.afterCall v, some ledger.next) := by
  simp only [issued.isAssigned_iff]
  rcases issued.call_cases v with
    ⟨known, call⟩ | ⟨beyond, call⟩ | ⟨new, positive, inRange, later, call, -⟩
  · rw [if_pos known, call]
  · have unknown : ¬ (v = root ∨ v ∈ order) := by
      rintro (isRoot | old)
      · rw [isRoot] at beyond
        exact Nat.not_lt_zero count beyond
      · exact Nat.not_lt.mpr (issued.inRange v old).2 beyond
    rw [if_neg unknown, if_pos beyond, call]
  · have unknown : ¬ (v = root ∨ v ∈ order) := not_or.mpr ⟨Nat.ne_of_gt positive, new⟩
    rw [if_neg unknown, if_neg (Nat.not_lt.mpr inRange), Ledger.afterCall, call]

/-- Only a call that names a task without a priority changes the ledger. -/
theorem afterCall_eq (issued : Issued ledger count order)
    (idle : v = root ∨ ledger.isAssigned v = true ∨ count < v) : ledger.afterCall v = ledger := by
  rw [issued.isAssigned_iff, ← or_assoc] at idle
  rcases idle with known | beyond
  · rw [Ledger.afterCall, issued.assign_known known]
  · rw [Ledger.afterCall, issued.assign_unknown beyond]

/-- A call meets its node if that is a task. The nodes met before it, followed by the one that it
gives a priority, are those met after it, and the priorities go down along them. -/
theorem afterCall (issued : Issued ledger count order) (v : NodeId) :
    Issued (ledger.afterCall v) count (metAll order (tasksNamed count [v])) ∧
      (order.mapIdx fun place node => (node, count - place)) ++ ledger.issue v =
        (metAll order (tasksNamed count [v])).mapIdx fun place node => (node, count - place) := by
  rcases issued.call_cases v with
    ⟨known, call⟩ | ⟨beyond, call⟩ | ⟨new, positive, inRange, later, call, after⟩
  · have order_eq : metAll order (tasksNamed count [v]) = order := by
      apply metAll_of_known
      intro w member
      rw [List.mem_singleton.mp (List.mem_of_mem_filter member)]
      exact known
    rw [order_eq, issue, Ledger.afterCall, call, List.append_nil]
    exact ⟨issued, rfl⟩
  · have order_eq : metAll order (tasksNamed count [v]) = order := by
      simp [tasksNamed, Nat.not_le.mpr beyond, metAll]
    rw [order_eq, issue, Ledger.afterCall, call, List.append_nil]
    exact ⟨issued, rfl⟩
  · have order_eq : metAll order (tasksNamed count [v]) = order ++ [v] := by
      have notRoot : v ≠ root := Nat.ne_of_gt positive
      simp [tasksNamed, positive, inRange, metAll, met, notRoot, new]
    have value : ledger.next = count - order.length := Nat.eq_sub_of_add_eq issued.next
    rw [order_eq, issue, Ledger.afterCall, call, value, List.mapIdx_concat]
    exact ⟨after, rfl⟩

/-! ### A run of calls -/

/-- The same over a run of calls. -/
theorem afterCalls (issued : Issued ledger count order) (calls : List NodeId) :
    Issued (ledger.afterCalls calls) count (metAll order (tasksNamed count calls)) ∧
      (order.mapIdx fun place node => (node, count - place)) ++ ledger.issues calls =
        (metAll order (tasksNamed count calls)).mapIdx fun place node => (node, count - place) := by
  induction calls generalizing ledger order with
  | nil => exact ⟨issued, List.append_nil _⟩
  | cons node rest inductionHypothesis =>
      have split : tasksNamed count (node :: rest) =
          tasksNamed count [node] ++ tasksNamed count rest :=
        List.filter_append [node] rest
      obtain ⟨after, given⟩ := issued.afterCall node
      obtain ⟨afterRest, givenRest⟩ := inductionHypothesis after
      rw [split, metAll_append]
      refine ⟨afterRest, ?_⟩
      rw [issues, ← List.append_assoc, given, givenRest]

/-! ### What the ledger tells -/

/-- The counter tells how many tasks have no priority. -/
theorem next_eq (issued : Issued ledger count order) :
    ledger.next = (List.range' 1 count).countP fun task => !ledger.isAssigned task := by
  have ranked : ((List.range' 1 count).filter ledger.isAssigned).Perm order := by
    apply (List.perm_ext_iff_of_nodup ((List.nodup_range' 1).filter _) issued.nodup).mpr
    intro v
    rw [List.mem_filter, mem_range'_one, issued.isAssigned_iff]
    constructor
    · exact And.right
    · intro member
      obtain ⟨notRoot, inRange⟩ := issued.inRange v member
      exact ⟨⟨Nat.pos_of_ne_zero notRoot, inRange⟩, member⟩
  have both := List.length_eq_countP_add_countP ledger.isAssigned (l := List.range' 1 count)
  rw [List.length_range', List.countP_eq_length_filter, ranked.length_eq] at both
  have counter := issued.next
  simp only [Bool.not_eq_true, Bool.decide_eq_false] at both
  lia

/-- The nodes met are all tasks just in case every task is among them. -/
theorem complete_iff (issued : Issued ledger count order) :
    order.Perm (List.range' 1 count) ↔ ∀ task, 1 ≤ task → task ≤ count → task ∈ order := by
  rw [List.perm_ext_iff_of_nodup issued.nodup (List.nodup_range' 1)]
  constructor
  · intro same task positive inRange
    exact (same task).mpr (mem_range'_one.mpr ⟨positive, inRange⟩)
  · intro all task
    rw [mem_range'_one]
    constructor
    · intro member
      obtain ⟨notRoot, inRange⟩ := issued.inRange task member
      exact ⟨Nat.pos_of_ne_zero notRoot, inRange⟩
    · exact fun isTask => all task isTask.1 isTask.2

/-- Once every task has been met, the priorities are complete, and go down along the order. -/
theorem toPriorities_ok (issued : Issued ledger count order)
    (complete : order.Perm (List.range' 1 count)) :
    ∃ priorities, ledger.toPriorities = .ok priorities ∧ priorities.ranked = order ∧
      ∀ (place : Nat) (task : TaskId), order[place]? = some task →
        priorities.get? task = some (count - place) := by
  have length : order.length = count := length_of_complete complete
  have completeByLength : order.Perm (List.range' 1 order.length) := length.symm ▸ complete
  refine ⟨_, issued.toPriorities_eq complete, Priorities.ranked_ofOrder completeByLength, ?_⟩
  intro place task there
  rw [Priorities.get?_ofOrder_of_getElem? completeByLength there, length]

/-- Where a task has not been met there are no complete priorities. -/
theorem toPriorities_error (issued : Issued ledger count order)
    (incomplete : ¬ order.Perm (List.range' 1 count)) :
    ledger.toPriorities = .error
      (.incompletePriorities ((List.range' 1 count).filter fun task => decide (task ∉ order))) := by
  rw [toPriorities, issued.unassigned_eq]
  split
  · rename_i noneMissing
    refine absurd (issued.complete_iff.mpr ?_) incomplete
    intro task positive inRange
    have met := List.filter_eq_nil_iff.mp noneMissing task
      (mem_range'_one.mpr ⟨positive, inRange⟩)
    simpa using met
  · rfl

end Issued

/-- Whatever nodes are named to a fresh ledger, the priorities go down one by one from the number
of tasks, and they go to the tasks in the order in which they are first named. The counter is the
number of free slots, so that it never runs out before them; naming the root, a task once more, or
a number without a slot leaves the ledger as it is. The priorities are complete as soon as every
task has been named, and sorting by them gives back the order of the names; before that the tasks
still missing are reported in ascending order. -/
theorem calls_issue_descending (count : Nat) (calls : List NodeId) :
    let order := firstNamed count calls
    let ledger := (ofTaskCount count).afterCalls calls
    (ofTaskCount count).issues calls = order.mapIdx (fun place node => (node, count - place)) ∧
      (∀ v, ledger.isAssigned v = true ↔ v ∈ order) ∧
      ledger.next + order.length = count ∧
      ledger.next = (List.range' 1 count).countP (fun task => !ledger.isAssigned task) ∧
      (∀ v, ledger.assign v =
        if v = root ∨ ledger.isAssigned v = true then .ok (ledger, none)
        else if count < v then .error (.unknownNode v)
        else .ok (ledger.afterCall v, some ledger.next)) ∧
      (∀ v, v = root ∨ ledger.isAssigned v = true ∨ count < v → ledger.afterCall v = ledger) ∧
      ((∃ priorities, ledger.toPriorities = .ok priorities) ↔
        ∀ task, 1 ≤ task → task ≤ count → task ∈ calls) ∧
      (∀ priorities, ledger.toPriorities = .ok priorities →
        priorities.ranked = order ∧
          ∀ (place : Nat) (task : TaskId), priorities.ranked[place]? = some task →
            priorities.get? task = some (count - place)) ∧
      ∀ cause, ledger.toPriorities = .error cause →
        cause = .incompletePriorities
          ((List.range' 1 count).filter fun task => decide (task ∉ calls)) := by
  intro order ledger
  obtain ⟨issued, issues⟩ := (issued_ofTaskCount count).afterCalls calls
  rw [metAll_tasksNamed] at issued issues
  have allNamed : order.Perm (List.range' 1 count) ↔
      ∀ task, 1 ≤ task → task ≤ count → task ∈ calls := by
    rw [issued.complete_iff]
    simp only [mem_firstNamed]
    exact forall_congr' fun task => by tauto
  refine ⟨issues, fun v => issued.isAssigned_iff, issued.next, issued.next_eq, issued.assign_eq,
    fun v idle => issued.afterCall_eq idle, ?_⟩
  rw [← allNamed]
  by_cases complete : order.Perm (List.range' 1 count)
  · obtain ⟨priorities, given, ranked, values⟩ := issued.toPriorities_ok complete
    refine ⟨⟨fun _ => complete, fun _ => ⟨_, given⟩⟩, ?_, ?_⟩
    · intro other isGiven
      cases given.symm.trans isGiven
      rw [ranked]
      exact ⟨rfl, values⟩
    · intro cause refused
      cases given.symm.trans refused
  · have refused := issued.toPriorities_error complete
    refine ⟨⟨?_, fun all => absurd all complete⟩, ?_, ?_⟩
    · rintro ⟨priorities, given⟩
      cases refused.symm.trans given
    · intro priorities given
      cases refused.symm.trans given
    · intro cause isRefused
      cases refused.symm.trans isRefused
      congr 1
      apply List.filter_congr
      intro task member
      simp [mem_firstNamed, mem_range'_one.mp member]

/-- Task 1 is never named; the root, a number beyond the tasks and a repetition get nothing. -/
example :
    let ledger := (ofTaskCount 3).afterCalls [2, 0, 9, 2, 3]
    (ofTaskCount 3).issues [2, 0, 9, 2, 3] = [(2, 3), (3, 2)] ∧ ledger.next = 1 ∧
      ledger.toPriorities = .error (.incompletePriorities [1]) := by
  decide +kernel

end DagScheduling.Ledger
