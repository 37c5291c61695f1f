/-
Module: DagScheduling.Proofs.Dispatch.Turns
Purpose: The order in which pending tasks take their turns: each task once, highest priority
  first, equal priorities in the order in which the tasks first stand.
Main exports: turns, turns_of_next, mem_turns, nodup_turns, unserved, turns_unserved,
  filter_notMem_append
-/
import DagScheduling.Dispatch.Binding
import DagScheduling.Proofs.StableSort

namespace DagScheduling

variable {priorityOf : TaskId → Priority} {pending : List TaskId} {task : TaskId}

/-- The pending tasks in the order of their turns: each at its first occurrence,
then stably sorted by descending priority. -/
def turns (priorityOf : TaskId → Priority) (pending : List TaskId) : List TaskId :=
  pending.eraseDups.mergeSort fun first second => priorityOf second ≤ priorityOf first

private theorem preorders_priority (priorityOf : TaskId → Priority) :
    Preorders fun first second => decide (priorityOf second ≤ priorityOf first) where
  trans := by
    intro a b c one two
    simp only [decide_eq_true_eq] at one two ⊢
    exact Nat.le_trans two one
  total := by
    intro a b
    simpa using Nat.le_total (priorityOf b) (priorityOf a)

@[simp] theorem turns_nil : turns priorityOf [] = [] := by
  simp [turns]

@[simp] theorem mem_turns : task ∈ turns priorityOf pending ↔ task ∈ pending := by
  simp [turns]

theorem length_turns : (turns priorityOf pending).length = pending.eraseDups.length :=
  List.length_mergeSort _

theorem nextTask?_eq_none_iff : nextTask? priorityOf pending = none ↔ pending = [] :=
  champion?_eq_none_iff

/-- Leaving out a task leaves the first occurrences of the others as they are. -/
private theorem eraseDups_withoutTask {before : List TaskId} (after : List TaskId)
    (new : task ∉ before) :
    ∃ later, (before ++ task :: after).eraseDups = before.eraseDups ++ task :: later ∧
      (withoutTask task (before ++ task :: after)).eraseDups = before.eraseDups ++ later := by
  have keeps : before.filter (fun other => other != task) = before := by
    apply List.filter_eq_self.mpr
    intro other member
    have different : other ≠ task := fun same => new (same ▸ member)
    simpa using different
  refine ⟨((after.removeAll before).filter fun other => other != task).eraseDups, ?_, ?_⟩
  · have first : (task :: after).removeAll before = task :: after.removeAll before := by
      simp [List.removeAll, new]
    rw [List.eraseDups_append, first, List.eraseDups_cons]
    rfl
  · have commute : (after.filter fun other => other != task).removeAll before =
        (after.removeAll before).filter fun other => other != task := by
      simp [List.removeAll, Bool.and_comm]
    simp [withoutTask, keeps, List.eraseDups_append, commute]

/-- Whose turn is next comes first, and leaving that task out leaves the order
of the others as it is. -/
theorem turns_of_next (chosen : nextTask? priorityOf pending = some task) :
    turns priorityOf pending = task :: turns priorityOf (withoutTask task pending) := by
  have order := preorders_priority priorityOf
  simp only [nextTask?, ← Nat.not_le, decide_not] at chosen
  obtain ⟨before, after, rfl, place⟩ := champion?_split order chosen
  have new : task ∉ before := by
    intro earlier
    simpa using place.beats task earlier
  obtain ⟨later, distinct, others⟩ := eraseDups_withoutTask after new
  have placeOfDistinct : FirstBest
      (fun first second => decide (priorityOf second ≤ priorityOf first))
      before.eraseDups task later := by
    refine ⟨fun other member => place.beats other (List.mem_eraseDups.mp member), ?_⟩
    intro other member
    apply place.le_of_mem order
    rw [← List.mem_eraseDups, distinct]
    exact List.mem_append_right _ (List.mem_cons_of_mem task member)
  rw [turns, turns, distinct, others]
  exact placeOfDistinct.mergeSort_eq order

/-- What holds once nothing is pending, and of a pending list once it holds
without the next task, holds of every pending list. -/
theorem turns_induction {motive : List TaskId → Prop} (priorityOf : TaskId → Priority)
    (done : motive [])
    (next : ∀ pending task, nextTask? priorityOf pending = some task →
      motive (withoutTask task pending) → motive pending)
    (pending : List TaskId) : motive pending := by
  induction waiting : pending.length using Nat.strongRecOn generalizing pending with
  | ind _ inductionHypothesis =>
      cases chosen : nextTask? priorityOf pending with
      | none => exact nextTask?_eq_none_iff.mp chosen ▸ done
      | some task =>
          have fewer := length_withoutTask_lt (champion?_mem chosen)
          exact next pending task chosen (inductionHypothesis _ (waiting ▸ fewer) _ rfl)

theorem nodup_turns (priorityOf : TaskId → Priority) (pending : List TaskId) :
    (turns priorityOf pending).Nodup := by
  induction pending using turns_induction priorityOf with
  | done => simp
  | next pending task chosen inductionHypothesis =>
      rw [turns_of_next chosen]
      exact List.nodup_cons.mpr ⟨by simp [withoutTask], inductionHypothesis⟩

/-! ### After some turns -/

theorem filter_notMem_append (items first second : List TaskId) :
    (items.filter fun task => task ∉ first ++ second) =
      (items.filter fun task => task ∉ first).filter fun task => task ∉ second := by
  rw [List.filter_filter]
  apply List.filter_congr
  intro task _
  rw [Bool.eq_iff_iff]
  simp [and_comm]

/-- The pending tasks without the first few in the order of their turns. -/
def unserved (priorityOf : TaskId → Priority) (served : Nat) (pending : List TaskId) :
    List TaskId :=
  pending.filter fun task => task ∉ (turns priorityOf pending).take served

theorem unserved_succ (chosen : nextTask? priorityOf pending = some task) (served : Nat) :
    unserved priorityOf (served + 1) pending =
      unserved priorityOf served (withoutTask task pending) := by
  rw [unserved, unserved, turns_of_next chosen, List.take_succ_cons, withoutTask,
    List.filter_filter]
  apply List.filter_congr
  intro other _
  rw [Bool.eq_iff_iff]
  simp [and_comm]

/-- Once the first tasks have had their turns, the others keep their order. -/
theorem turns_unserved (priorityOf : TaskId → Priority) (served : Nat) (pending : List TaskId) :
    turns priorityOf (unserved priorityOf served pending) =
      (turns priorityOf pending).drop served := by
  induction pending using turns_induction priorityOf generalizing served with
  | done => simp [unserved]
  | next pending task chosen inductionHypothesis =>
      cases served with
      | zero => simp [unserved]
      | succ served =>
          rw [unserved_succ chosen, inductionHypothesis, turns_of_next chosen, List.drop_succ_cons]

end DagScheduling
