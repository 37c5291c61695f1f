/-
Module: DagScheduling.Proofs.Log.Lines
Purpose: What can be read off the lines of a log: the level from the tag that a line begins with,
  and from the words behind it which task got which priority and which task left the graph.
Main exports: Opens, Event.line_eq, shownByTag, shownByTag_line, assignmentLine, removalLine,
  removalLine_injective, assignmentLines, removalLines
-/
import DagScheduling.Log.Event
import DagScheduling.Priority.Priorities

namespace DagScheduling

variable {text other line : String} {event : Event} {task : TaskId} {priority : Priority}

/-! ### How lines begin -/

/-- The line begins with the given text. -/
def Opens (text line : String) : Prop :=
  text.toList <+: line.toList

instance : Decidable (Opens text line) :=
  inferInstanceAs (Decidable (_ <+: _))

theorem Opens.append (text rest : String) : Opens text (text ++ rest) := by
  rw [Opens, String.toList_append]
  exact List.prefix_append _ _

theorem Opens.trans (short : Opens text other) (long : Opens other line) : Opens text line :=
  List.IsPrefix.trans short long

/-- Of two texts that one line begins with, one begins with the other. -/
theorem Opens.either (one : Opens text line) (two : Opens other line) :
    Opens text other ∨ Opens other text :=
  List.prefix_or_prefix_of_prefix one two

/-! ### Levels -/

/-- What the lines of a level begin with. -/
def Level.opening : Level → String
  | .changes => "[iwd-sched changes] "
  | .checks => "[iwd-sched checks] "
  | .debug => "[iwd-sched debug] "

theorem Event.line_eq (event : Event) : event.line = event.level.opening ++ event.text := by
  show s!"[iwd-sched {event.level.tag}] " ++ event.text = _
  cases event.level <;> rfl

theorem Event.opens_iff (event : Event) (level : Level) :
    Opens level.opening event.line ↔ event.level = level := by
  have distinct : ∀ one two : Level, Opens one.opening two.opening → two = one := by
    intro one two
    cases one <;> cases two <;> decide
  have own : Opens event.level.opening event.line := by
    rw [event.line_eq]
    exact .append _ _
  constructor
  · intro opens
    rcases opens.either own with within | around
    · exact distinct _ _ within
    · exact (distinct _ _ around).symm
  · intro isLevel
    rw [← isLevel]
    exact own

/-- Whether a line is to be read at a verbosity, told by its tag: changes from 1
on, checks from 2 on, and the inner state of a ranking from 3 on. -/
def shownByTag (verbosity : Verbosity) (line : String) : Bool :=
  Opens Level.changes.opening line ∧ 1 ≤ verbosity ∨
    Opens Level.checks.opening line ∧ 2 ≤ verbosity ∨
    Opens Level.debug.opening line ∧ 3 ≤ verbosity

theorem shownByTag_line (verbosity : Verbosity) (event : Event) :
    shownByTag verbosity event.line = event.level.shownAt verbosity := by
  rw [shownByTag, Level.shownAt, decide_eq_decide]
  simp only [Event.opens_iff]
  cases event.level <;> simp [Level.threshold]

/-! ### Priorities given and tasks removed -/

/-- What the lines begin with on which a task gets its priority. -/
def assignmentOpening : String :=
  "[iwd-sched changes]   Assigned priority "

/-- What the lines begin with on which a task leaves the graph. -/
def removalOpening : String :=
  "[iwd-sched changes]   Removed task "

/-- The line on which a task gets its priority. -/
def assignmentLine (task : TaskId) (priority : Priority) : String :=
  assignmentOpening ++ s!"{priority} to task {task}"

/-- The line on which a task leaves the graph. -/
def removalLine (task : TaskId) : String :=
  removalOpening ++ s!"{task} from graph"

/-- The lines on which tasks get their priorities, in order. -/
def assignmentLines (lines : List String) : List String :=
  lines.filter fun line => Opens assignmentOpening line

/-- The lines on which tasks leave the graph, in order. -/
def removalLines (lines : List String) : List String :=
  lines.filter fun line => Opens removalOpening line

theorem Event.line_priorityAssigned :
    (Event.priorityAssigned task priority).line = assignmentLine task priority := by
  rw [Event.line_eq]
  show "[iwd-sched changes] " ++ s!"  Assigned priority {priority} to task {task}" = _
  simp only [assignmentLine, ← String.append_assoc]
  rfl

theorem Event.line_taskRemoved : (Event.taskRemoved task).line = removalLine task := by
  rw [Event.line_eq]
  show "[iwd-sched changes] " ++ s!"  Removed task {task} from graph" = _
  simp only [removalLine, ← String.append_assoc]
  rfl

/-- A line tells which task has left. -/
theorem removalLine_injective : Function.Injective removalLine := by
  intro one two same
  have said := (String.append_right_inj removalOpening).mp same
  have digits : one.repr.toList = two.repr.toList :=
    congrArg String.toList ((String.append_left_inj " from graph").mp said)
  rw [Nat.toList_repr, Nat.toList_repr] at digits
  calc one = Nat.ofDigitChars 10 (Nat.toDigits 10 one) 0 := Nat.ofDigitChars_ten_toDigits.symm
    _ = Nat.ofDigitChars 10 (Nat.toDigits 10 two) 0 := by rw [digits]
    _ = two := Nat.ofDigitChars_ten_toDigits

/-! ### Reading line after line -/

section Reading

variable (lines : List String)

private theorem not_opens_assignmentLine :
    ¬ Opens removalOpening (assignmentLine task priority) := by
  intro opens
  exact absurd (opens.either (.append assignmentOpening _)) (by decide)

private theorem not_opens_removalLine : ¬ Opens assignmentOpening (removalLine task) := by
  intro opens
  exact absurd (opens.either (.append removalOpening _)) (by decide)

/-- No line of another level begins like one that tells of a change. -/
private theorem not_opens_of_aside (aside : event.level ≠ .changes)
    (change : Opens Level.changes.opening text) : ¬ Opens text event.line :=
  fun opens => aside ((event.opens_iff .changes).mp (change.trans opens))

@[simp] theorem assignmentLines_assigned :
    assignmentLines ((Event.priorityAssigned task priority).line :: lines) =
      assignmentLine task priority :: assignmentLines lines := by
  rw [Event.line_priorityAssigned]
  exact List.filter_cons_of_pos (decide_eq_true (.append assignmentOpening _))

@[simp] theorem assignmentLines_removed :
    assignmentLines ((Event.taskRemoved task).line :: lines) = assignmentLines lines := by
  rw [Event.line_taskRemoved]
  exact List.filter_cons_of_neg (mt of_decide_eq_true not_opens_removalLine)

@[simp] theorem removalLines_assigned :
    removalLines ((Event.priorityAssigned task priority).line :: lines) = removalLines lines := by
  rw [Event.line_priorityAssigned]
  exact List.filter_cons_of_neg (mt of_decide_eq_true not_opens_assignmentLine)

@[simp] theorem removalLines_removed :
    removalLines ((Event.taskRemoved task).line :: lines) =
      removalLine task :: removalLines lines := by
  rw [Event.line_taskRemoved]
  exact List.filter_cons_of_pos (decide_eq_true (.append removalOpening _))

theorem assignmentLines_aside (aside : event.level ≠ .changes) :
    assignmentLines (event.line :: lines) = assignmentLines lines :=
  List.filter_cons_of_neg (mt of_decide_eq_true (not_opens_of_aside aside (by decide)))

theorem removalLines_aside (aside : event.level ≠ .changes) :
    removalLines (event.line :: lines) = removalLines lines :=
  List.filter_cons_of_neg (mt of_decide_eq_true (not_opens_of_aside aside (by decide)))

theorem ne_removalLine_of_aside (aside : event.level ≠ .changes) :
    event.line ≠ removalLine task := by
  intro same
  have opens : Opens removalOpening (removalLine task) := .append _ _
  rw [← same] at opens
  exact not_opens_of_aside aside (by decide) opens

theorem assignmentLine_ne_removalLine {other : TaskId} :
    assignmentLine task priority ≠ removalLine other := by
  intro same
  have opens : Opens assignmentOpening (assignmentLine task priority) := .append _ _
  rw [same] at opens
  exact not_opens_removalLine opens

end Reading

end DagScheduling
