/-
Module: DagScheduling.Proofs.Ranking.Finalizing
Purpose: The order in which a ranking is done with its nodes. Its events tell which node is ranked
  and which leaf is deleted; from what each of the two needs it follows that every node below
  the root is ranked before it is deleted, and deleted after all its children.
Main exports: rankings, removals, Aside, Finalizing, Finalizing.trans, Finalizing.exists_between,
  LeavesFirst, Finalizing.leavesFirst, ShowsLeavesFirst, LeavesFirst.shows
-/
import DagScheduling.Proofs.Graph.Paths
import DagScheduling.Proofs.Log.Lines
import DagScheduling.Proofs.Priority.Issuing
import DagScheduling.Ranking.Course

namespace DagScheduling

open DagScheduling.Graph (SameShape Deleted)

variable {events before after : List Event} {event : Event} {start middle final : Standing}
  {graph later : Graph} {ledger : Ledger} {count : Nat} {v w : NodeId} {priority : Priority}

/-! ### What the events tell -/

/-- The task that an event gives its priority, and the priority. -/
def Event.ranking? : Event → Option (TaskId × Priority)
  | .priorityAssigned task priority => some (task, priority)
  | _ => none

/-- The task that leaves the graph with an event. -/
def Event.removal? : Event → Option TaskId
  | .taskRemoved task => some task
  | _ => none

/-- The tasks ranked in a log with their priorities, in order. -/
def rankings (events : List Event) : List (TaskId × Priority) :=
  events.filterMap Event.ranking?

/-- The tasks that leave the graph in a log, in order. -/
def removals (events : List Event) : List TaskId :=
  events.filterMap Event.removal?

theorem mem_removals : v ∈ removals events ↔ .taskRemoved v ∈ events := by
  simp only [removals, List.mem_filterMap]
  constructor
  · intro found
    obtain ⟨event, member, tells⟩ := found
    cases event <;> cases tells
    exact member
  · intro member
    exact ⟨_, member, rfl⟩

theorem mem_rankings : (v, priority) ∈ rankings events ↔ .priorityAssigned v priority ∈ events := by
  simp only [rankings, List.mem_filterMap]
  constructor
  · intro found
    obtain ⟨event, member, tells⟩ := found
    cases event <;> cases tells
    exact member
  · intro member
    exact ⟨_, member, rfl⟩

theorem Level.checks_ne_changes : Level.checks ≠ .changes := by decide

theorem Level.debug_ne_changes : Level.debug ≠ .changes := by decide

/-- The events tell of nothing that a ranking changes in its graph or its ledger. -/
def Aside (events : List Event) : Prop :=
  ∀ event ∈ events, event.level ≠ .changes

theorem Aside.append (first : Aside before) (second : Aside after) : Aside (before ++ after) :=
  List.forall_mem_append.mpr ⟨first, second⟩

section Reading

variable (events : List Event) (task : TaskId) (priority : Priority)

@[simp] theorem rankings_assigned :
    rankings (.priorityAssigned task priority :: events) = (task, priority) :: rankings events :=
  rfl

@[simp] theorem rankings_removed : rankings (.taskRemoved task :: events) = rankings events :=
  rfl

@[simp] theorem removals_assigned :
    removals (.priorityAssigned task priority :: events) = removals events :=
  rfl

@[simp] theorem removals_removed :
    removals (.taskRemoved task :: events) = task :: removals events :=
  rfl

variable {event : Event} (aside : event.level ≠ .changes)
include aside

theorem rankings_aside : rankings (event :: events) = rankings events := by
  apply List.filterMap_cons_none
  cases event <;> first | rfl | exact absurd rfl aside

theorem removals_aside : removals (event :: events) = removals events := by
  apply List.filterMap_cons_none
  cases event <;> first | rfl | exact absurd rfl aside

end Reading

/-! ### The steps of a ranking -/

/-- From one standing to another a ranking gives nodes below the root their
priorities and deletes ranked leaves below the root, and the events tell of each.
Weights may change on the way, and further events may tell of other things. -/
inductive Finalizing : Standing → List Event → Standing → Prop
  | done {graph later : Graph} {ledger : Ledger} (same : SameShape graph later) :
      Finalizing ⟨graph, ledger⟩ [] ⟨later, ledger⟩
  | aside {start final : Standing} {event : Event} {events : List Event}
      (aside : event.level ≠ .changes) (rest : Finalizing start events final) :
      Finalizing start (event :: events) final
  | ranked {graph : Graph} {ledger later : Ledger} {final : Standing} {v : NodeId}
      {priority : Priority} {events : List Event} (below : graph.Below root v)
      (issued : ledger.assign v = .ok (later, some priority))
      (rest : Finalizing ⟨graph, later⟩ events final) :
      Finalizing ⟨graph, ledger⟩ (.priorityAssigned v priority :: events) final
  | removed {graph later : Graph} {ledger : Ledger} {final : Standing} {v : NodeId}
      {events : List Event} (below : graph.Below root v) (bare : graph.childrenOf v = [])
      (known : ledger.isAssigned v = true) (deleted : Deleted graph v later)
      (rest : Finalizing ⟨later, ledger⟩ events final) :
      Finalizing ⟨graph, ledger⟩ (.taskRemoved v :: events) final

namespace Finalizing

theorem refl (standing : Standing) : Finalizing standing [] standing :=
  .done (.refl standing.graph)

/-- Weights change nothing about what can be ranked and deleted. -/
theorem of_sameShape (finalizing : Finalizing ⟨later, ledger⟩ events final)
    (same : SameShape graph later) : Finalizing ⟨graph, ledger⟩ events final := by
  generalize isStart : Standing.mk later ledger = start at finalizing
  induction finalizing generalizing ledger with
  | done sameFinal =>
      cases isStart
      exact .done (same.trans sameFinal)
  | aside quiet _ inductionHypothesis => exact .aside quiet (inductionHypothesis isStart)
  | ranked below issued _ inductionHypothesis =>
      cases isStart
      rw [same.below_eq] at below
      exact .ranked below issued (inductionHypothesis rfl)
  | removed below bare known deleted rest _ =>
      cases isStart
      rw [same.below_eq] at below
      rw [same.childrenOf] at bare
      exact .removed below bare known (deleted.of_sameShape same) rest

theorem trans (first : Finalizing start before middle) (second : Finalizing middle after final) :
    Finalizing start (before ++ after) final := by
  induction first with
  | done same => exact second.of_sameShape same
  | aside quiet _ inductionHypothesis => exact .aside quiet (inductionHypothesis second)
  | ranked below issued _ inductionHypothesis =>
      exact .ranked below issued (inductionHypothesis second)
  | removed below bare known deleted _ inductionHypothesis =>
      exact .removed below bare known deleted (inductionHypothesis second)

/-- Events that tell of other things go with no change. -/
theorem asides (standing : Standing) (aside : Aside events) :
    Finalizing standing events standing := by
  induction events with
  | nil => exact .refl standing
  | cons event rest inductionHypothesis =>
      obtain ⟨first, others⟩ := List.forall_mem_cons.mp aside
      exact .aside first (inductionHypothesis others)

/-- Part of the events leads to a standing between. -/
theorem exists_between (finalizing : Finalizing start (before ++ after) final) :
    ∃ middle, Finalizing start before middle ∧ Finalizing middle after final := by
  induction before generalizing start with
  | nil => exact ⟨start, .refl start, finalizing⟩
  | cons event rest inductionHypothesis =>
      cases finalizing with
      | aside quiet others =>
          obtain ⟨middle, first, second⟩ := inductionHypothesis others
          exact ⟨middle, .aside quiet first, second⟩
      | ranked below issued others =>
          obtain ⟨middle, first, second⟩ := inductionHypothesis others
          exact ⟨middle, .ranked below issued first, second⟩
      | removed below bare known deleted others =>
          obtain ⟨middle, first, second⟩ := inductionHypothesis others
          exact ⟨middle, .removed below bare known deleted first, second⟩

/-! ### What has changed after the events -/

theorem child_iff (finalizing : Finalizing start events final) :
    final.graph.Child v w ↔
      start.graph.Child v w ∧ v ∉ removals events ∧ w ∉ removals events := by
  induction finalizing with
  | done same => simp [removals, same.child_eq]
  | aside quiet _ inductionHypothesis => rw [inductionHypothesis, removals_aside _ quiet]
  | ranked _ _ _ inductionHypothesis => rw [inductionHypothesis, removals_assigned]
  | removed _ _ _ deleted _ inductionHypothesis =>
      rw [inductionHypothesis, deleted.child_iff]
      simp only [removals_removed, List.mem_cons, not_or]
      tauto

/-- What is below the root is what was and has not been deleted. -/
theorem below_iff (finalizing : Finalizing start events final) :
    final.graph.Below root v ↔ start.graph.Below root v ∧ v ∉ removals events := by
  induction finalizing with
  | done same => simp [removals, same.below_eq]
  | aside quiet _ inductionHypothesis => rw [inductionHypothesis, removals_aside _ quiet]
  | ranked _ _ _ inductionHypothesis => rw [inductionHypothesis, removals_assigned]
  | removed _ bare _ deleted _ inductionHypothesis =>
      rw [inductionHypothesis, deleted.below_iff bare]
      simp only [removals_removed, List.mem_cons, not_or]
      tauto

/-- What has its priority is what had it and what has been ranked. -/
theorem isAssigned_iff (finalizing : Finalizing start events final) :
    final.ledger.isAssigned v = true ↔
      start.ledger.isAssigned v = true ∨ v ∈ (rankings events).map Prod.fst := by
  induction finalizing with
  | done => simp [rankings]
  | aside quiet _ inductionHypothesis => rw [inductionHypothesis, rankings_aside _ quiet]
  | @ranked graph ledger later final w priority events _ issued _ inductionHypothesis =>
      have known : later.isAssigned v = true ↔ v = w ∨ ledger.isAssigned v = true := by
        rcases Ledger.assign_cases issued with ⟨none, -⟩ | ⟨-, -, -, -, slots⟩
        · cases none
        · rw [Ledger.isAssigned, slots, Ledger.isAssigned]
          by_cases same : v = w <;> simp [same]
      rw [inductionHypothesis, known, rankings_assigned, List.map_cons, List.mem_cons]
      tauto
  | removed _ _ _ _ _ inductionHypothesis => rw [inductionHypothesis, rankings_removed]

/-! ### What the events tell as a whole -/

theorem below_of_ranked (finalizing : Finalizing start events final)
    (ranked : v ∈ (rankings events).map Prod.fst) : start.graph.Below root v := by
  induction finalizing with
  | done => exact absurd ranked List.not_mem_nil
  | aside quiet _ inductionHypothesis =>
      rw [rankings_aside _ quiet] at ranked
      exact inductionHypothesis ranked
  | ranked below _ _ inductionHypothesis =>
      rw [rankings_assigned, List.map_cons] at ranked
      rcases List.mem_cons.mp ranked with same | later
      · exact same ▸ below
      · exact inductionHypothesis later
  | removed _ _ _ deleted _ inductionHypothesis =>
      exact deleted.below_of_below (inductionHypothesis ranked)

theorem below_of_removed (finalizing : Finalizing start events final)
    (removed : v ∈ removals events) : start.graph.Below root v := by
  induction finalizing with
  | done => exact absurd removed List.not_mem_nil
  | aside quiet _ inductionHypothesis =>
      rw [removals_aside _ quiet] at removed
      exact inductionHypothesis removed
  | ranked _ _ _ inductionHypothesis => exact inductionHypothesis removed
  | removed below _ _ deleted _ inductionHypothesis =>
      rcases List.mem_cons.mp removed with same | later
      · exact same ▸ below
      · exact deleted.below_of_below (inductionHypothesis later)

/-- A node is ranked only while it has no priority, and so only once. -/
theorem nodup_rankings (finalizing : Finalizing start events final) :
    ((rankings events).map Prod.fst).Nodup ∧
      ∀ v ∈ (rankings events).map Prod.fst, start.ledger.isAssigned v = false := by
  induction finalizing with
  | done => simp [rankings]
  | aside quiet _ inductionHypothesis =>
      rw [rankings_aside _ quiet]
      exact inductionHypothesis
  | @ranked graph ledger later final w priority events _ issued _ inductionHypothesis =>
      rcases Ledger.assign_cases issued with ⟨none, -⟩ | ⟨-, -, unknown, -, slots⟩
      · cases none
      obtain ⟨distinct, unmet⟩ := inductionHypothesis
      have other : ∀ v ∈ (rankings events).map Prod.fst, v ≠ w := by
        intro v member same
        have free := unmet v member
        rw [Ledger.isAssigned, slots, if_pos same] at free
        cases free
      rw [rankings_assigned, List.map_cons]
      refine ⟨List.nodup_cons.mpr ⟨fun again => other w again rfl, distinct⟩, ?_⟩
      intro v member
      rcases List.mem_cons.mp member with same | later
      · exact same ▸ unknown
      · have free := unmet v later
        rw [Ledger.isAssigned, slots, if_neg (other v later)] at free
        exact free
  | removed _ _ _ _ _ inductionHypothesis => exact inductionHypothesis

/-- The priorities fall by one from ranking to ranking. -/
theorem priority_add (finalizing : Finalizing start events final) {k : Nat}
    (there : (rankings events)[k]? = some (v, priority)) :
    priority + k = start.ledger.next := by
  induction finalizing generalizing k with
  | done => cases there
  | aside quiet _ inductionHypothesis =>
      rw [rankings_aside _ quiet] at there
      exact inductionHypothesis there
  | ranked _ issued _ inductionHypothesis =>
      rcases Ledger.assign_cases issued with ⟨none, -⟩ | ⟨given, -, -, counter, -⟩
      · cases none
      cases given
      cases k with
      | zero =>
          cases there
          rfl
      | succ k =>
          have others := inductionHypothesis there
          rw [← counter, ← others]
          rfl
  | removed _ _ _ _ _ inductionHypothesis => exact inductionHypothesis there

/-- A leaf that has been deleted is not below the root any more, and so is
deleted only once. -/
theorem nodup_removals (finalizing : Finalizing start events final) :
    (removals events).Nodup := by
  induction finalizing with
  | done => exact List.nodup_nil
  | aside quiet _ inductionHypothesis =>
      rw [removals_aside _ quiet]
      exact inductionHypothesis
  | ranked _ _ _ inductionHypothesis => exact inductionHypothesis
  | removed _ bare _ deleted rest inductionHypothesis =>
      refine List.nodup_cons.mpr ⟨?_, inductionHypothesis⟩
      intro again
      exact ((deleted.below_iff bare).mp (rest.below_of_removed again)).2 rfl

end Finalizing

/-- The events rank each node below the root once, with the priorities from
`count` down, and delete each once, after it has been ranked and after all its
children have been deleted. -/
structure LeavesFirst (graph : Graph) (count : Nat) (events : List Event) : Prop where
  rankedOnce : ((rankings events).map Prod.fst).Nodup
  ranked_iff : ∀ v, v ∈ (rankings events).map Prod.fst ↔ graph.Below root v
  consecutive : ∀ (k : Nat) (v : NodeId) (priority : Priority),
    (rankings events)[k]? = some (v, priority) → priority + k = count
  removedOnce : (removals events).Nodup
  removed_iff : ∀ v, v ∈ removals events ↔ graph.Below root v
  ordered : ∀ before v after, events = before ++ .taskRemoved v :: after →
    v ∈ (rankings before).map Prod.fst ∧ ∀ child, graph.Child v child → child ∈ removals before

/-- A ranking that starts with a fresh ledger and leaves the root bare is done
with all nodes below the root, leaves first. -/
theorem Finalizing.leavesFirst
    (finalizing : Finalizing ⟨graph, .ofTaskCount count⟩ events final)
    (bare : final.graph.childrenOf root = []) : LeavesFirst graph count events := by
  have fresh (v : NodeId) : (Ledger.ofTaskCount count).isAssigned v = false := by
    rw [Ledger.isAssigned, (Ledger.issued_ofTaskCount count).priority]
    rfl
  have ordered : ∀ before v after, events = before ++ .taskRemoved v :: after →
      v ∈ (rankings before).map Prod.fst ∧
        ∀ child, graph.Child v child → child ∈ removals before := by
    intro before v after split
    rw [split] at finalizing
    obtain ⟨middle, first, rest⟩ := finalizing.exists_between
    cases rest with
    | aside quiet => exact absurd rfl quiet
    | removed below leaf known deleted =>
        constructor
        · have either := first.isAssigned_iff.mp known
          rw [fresh] at either
          exact either.resolve_left Bool.false_ne_true
        · -- The leaf has lost all the children it had, and it has not been deleted itself.
          intro child edge
          by_contra stays
          have present := (first.below_iff.mp below).2
          have still := first.child_iff.mpr ⟨edge, present, stays⟩
          rw [Graph.Child, leaf] at still
          exact List.not_mem_nil still
  have removed_iff (v : NodeId) : v ∈ removals events ↔ graph.Below root v := by
    constructor
    · exact finalizing.below_of_removed
    · intro below
      by_contra stays
      exact Graph.not_below bare (finalizing.below_iff.mpr ⟨below, stays⟩)
  have ranked_of_below {v : NodeId} (below : graph.Below root v) :
      v ∈ (rankings events).map Prod.fst := by
    obtain ⟨before, after, split⟩ :=
      List.append_of_mem (mem_removals.mp ((removed_iff v).mpr below))
    have earlier := (ordered before v after split).1
    rw [split, rankings, List.filterMap_append, List.map_append]
    exact List.mem_append_left _ earlier
  exact {
    rankedOnce := finalizing.nodup_rankings.1
    ranked_iff := fun v => ⟨finalizing.below_of_ranked, ranked_of_below⟩
    consecutive := fun _ _ _ => finalizing.priority_add
    removedOnce := finalizing.nodup_removals
    removed_iff := removed_iff
    ordered := ordered }

/-! ### What the lines show -/

namespace Finalizing

/-- A line gives a task its priority just where an event does. -/
theorem assignmentLines_eq (finalizing : Finalizing start events final) :
    assignmentLines (events.map Event.line) =
      (rankings events).map fun given => assignmentLine given.1 given.2 := by
  induction finalizing with
  | done => rfl
  | aside quiet _ inductionHypothesis =>
      rw [List.map_cons, assignmentLines_aside _ quiet, rankings_aside _ quiet]
      exact inductionHypothesis
  | ranked _ _ _ inductionHypothesis => simp [inductionHypothesis]
  | removed _ _ _ _ _ inductionHypothesis => simp [inductionHypothesis]

/-- A line tells that a task has left just where an event does. -/
theorem removalLines_eq (finalizing : Finalizing start events final) :
    removalLines (events.map Event.line) = (removals events).map removalLine := by
  induction finalizing with
  | done => rfl
  | aside quiet _ inductionHypothesis =>
      rw [List.map_cons, removalLines_aside _ quiet, removals_aside _ quiet]
      exact inductionHypothesis
  | ranked _ _ _ inductionHypothesis => simp [inductionHypothesis]
  | removed _ _ _ _ _ inductionHypothesis => simp [inductionHypothesis]

/-- The event behind the line on which a task leaves. -/
theorem exists_of_removalLine {earlier later : List String}
    (finalizing : Finalizing start events final)
    (split : events.map Event.line = earlier ++ removalLine v :: later) :
    ∃ before after, events = before ++ .taskRemoved v :: after ∧
      before.map Event.line = earlier := by
  obtain ⟨before, rest, rfl, isEarlier, isRest⟩ := List.map_eq_append_iff.mp split
  obtain ⟨event, after, rfl, isLine, -⟩ := List.map_eq_cons_iff.mp isRest
  refine ⟨before, after, ?_, isEarlier⟩
  obtain ⟨middle, -, further⟩ := finalizing.exists_between
  cases further with
  | aside quiet => exact absurd isLine (ne_removalLine_of_aside quiet)
  | ranked =>
      rw [Event.line_priorityAssigned] at isLine
      exact absurd isLine assignmentLine_ne_removalLine
  | removed =>
      rw [Event.line_taskRemoved] at isLine
      rw [removalLine_injective isLine]

end Finalizing

/-- The lines show it: those on which tasks get their priorities name each node
below the root once, with the priorities from `count` down, and those on which
tasks leave name each once, after the line that ranks it and after the lines on
which its children leave. -/
structure ShowsLeavesFirst (graph : Graph) (count : Nat) (lines : List String) : Prop where
  assigned : ∃ ranked : List (TaskId × Priority),
    assignmentLines lines = ranked.map (fun given => assignmentLine given.1 given.2) ∧
      (ranked.map Prod.fst).Nodup ∧ (∀ v, v ∈ ranked.map Prod.fst ↔ graph.Below root v) ∧
      ∀ (k : Nat) (v : NodeId) (priority : Priority),
        ranked[k]? = some (v, priority) → priority + k = count
  removed : ∃ left : List TaskId, removalLines lines = left.map removalLine ∧ left.Nodup ∧
    ∀ v, v ∈ left ↔ graph.Below root v
  ordered : ∀ earlier v later, lines = earlier ++ removalLine v :: later →
    (∃ priority, assignmentLine v priority ∈ earlier) ∧
      ∀ child, graph.Child v child → removalLine child ∈ earlier

theorem LeavesFirst.shows (leavesFirst : LeavesFirst graph count events)
    (finalizing : Finalizing start events final) :
    ShowsLeavesFirst graph count (events.map Event.line) where
  assigned := ⟨_, finalizing.assignmentLines_eq, leavesFirst.rankedOnce, leavesFirst.ranked_iff,
    leavesFirst.consecutive⟩
  removed := ⟨_, finalizing.removalLines_eq, leavesFirst.removedOnce, leavesFirst.removed_iff⟩
  ordered earlier v later split := by
    obtain ⟨before, after, isEvents, rfl⟩ := finalizing.exists_of_removalLine split
    obtain ⟨ranked, children⟩ := leavesFirst.ordered before v after isEvents
    constructor
    · obtain ⟨⟨_, priority⟩, given, rfl⟩ := List.mem_map.mp ranked
      have told := List.mem_map_of_mem (f := Event.line) (mem_rankings.mp given)
      rw [Event.line_priorityAssigned] at told
      exact ⟨priority, told⟩
    · intro child edge
      have told := List.mem_map_of_mem (f := Event.line) (mem_removals.mp (children child edge))
      rw [Event.line_taskRemoved] at told
      exact told

end DagScheduling
