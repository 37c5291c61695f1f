/-
Module: DagScheduling.Dispatch.Binding
Purpose: Binding ready tasks to idle resources, highest priority first.
Main exports: Dispatch, nextTask?, bestIdle?, bindBy, dispatch
-/
import DagScheduling.Champion
import DagScheduling.Log.Logged
import DagScheduling.Priority.Priorities
import DagScheduling.Resource

namespace DagScheduling

/-- The outcome of one dispatch cycle. -/
structure Dispatch where
  /-- The bindings in the order they were made. -/
  assignments : List Assignment
  /-- The ready tasks that found no idle resource, in the order they were given. -/
  waiting : List TaskId
  /-- The resources after the cycle. -/
  resources : List Resource
deriving Repr

/-- Whether the cycle bound nothing. -/
def Dispatch.noBindings (outcome : Dispatch) : Bool :=
  outcome.assignments.isEmpty

/-- The first pending task of the highest priority. -/
def nextTask? (priorityOf : TaskId → Priority) (pending : List TaskId) : Option TaskId :=
  champion? (fun challenger incumbent => priorityOf incumbent < priorityOf challenger) pending

/-- The idle resources with their positions. -/
def idlePositions (resources : List Resource) : List (Resource × Nat) :=
  resources.zipIdx.filter fun (resource, _) => resource.isIdle

/-- The idle resource to bind next, with its position. Going through the list,
an idle resource takes the place of the one chosen before it unless its capacity
is at most that one's. Without NaN this chooses the first of the greatest
capacity; a NaN takes the place of whatever stands before it and gives way to
whatever stands after it. -/
def bestIdle? (resources : List Resource) : Option (Resource × Nat) :=
  champion? (fun challenger incumbent => !(challenger.1.capacity ≤ incumbent.1.capacity))
    (idlePositions resources)

/-- Log every resource as it is looked at. -/
def surveyResources (verbosity : Verbosity) (resources : List Resource) : Logged Unit :=
  noteAll verbosity <| resources.map fun resource =>
    if resource.isIdle then .resourceIdle resource.id resource.capacity
    else .resourceBusy resource.id

/-- The pending tasks without every occurrence of one of them. -/
def withoutTask (task : TaskId) (pending : List TaskId) : List TaskId :=
  pending.filter fun other => other != task

theorem length_withoutTask_lt {task : TaskId} {pending : List TaskId} (member : task ∈ pending) :
    (withoutTask task pending).length < pending.length := by
  apply List.length_filter_lt_length_iff_exists.mpr
  exact ⟨task, member, by simp⟩

/-- Bind pending tasks to idle resources until either run out. Each round takes
the next task and the best idle resource. -/
def bindBy (priorityOf : TaskId → Priority) (verbosity : Verbosity) (pending : List TaskId)
    (resources : List Resource) : Logged Dispatch :=
  match _chosen : nextTask? priorityOf pending with
  | none => pure { assignments := [], waiting := pending, resources := resources }
  | some task => do
      let priority := priorityOf task
      surveyResources verbosity resources
      match bestIdle? resources with
      | none =>
          note verbosity (.noIdleResource task priority)
          pure { assignments := [], waiting := pending, resources := resources }
      | some (resource, position) =>
          note verbosity (.taskBound task priority resource.id resource.capacity)
          let later ← bindBy priorityOf verbosity (withoutTask task pending)
            (resources.modify position Resource.occupy)
          pure
            { later with
              assignments :=
                { task := task, resource := resource.id, priority := priority } ::
                  later.assignments }
termination_by pending.length
decreasing_by
  exact length_withoutTask_lt (champion?_mem _chosen)

/-- Priority of a task, 0 where it has none. -/
def Priorities.priorityOf (priorities : Priorities) (task : TaskId) : Priority :=
  (priorities.get? task).getD 0

/-- One dispatch cycle: bind ready tasks to idle resources and mark those busy.
What is left over waits; no task is dropped. -/
def dispatch (ready : List TaskId) (priorities : Priorities) (resources : List Resource)
    (verbosity : Verbosity) : Logged Dispatch :=
  bindBy priorities.priorityOf verbosity ready resources

end DagScheduling
