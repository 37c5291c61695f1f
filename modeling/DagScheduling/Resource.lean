/-
Module: DagScheduling.Resource
Purpose: Execution resources and the tasks bound to them.
Main exports: ResourceId, ResourceState, Resource, Resource.release, Resource.occupy, Assignment
-/
import DagScheduling.Task

namespace DagScheduling

/-- A resource's number; nothing keeps two resources from sharing one. -/
abbrev ResourceId := Nat

/-- Whether a resource is free to take a task. -/
inductive ResourceState where
  | idle
  | busy
deriving Repr, DecidableEq

/-- The word a state is shown by. -/
def ResourceState.name : ResourceState → String
  | .idle => "idle"
  | .busy => "busy"

/-- An execution unit that tasks are bound to. -/
structure Resource where
  id : ResourceId
  /-- Throughput; more is preferred. -/
  capacity : Float
  state : ResourceState := .idle
deriving Repr

namespace Resource

/-- Whether the resource is free to take a task. -/
def isIdle (resource : Resource) : Bool :=
  resource.state == .idle

/-- The resource with a task on it. -/
def occupy (resource : Resource) : Resource :=
  { resource with state := .busy }

/-- The resource after its task has completed. -/
def release (resource : Resource) : Resource :=
  { resource with state := .idle }

end Resource

/-- A task bound to a resource, with the priority that decided its turn. -/
structure Assignment where
  task : TaskId
  resource : ResourceId
  priority : Priority
deriving Repr, DecidableEq

end DagScheduling
