/-
Module: DagScheduling.Log.Logged
Purpose: A value together with the events logged on the way to it.
Main exports: Logged, noteAll, note
-/
import DagScheduling.Log.Event

namespace DagScheduling

/-- A value and the events logged while it was computed, oldest first. Only
events that the verbosity admits are kept. -/
@[ext] structure Logged (α : Type) where
  value : α
  log : List Event
deriving Repr

namespace Logged

/-- A value with nothing logged. -/
protected def pure {α : Type} (value : α) : Logged α :=
  { value := value, log := [] }

/-- Log of the first computation, then log of the second. -/
protected def bind {α β : Type} (first : Logged α) (next : α → Logged β) : Logged β :=
  let second := next first.value
  { value := second.value, log := first.log ++ second.log }

instance : Monad Logged where
  pure := Logged.pure
  bind := Logged.bind

@[simp] theorem value_pure {α : Type} (value : α) : (pure value : Logged α).value = value :=
  rfl

@[simp] theorem log_pure {α : Type} (value : α) : (pure value : Logged α).log = [] :=
  rfl

@[simp] theorem value_bind {α β : Type} (first : Logged α) (next : α → Logged β) :
    (first >>= next).value = (next first.value).value :=
  rfl

@[simp] theorem log_bind {α β : Type} (first : Logged α) (next : α → Logged β) :
    (first >>= next).log = first.log ++ (next first.value).log :=
  rfl

@[simp] theorem value_map {α β : Type} (change : α → β) (logged : Logged α) :
    (change <$> logged).value = change logged.value :=
  rfl

@[simp] theorem log_map {α β : Type} (change : α → β) (logged : Logged α) :
    (change <$> logged).log = logged.log :=
  List.append_nil _

instance : LawfulMonad Logged :=
  LawfulMonad.mk' Logged
    (fun logged => Logged.ext rfl (log_map id logged))
    (fun _ _ => rfl)
    (fun _ _ _ => Logged.ext rfl (List.append_assoc _ _ _))

end Logged

/-- Log events in order, each only if the verbosity admits its level. -/
def noteAll (verbosity : Verbosity) (events : List Event) : Logged Unit :=
  { value := (), log := events.filter fun event => event.level.shownAt verbosity }

/-- Log an event if the verbosity admits its level. -/
def note (verbosity : Verbosity) (event : Event) : Logged Unit :=
  noteAll verbosity [event]

end DagScheduling
