import ValueStream.Value.Events

/-!
# Visiting a value task by task

The events of a value are sent without recursion. What is still to be sent is a stack of tasks, the
next one on top, and each task comes to one event. The task of a map, struct or list also leaves
tasks for its parts and for its end; these go on top of the stack, the last of them first, so that
they leave in order and before all that waited below.

`Task.events` are the events that a task comes to with all that it leaves. Working on the task on
top sends the first event that the stack comes to and leaves a stack that comes to the others
(`event_cons_flatMap_push`), one event fewer. So the work ends, and from the task of a value alone
it sends the events of the value.
-/

namespace ValueStream

namespace Value

/-- What is to be done next in sending the events of a value. -/
inductive Task
  /-- A value is next. -/
  | value (v : Value)
  /-- The name of a field is next. -/
  | field (name : Identifier)
  /-- The end of a map, struct or list is next. -/
  | close

namespace Task

/-- The event to be sent at once. -/
def event : Task → Event
  | value (.scalar s) => ⟨.value (.scalar s), none⟩
  | value (.map _) => ⟨.mapStart, none⟩
  | value (.list type _) => ⟨.listStart type, none⟩
  | value (.struct type _) => ⟨.structStart type, none⟩
  | field name => ⟨.fieldStart name, none⟩
  | close => ⟨.close, none⟩

/-- Puts fields on a stack above the end of what they belong to, the first of them on top. -/
def pushFields (fields : List (Identifier × Value)) (tasks : List Task) : List Task :=
  fields.reverse.foldl (fun tasks f ↦ field f.1 :: value f.2 :: tasks) (close :: tasks)

/-- Puts elements on a stack above the end of their list, the first of them on top. -/
def pushElements (elements : List Value) (tasks : List Task) : List Task :=
  elements.reverse.foldl (fun tasks v ↦ value v :: tasks) (close :: tasks)

/-- Puts what a task leaves to be done on a stack. -/
def push : Task → List Task → List Task
  | value (.map fields), tasks | value (.struct _ fields), tasks => pushFields fields tasks
  | value (.list _ elements), tasks => pushElements elements tasks
  | value (.scalar _), tasks | field _, tasks | close, tasks => tasks

example (f g : Identifier) (v w : Value) (tasks : List Task) :
    (value (.map [(f, v), (g, w)])).push tasks =
      field f :: value v :: field g :: value w :: close :: tasks := rfl

/-- All events that a task comes to. -/
def events : Task → List Event
  | value v => v.events
  | field name => [⟨.fieldStart name, none⟩]
  | close => [⟨.close, none⟩]

variable (tasks : List Task)

theorem flatMap_events_pushFields (fields : List (Identifier × Value)) :
    (pushFields fields tasks).flatMap events =
      fieldEvents fields ++ ⟨.close, none⟩ :: tasks.flatMap events := by
  rw [pushFields, List.foldl_reverse]
  induction fields with
  | nil => simp [fieldEvents, events]
  | cons f rest ih => simp [fieldEvents, events, ih]

theorem flatMap_events_pushElements (elements : List Value) :
    (pushElements elements tasks).flatMap events =
      elementEvents elements ++ ⟨.close, none⟩ :: tasks.flatMap events := by
  rw [pushElements, List.foldl_reverse]
  induction elements with
  | nil => simp [elementEvents, events]
  | cons v rest ih =>
    rw [List.foldr_cons, List.flatMap_cons, ih]
    simp [elementEvents, events]

/-- One step takes the first event off those that a stack comes to. -/
theorem event_cons_flatMap_push (task : Task) :
    task.event :: (task.push tasks).flatMap events = (task :: tasks).flatMap events := by
  rw [List.flatMap_cons]
  cases task with
  | value v =>
    cases v with
    | scalar s => simp [event, push, events, Value.events]
    | map fields => simp [event, push, flatMap_events_pushFields, events, Value.events]
    | list type elements => simp [event, push, flatMap_events_pushElements, events, Value.events]
    | struct type fields => simp [event, push, flatMap_events_pushFields, events, Value.events]
  | field name => simp [event, push, events]
  | close => simp [event, push, events]

end Task

end Value

end ValueStream
