import ValueStream.Pipeline.Element
import ValueStream.Value.Task

/-!
# Running a pipeline

An event goes to the first element; every event that an element hands on goes through the elements
behind it, with the path that the element reports or, if it reports none, the one reported ahead of
it. Past the last element all events are accepted. The first fault ends the run: it leaves each
element that was handing an event on in the state that the delivery says, and elements further ahead
likewise, so that later events find the elements where the fault left them.

A value is visited task by task. That this sends the events of the value, one after the other and
up to the first fault, is `Pipeline.visit_eq_sendAll`.
-/

namespace ValueStream

/-- The outcome of sending events into elements. -/
structure Run where
  /-- The elements afterwards. -/
  elements : List Element
  /-- The notes taken, in order. -/
  notes : List Note := []
  /-- What ended the run early, if something did. -/
  fault : Option Fault := none

namespace Run

/-- Puts notes before those of a run. -/
def after (notes : List Note) (r : Run) : Run := { r with notes := notes ++ r.notes }

end Run

/-- Sends what an element hands on to the elements behind it. -/
def handOn (next : List Element → Option Path → Event → Run) (ahead : Option Path)
    (state : Element) (fault : Option Fault) :
    List (Delivery Element) → List Element → Run
  | [], rest => { elements := state :: rest, fault := fault }
  | d :: later, rest =>
    let r := next rest (d.path.or ahead) d.event
    match r.fault with
    | some _ => { r with elements := d.refused :: r.elements }
    | none => (handOn next ahead state fault later r.elements).after r.notes

/-- Sends an event into the first so many elements. -/
def dispatch : Nat → List Element → Option Path → Event → Run
  | 0, elements, _, _ => { elements := elements }
  | _ + 1, [], _, _ => { elements := [] }
  | count + 1, first :: rest, ahead, e =>
    let s := first.step ahead e
    (handOn (dispatch count) ahead s.state s.fault s.deliveries rest).after s.notes

/-- Elements in a row, ready for events. -/
structure Pipeline where
  /-- The elements, the first to see an event first. -/
  elements : List Element

namespace Pipeline

/-- The number of elements. -/
def length (p : Pipeline) : Nat := p.elements.length

/-- Whether there is a checker. -/
def hasChecker (p : Pipeline) : Bool := p.elements.any Element.isChecker

/-- The path that the last element reports which reports one. -/
def reading (p : Pipeline) : Option Path :=
  p.elements.foldl (fun ahead e ↦ (e.reading ahead).or ahead) none

/-- Sends an event. -/
def send (p : Pipeline) (e : Event) : Run := dispatch p.length p.elements none e

/-- Sends events, up to the first that ends in a fault. -/
def sendAll (p : Pipeline) : List Event → Run
  | [] => { elements := p.elements }
  | e :: rest =>
    let r := p.send e
    match r.fault with
    | some _ => r
    | none => (sendAll ⟨r.elements⟩ rest).after r.notes

/-- Works on tasks, the one on top of the stack first, up to the first event that ends in a fault.
-/
def work (p : Pipeline) : List Value.Task → Run
  | [] => { elements := p.elements }
  | task :: tasks =>
    let r := p.send task.event
    match r.fault with
    | some _ => r
    | none => (work ⟨r.elements⟩ (task.push tasks)).after r.notes
termination_by tasks => (tasks.flatMap Value.Task.events).length
decreasing_by
  rw [← Value.Task.event_cons_flatMap_push, List.length_cons]
  exact Nat.lt_succ_self _

/-- Sends the events of a value. -/
def visit (p : Pipeline) (v : Value) : Run := p.work [.value v]

theorem work_eq_sendAll (p : Pipeline) (tasks : List Value.Task) :
    p.work tasks = p.sendAll (tasks.flatMap Value.Task.events) := by
  induction p, tasks using work.induct with
  | case1 p => rw [work, List.flatMap_nil, sendAll]
  | case2 p task tasks r fault hfault =>
    rw [work, ← Value.Task.event_cons_flatMap_push, sendAll]
    simp only [r] at hfault
    simp only [hfault]
  | case3 p task tasks r hfault ih =>
    rw [work, ← Value.Task.event_cons_flatMap_push, sendAll]
    simp only [r] at hfault ih
    simp only [hfault, ih]

/-- A visit sends the events of the value in their order. -/
theorem visit_eq_sendAll (p : Pipeline) (v : Value) : p.visit v = p.sendAll v.events := by
  rw [visit, work_eq_sendAll, List.flatMap_singleton, Value.Task.events]

/-- The builders, in order. -/
def builders (p : Pipeline) : List (String × Builder) :=
  p.elements.filterMap fun
    | .observer (.builder id b) => some (id, b)
    | _ => none

end Pipeline

end ValueStream
