import ValueStream.StreamError

/-!
# Steps

What an element of a pipeline does with one event is a value, a step: the notes it takes, the events
it hands on, and what becomes of it. The elements behind it may refuse an event that is handed on;
then the rest of the step is not taken, and each delivery says in which state its refusal leaves the
element. So an element is described without the elements behind it.

An element may track the path of the current place. A delivery holds the path that the element
reports while the event is being handled by those behind.
-/

namespace ValueStream

/-- What an element writes down. -/
inductive Note
  /-- An event came by, at a path that was known or not. -/
  | seen (id : String) (event : Event) (path : Option Path)
  /-- A line of the log. -/
  | line (text : String)

/-- An event handed on by an element with states in `σ`. -/
structure Delivery (σ : Type) where
  /-- The event. -/
  event : Event
  /-- The path that the element reports meanwhile, if it reports one. -/
  path : Option Path
  /-- The state of the element if the event is refused. -/
  refused : σ

/-- What an element with states in `σ` does with an event. -/
structure Step (σ : Type) where
  /-- The notes it takes first. -/
  notes : List Note := []
  /-- The events it hands on, in order. -/
  deliveries : List (Delivery σ) := []
  /-- Its state if none of them is refused. -/
  state : σ
  /-- What stops it after that, if something does. -/
  fault : Option Fault := none

variable {σ τ : Type}

/-- The delivery seen as one of a larger element. -/
def Delivery.map (f : σ → τ) (d : Delivery σ) : Delivery τ := ⟨d.event, d.path, f d.refused⟩

namespace Step

/-- The step seen as one of a larger element. -/
def map (f : σ → τ) (s : Step σ) : Step τ where
  notes := s.notes
  deliveries := s.deliveries.map (·.map f)
  state := f s.state
  fault := s.fault

/-- The step of handing one event on, in one state until it is accepted and in another after. -/
def forward (event : Event) (path : Option Path) (during after : σ) : Step σ where
  deliveries := [⟨event, path, during⟩]
  state := after

/-- The step of handing nothing on. -/
def stop (fault : Option Fault) (state : σ) : Step σ where
  state := state
  fault := fault

end Step

end ValueStream
