import ValueStream.Builder
import ValueStream.Cast.Caster
import ValueStream.Checker
import ValueStream.Pipeline.LogLine
import ValueStream.Reorder

/-!
# Elements of a pipeline

An element is a stage or an observer. A stage decides what it hands on: it checks, locates, stamps,
casts or reorders events, filters them, or writes them down. An observer is shown every event; it
may refuse one, and what it accepts goes on unchanged.

A stage may report a path, and some need one: the path that the nearest stage ahead reports, which
is `ahead` below and missing where no stage ahead reports one. For a stage that counts from the
top-level value a missing path is the root.
-/

namespace ValueStream

/-- What is shown every event. -/
inductive Observer
  /-- Accepts everything. -/
  | discard
  /-- Accepts everything and takes notes. -/
  | note (id : String)
  /-- Judges each event by all events so far, the latest first. -/
  | judge (verdict : List Event → Option StreamError) (shown : List Event)
  /-- Builds the value. -/
  | builder (id : String) (b : Builder)

namespace Observer

/-- The verdict that refuses the events with given numbers, counted from zero. -/
def refuseAt (numbers : List Nat) : List Event → Option StreamError
  | [] => none
  | e :: earlier =>
    if numbers.contains earlier.length then some (.value e.place (.refused earlier.length))
    else none

/-- Shows an event: the notes, the state after it and the reason to refuse it. -/
def accept : Observer → Event → List Note × Observer × Option StreamError
  | discard, _ => ([], discard, none)
  | note id, e => ([.seen id e none], note id, none)
  | judge verdict shown, e => ([], judge verdict (e :: shown), verdict (e :: shown))
  | builder id b, e =>
    let (b, error) := b.accept e
    ([], builder id b, error)

end Observer

/-- An element of a pipeline. -/
inductive Element
  /-- Checks the structure. -/
  | checker (c : Checker)
  /-- Tracks the path without checking. -/
  | tracker (n : Nesting)
  /-- Stamps events with their paths after a start. -/
  | stamper (start : Path) (n : Nesting)
  /-- Casts. -/
  | cast (c : Caster)
  /-- Puts the fields of structs in order. -/
  | reorder (r : Reorder)
  /-- Writes a line with a label to the log. -/
  | debug (label : String)
  /-- Takes notes, with the path reported ahead. -/
  | record (id : String)
  /-- Hands on the events that pass a test. -/
  | filter (passes : EventKind → Bool)
  /-- Hands on everything. -/
  | relay
  /-- Is shown everything. -/
  | observer (o : Observer)

/-- The key that checkers are found under. -/
def checkerKey : String := "mingle.StructuralReactor"

namespace Element

/-- The label of log lines where none is given. -/
def defaultLabel : String := "events"

/-- Whether the element is a checker. -/
def isChecker : Element → Bool
  | checker _ => true
  | _ => false

/-- The key that the element is found under, if it has one. -/
def key (e : Element) : Option String := if e.isChecker then some checkerKey else none

/-- The path that the element reports between events, if it reports one. -/
def reading (ahead : Option Path) : Element → Option Path
  | checker c => some c.path
  | tracker n => some n.path
  | stamper start n => some (start ++ n.path)
  | cast c => some (c.start ++ ahead.getD .root)
  | reorder _ => some (ahead.getD .root)
  | _ => none

/-- The step of a stage that may refuse an event and hands on what it accepts, once. -/
def checkerStep (c : Checker) (e : Event) : Step Checker :=
  match c.enter e.kind with
  | (c, some fault) => .stop (some fault) c
  | (c, none) => .forward e (some c.path) c (c.leave e.kind)

/-- The step of a stage that tracks the nesting and may change the event. -/
def nestingStep (n : Nesting) (start : Path) (e : Event) (change : Path → Event → Event) :
    Step Nesting :=
  let during := n.enter e.kind
  let place := start ++ during.path
  .forward (change place e) (some place) during (during.leave e.kind)

/-- The step of a cast. -/
def castStep (c : Caster) (ahead : Option Path) (e : Event) : Step Caster :=
  let place := c.start ++ ahead.getD .root
  match c.step place e.kind with
  | (c, .ok kind) => .forward (e.withKind kind) (some place) c c
  | (c, .error fault) => .stop (some fault) c

/-- The step of an observer. -/
def observerStep (o : Observer) (e : Event) : Step Observer :=
  match o.accept e with
  | (notes, o, some error) => { Step.stop (some (.error error)) o with notes := notes }
  | (notes, o, none) => { Step.forward e none o o with notes := notes }

/-- What the element does with an event. -/
def step (ahead : Option Path) (e : Event) : Element → Step Element
  | checker c => (checkerStep c e).map checker
  | tracker n => (nestingStep n .root e fun _ e ↦ e).map tracker
  | stamper start n => (nestingStep n start e fun place e ↦ e.stamp place).map (stamper start)
  | cast c => (castStep c ahead e).map cast
  | reorder r => (r.step (ahead.getD .root) e).map reorder
  | debug label =>
    { Step.forward e none (debug label) (debug label) with
      notes := [.line (LogLine.text label ahead e.kind)] }
  | record id =>
    { Step.forward e none (record id) (record id) with notes := [.seen id e ahead] }
  | filter passes =>
    if passes e.kind then .forward e none (filter passes) (filter passes)
    else .stop none (filter passes)
  | relay => .forward e none relay relay
  | observer o => (observerStep o e).map observer

end Element

end ValueStream
