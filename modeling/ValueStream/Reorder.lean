import ValueStream.Nesting
import ValueStream.Pipeline.Step

/-!
# Putting fields in order

A reorder hands on the events of a value so that the fields of each struct leave in the order that
is given for its type. It holds back only what must wait: a field whose turn it is passes at once,
a field that comes early is held until those before it are through or the struct ends, and a field
that the order does not name passes as it comes. Structs inside a field that is held are put in
order there.

The reorder keeps a frame for each open struct. Events go to the innermost frame that holds a field
back, and to the stages behind if there is none. Maps and lists have no frames; the innermost frame
counts how many of them are open in its field, and a struct in the field counts as one until it
ends. Held events are replayed with the path of the struct that they belong to as the start.
-/

namespace ValueStream

/-- What a reorder keeps of an open struct. -/
structure OpenStruct where
  /-- The fields in the order they leave. -/
  order : List Identifier
  /-- The path of the struct. -/
  base : Path
  /-- The position in the order of the field whose turn it is. -/
  next : Nat := 0
  /-- The fields of the order that have been handed on or are being so. -/
  forwarded : List Identifier := []
  /-- The complete fields that wait, with their events. -/
  held : List (Identifier × List Event) := []
  /-- The events so far of the field that is being held back, if one is. -/
  holding : Option (List Event) := none
  /-- The field in progress. -/
  current : Option Identifier := none
  /-- The number of maps, lists and structs open in the field. -/
  depth : Nat := 0

/-- The state of putting fields in order. -/
structure Reorder where
  /-- The order for a struct type, empty where there is none. -/
  orders : QualifiedName → List Identifier
  /-- The open structs, the innermost first. -/
  frames : List OpenStruct := []

namespace OpenStruct

/-- The field whose turn it is. -/
def nextField (f : OpenStruct) : Option Identifier := f.order[f.next]?

/-- Whether a field of the order has come before. -/
def hasSeen (f : OpenStruct) (name : Identifier) : Bool :=
  f.forwarded.contains name || (f.held.lookup name).isSome

/-- A field starts in the struct: its events pass if it is its turn or it has none. -/
def startField (f : OpenStruct) (place : Path) (name : Identifier) :
    OpenStruct × Option Fault :=
  match f.holding with
  | some events => (f, some (.broken (.fieldWhileHolding name events.length)))
  | none =>
    let f := { f with current := some name }
    if !f.order.contains name then (f, none)
    else if f.hasSeen name then (f, some (.error (.structural place (.duplicateField name))))
    else if f.nextField = some name then ({ f with forwarded := f.forwarded ++ [name] }, none)
    else ({ f with holding := some [] }, none)

/-- An event comes to the struct. A field inside a field in progress belongs to a map there. -/
def receive (f : OpenStruct) (place : Path) (kind : EventKind) : OpenStruct × Option Fault :=
  match kind, f.current with
  | .fieldStart name, none => f.startField place name
  | _, _ => (f, none)

/-- The struct without the events held of a field, and these events. -/
def takeHeld (f : OpenStruct) (name : Identifier) : Option (List Event × OpenStruct) :=
  (f.held.lookup name).map fun events ↦
    (events, { f with held := f.held.filter (·.1 != name) })

end OpenStruct

namespace Reorder

/-- Adds an event to the innermost field that is held back, if there is one. -/
def hold (e : Event) : List OpenStruct → Option (List OpenStruct)
  | [] => none
  | f :: outer =>
    match f.holding with
    | some events => some ({ f with holding := some (events ++ [e]) } :: outer)
    | none => (hold e outer).map (f :: ·)

/-- Sends an event at a place: it is held or it goes on. -/
def send (frames : List OpenStruct) (place : Path) (e : Event) :
    List OpenStruct × List (Event × Path) :=
  match hold e frames with
  | some frames => (frames, [])
  | none => (frames, [(e, place)])

/-- Sends held events again, from a nesting inside the struct at a path. -/
def replay (base : Path) (frames : List OpenStruct) (inside : Nesting) :
    List Event → List OpenStruct × List (Event × Path)
  | [] => (frames, [])
  | e :: rest =>
    let inside := inside.enter e.kind
    let (frames, now) := send frames (base ++ inside.path) e
    let (frames, later) := replay base frames (inside.leave e.kind) rest
    (frames, now ++ later)

/-- Deliveries that leave the reorder in one state if they are refused. -/
def deliveries (r : Reorder) (out : List (Event × Path)) : List (Delivery Reorder) :=
  out.map fun (e, place) ↦ ⟨e, some place, r⟩

/-- Lets the fields go whose turn it is, from the remaining order of the innermost struct. -/
def release (r : Reorder) (f : OpenStruct) (outer : List OpenStruct) :
    List Identifier → Step Reorder
  | [] => .stop none { r with frames := f :: outer }
  | name :: rest =>
    match f.takeHeld name with
    | none => .stop none { r with frames := f :: outer }
    | some (events, f) =>
      let f := { f with next := f.next + 1, forwarded := f.forwarded ++ [name] }
      let (outer', out) := replay f.base outer [] events
      let s := r.release f outer' rest
      { s with deliveries := deliveries { r with frames := f :: outer } out ++ s.deliveries }

/-- The value of the field in progress is complete. -/
def completeField (r : Reorder) (f : OpenStruct) (outer : List OpenStruct) : Step Reorder :=
  match f.current with
  | none => .stop (some (.broken .noFieldInProgress)) { r with frames := f :: outer }
  | some name =>
    let f := { f with
      current := none, next := if f.nextField = some name then f.next + 1 else f.next }
    match f.holding with
    | some events =>
      let f := { f with holding := none, held := (name, events) :: f.held }
      .stop none { r with frames := f :: outer }
    | none => r.release f outer (f.order.drop f.next)

/-- An event was sent: the innermost struct counts what is open in its field. -/
def complete (r : Reorder) (kind : EventKind) : Step Reorder :=
  match r.frames with
  | [] => .stop none r
  | f :: outer =>
    match kind with
    | .mapStart | .listStart _ =>
      .stop none { r with frames := { f with depth := f.depth + 1 } :: outer }
    | .value _ => if f.depth = 0 then r.completeField f outer else .stop none r
    | .close =>
      match f.depth with
      | 0 => .stop (some (.broken .depthBelowZero)) r
      | 1 => r.completeField { f with depth := 0 } outer
      | depth + 2 => .stop none { r with frames := { f with depth := depth + 1 } :: outer }
    | .structStart _ | .fieldStart _ => .stop none r

/-- Sends what a struct that ends still holds, in the remaining order. -/
def flush (f : OpenStruct) (outer : List OpenStruct) :
    List Identifier → List OpenStruct × List (Event × Path)
  | [] => (outer, [])
  | name :: rest =>
    match f.takeHeld name with
    | none => flush f outer rest
    | some (events, f) =>
      let (outer, now) := replay f.base outer [] events
      let (outer, later) := flush f outer rest
      (outer, now ++ later)

/-- The step of sending events that leave the frames as given, then completing the last of them. -/
def sendThenComplete (r : Reorder) (out : List (Event × Path)) (frames : List OpenStruct)
    (kind : EventKind) : Step Reorder :=
  let s := { r with frames := frames }.complete kind
  { s with deliveries := r.deliveries out ++ s.deliveries }

/-- The innermost struct ends. -/
def endStruct (r : Reorder) (f : OpenStruct) (outer : List OpenStruct) (place : Path)
    (e : Event) : Step Reorder :=
  let r := { r with frames := outer }
  if f.holding.isSome then .stop (some (.broken .structEndsWhileHolding)) r
  else
    let (frames, held) := flush f outer (f.order.drop f.next)
    let (frames, last) := send frames place e
    r.sendThenComplete (held ++ last) frames e.kind

/-- Opens a frame if a struct starts; for the struct around it a container is open. -/
def openStruct (r : Reorder) (place : Path) (kind : EventKind) : Reorder :=
  match kind with
  | .structStart type =>
    let outer := match r.frames with
      | [] => []
      | f :: outer => { f with depth := f.depth + 1 } :: outer
    { r with frames := { order := r.orders type, base := place } :: outer }
  | _ => r

/-- What is done with an event at a place. -/
def step (r : Reorder) (place : Path) (e : Event) : Step Reorder :=
  let r := r.openStruct place e.kind
  match r.frames with
  | [] => .forward e (some place) r r
  | f :: outer =>
    if e.kind matches .close ∧ f.depth = 0 then r.endStruct f outer place e
    else
      match f.receive place e.kind with
      | (f, some fault) => .stop (some fault) { r with frames := f :: outer }
      | (f, none) =>
        let r := { r with frames := f :: outer }
        let (frames, out) := send r.frames place e
        r.sendThenComplete out frames e.kind

end Reorder

end ValueStream
