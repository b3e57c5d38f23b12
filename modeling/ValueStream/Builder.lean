import ValueStream.StreamError
import ValueStream.Value.Fields

/-!
# Building a value

A builder takes the events of a value and keeps the maps, structs and lists that are open with what
they hold so far, the innermost first. It checks what it needs to: that values in a map follow a
field, that no field comes twice, that ends have a start, and that there is one value. Errors are
reported at the path that the event is stamped with.
-/

namespace ValueStream

/-- A map, struct or list that is open. -/
inductive Part
  /-- A map, or a struct if it has a type, with the field whose value is awaited. -/
  | fields (type : Option QualifiedName) (fields : Fields) (pending : Option Identifier)
  /-- A list with the elements so far. -/
  | elements (type : ListType) (elements : List Value)

/-- A value that is being built. -/
structure Builder where
  /-- What is open, the innermost first. -/
  parts : List Part := []
  /-- The value, once it is complete. -/
  built : Option Value := none

namespace Builder

/-- Whether the value is complete. -/
def isDone (b : Builder) : Bool := b.built.isSome

/-- The value, if it is complete. -/
def result (b : Builder) : Except StreamError Value :=
  match b.built with
  | some v => .ok v
  | none => .error (.structural .root .notBuilt)

/-- A builder and the reason why it refuses an event. -/
def refuse (b : Builder) (place : Path) (cause : StructuralCause) :
    Builder × Option StreamError :=
  (b, some (.structural place cause))

/-- Puts a complete value where it belongs. -/
def put (b : Builder) (place : Path) (v : Value) : Builder × Option StreamError :=
  match b.parts with
  | [] => if b.isDone then b.refuse place .alreadyBuilt else ({ b with built := some v }, none)
  | .elements type elements :: rest =>
    ({ b with parts := .elements type (elements ++ [v]) :: rest }, none)
  | .fields _ _ none :: _ => b.refuse place (.expectedField v.text)
  | .fields type fields (some name) :: rest =>
    match fields.insert name v with
    | .ok fields => ({ b with parts := .fields type fields none :: rest }, none)
    | .error _ =>
      { b with parts := .fields type fields none :: rest }.refuse place (.duplicateField name)

/-- Opens a map, struct or list. -/
def openPart (b : Builder) (part : Part) : Builder × Option StreamError :=
  ({ b with parts := part :: b.parts }, none)

/-- Notes the field that the next value belongs to. -/
def startField (b : Builder) (place : Path) (name : Identifier) : Builder × Option StreamError :=
  match b.parts with
  | .fields type fields none :: rest =>
    ({ b with parts := .fields type fields (some name) :: rest }, none)
  | .fields _ _ (some pending) :: _ => b.refuse place (.fieldWhilePending name pending)
  | .elements _ _ :: _ | [] => b.refuse place (.fieldOutsideMap name)

/-- Closes the innermost map, struct or list. -/
def close (b : Builder) (place : Path) : Builder × Option StreamError :=
  match b.parts with
  | [] => b.refuse place .endOutside
  | part :: rest =>
    let b := { b with parts := rest }
    match part with
    | .fields _ _ (some pending) => b.refuse place (.endWhilePending pending)
    | .fields (some type) fields none => b.put place (.struct type fields)
    | .fields none fields none => b.put place (.map fields)
    | .elements type elements => b.put place (.list type elements)

/-- Takes an event in. -/
def accept (b : Builder) (e : Event) : Builder × Option StreamError :=
  match e.kind with
  | .value v => b.put e.place v
  | .structStart type => b.openPart (.fields (some type) [] none)
  | .mapStart => b.openPart (.fields none [] none)
  | .listStart type => b.openPart (.elements type [])
  | .fieldStart name => b.startField e.place name
  | .close => b.close e.place

/-- Takes events in, up to the first that is refused. -/
def run (b : Builder) : List Event → Builder × Option StreamError
  | [] => (b, none)
  | e :: rest =>
    match b.accept e with
    | (b, some error) => (b, some error)
    | (b, none) => b.run rest

end Builder

end ValueStream
