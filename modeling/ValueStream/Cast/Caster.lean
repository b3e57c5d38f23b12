import ValueStream.Cast.Slot

/-!
# Casting a stream

A caster turns the events of a value into the events of the value cast to a type. It keeps a frame
for each map, struct and list that is open and one for the top-level value; the innermost frame says
which type the next value must have. What that slot takes, and what becomes of it, is decided in
`ValueStream.Cast.Slot`; fields ask the schema for their types.

Exactly one event comes out for every event that goes in and is not refused. The caster relies on
the structure having been checked: an event that a checked stream cannot bring is a broken
invariant.
-/

namespace ValueStream

/-- What a caster keeps of something open. -/
inductive CastFrame
  /-- The place of the top-level value. -/
  | expected (type : TypeRef)
  /-- A list, and whether it has had elements. -/
  | list (type : ListType) (hasElements : Bool)
  /-- A map or struct, with the type of the field in progress and of all fields. -/
  | map (fieldType : Option TypeRef) (typer : FieldTyper)

/-- The state of a cast. -/
structure Caster where
  /-- What the cast is told. -/
  schema : Schema
  /-- The path of the top-level value, which all paths in errors start with. -/
  start : Path
  /-- The frames, the innermost first. -/
  frames : List CastFrame

namespace Caster

/-- A cast of the value at a path to a type. -/
def new (type : TypeRef) (schema : Schema) (start : Path) : Caster :=
  ⟨schema, start, [.expected type]⟩

/-- The type that the next value must have. -/
def slot (c : Caster) : Except Invariant TypeRef :=
  match c.frames with
  | .expected type :: _ => .ok type
  | .list type _ :: _ => .ok type.element
  | .map (some type) _ :: _ => .ok type
  | .map none _ :: _ => .error .valueBeforeField
  | [] => .error .nothingExpected

/-- Notes that the innermost frame, if it is a list, has an element. -/
def noteElement : List CastFrame → List CastFrame
  | .list type _ :: rest => .list type true :: rest
  | frames => frames

/-- The caster with a further frame. -/
def push (c : Caster) (frame : CastFrame) : Caster := { c with frames := frame :: c.frames }

/-- A caster and what comes of an event: the event handed on, or the reason why not. -/
abbrev Outcome := Caster × Except Fault EventKind

/-- A caster that refuses an event. -/
def refuse (c : Caster) (e : StreamError) : Outcome := (c, .error (.error e))

/-- Takes a value. -/
def castValue (c : Caster) (place : Path) (slot : TypeRef) (v : Value) : Outcome :=
  let c := { c with frames := noteElement c.frames }
  match Cast.scalar c.schema v slot place slot with
  | .ok w => (c, .ok (.value w))
  | .error e => c.refuse e

/-- Takes the start of a list. -/
def startList (c : Caster) (place : Path) (slot : TypeRef) (type : ListType) : Outcome :=
  match slot.listTarget type with
  | some (result, target) => (c.push (.list target false), .ok (.listStart result))
  | none => c.refuse (.typeCast place slot (.list type))

/-- Takes the start of a struct. -/
def startStruct (c : Caster) (place : Path) (slot : TypeRef) (type : QualifiedName) : Outcome :=
  match slot.structTarget type with
  | none => c.refuse (.typeCast place slot (.named type))
  | some target =>
    match c.schema.typer type place with
    | .error e => c.refuse e
    | .ok typer => (c.push (.map none (typer.getD .anyValue)), .ok target.start)

/-- Takes the start of a map, which may stand for a struct. -/
def startMap (c : Caster) (place : Path) (slot : TypeRef) : Outcome :=
  if slot.takesMaps then (c.push (.map none .anyValue), .ok .mapStart)
  else
    match slot.inferredStruct c.schema with
    | some type => c.startStruct place slot type
    | none => c.refuse (.typeCast place slot (.core .symbolMap))

/-- Takes a field. -/
def startField (c : Caster) (place : Path) (name : Identifier) : Outcome :=
  match c.frames with
  | .map _ typer :: rest =>
    match typer name place with
    | .ok type => ({ c with frames := .map (some type) typer :: rest }, .ok (.fieldStart name))
    | .error e => c.refuse e
  | _ => (c, .error (.broken (.fieldOutsideMap name)))

/-- Takes an end. -/
def close (c : Caster) (place : Path) : Outcome :=
  match c.frames with
  | [] => (c, .error (.broken .endAfterAll))
  | frame :: rest =>
    let c := { c with frames := noteElement rest }
    match frame with
    | .map _ _ => (c, .ok .close)
    | .list type hasElements =>
      if hasElements || type.allowsEmpty then (c, .ok .close)
      else c.refuse (.value place .emptyList)
    | .expected type => (c, .error (.broken (.endWithoutStart type)))

/-- Takes what needs to know the type expected. -/
def intoSlot (c : Caster) (take : TypeRef → Outcome) : Outcome :=
  match c.slot with
  | .ok slot => take slot
  | .error i => (c, .error (.broken i))

/-- Takes an event at a place. -/
def step (c : Caster) (place : Path) : EventKind → Outcome
  | .value v => c.intoSlot fun slot ↦ c.castValue place slot v
  | .listStart type => c.intoSlot fun slot ↦ c.startList place slot type
  | .mapStart => c.intoSlot fun slot ↦ c.startMap place slot
  | .structStart type => c.intoSlot fun slot ↦ c.startStruct place slot type
  | .fieldStart name => c.startField place name
  | .close => c.close place

end Caster

end ValueStream
