import ValueStream.Cast.Atomic
import ValueStream.Cast.Schema
import ValueStream.Event

/-!
# What a slot takes

A slot is the type that is expected at a place. This module decides, for each way in which a value
can begin, whether a slot takes it and what becomes of it: a scalar is cast to the named type under
the layers that admit null; a list takes on the list type of the slot, or keeps its own where any
value is expected; a struct keeps its type, or becomes a map where a map is expected; a bare map
stays one, or stands for the struct that the slot names.

An error reports the slot as the type expected, with the layers that admit null.
-/

namespace ValueStream

namespace Cast

/-- A cast of a scalar to a named type: the schema may cast it, and the restriction is checked in
either case. -/
def named (schema : Schema) (v : Value) (a : AtomicType) (slot : TypeRef) (place : Path) :
    Except StreamError Value := do
  let result ← match schema.replacement v a place with
    | some outcome => outcome
    | none => unrestricted a v slot place
  checkRestriction a result place
  return result

/-- A cast of a scalar to a type, of which the slot is the whole. Null passes as soon as a layer
admits it. -/
def scalar (schema : Schema) (v : Value) (slot : TypeRef) (place : Path) :
    TypeRef → Except StreamError Value
  | .nullable inner =>
    match v with
    | .scalar .null => .ok v
    | _ => scalar schema v slot place inner
  | .atomic a => named schema v a slot place
  | .list _ => .error (.typeCast place slot v.typeOf)

end Cast

/-- What a map or struct becomes. -/
inductive FieldsTarget
  /-- A map. -/
  | map
  /-- A struct of a type. -/
  | struct (type : QualifiedName)

namespace FieldsTarget

/-- The event that it starts with. -/
def start : FieldsTarget → EventKind
  | map => .mapStart
  | struct type => .structStart type

/-- The value with given fields. -/
def ofFields : FieldsTarget → List (Identifier × Value) → Value
  | map, fields => .map fields
  | struct type, fields => .struct type fields

end FieldsTarget

namespace TypeRef

/-- The type of the list that a list becomes in a slot, and the list type that its elements are cast
by, if the slot takes lists. -/
def listTarget (slot : TypeRef) (type : ListType) : Option (ListType × ListType) :=
  match slot.unwrap with
  | .list expected => some (expected, expected)
  | t => if t.isValue then some (type, .opaque_) else none

/-- What a struct of a type becomes in a slot, if the slot takes it. -/
def structTarget (slot : TypeRef) (type : QualifiedName) : Option FieldsTarget :=
  match slot.unwrap with
  | .atomic a =>
    if a.name = type ∨ (atomic a).isValue then some (.struct type)
    else if (atomic a).isSymbolMap then some .map
    else none
  | _ => none

/-- Whether a slot takes a bare map as it is. -/
def takesMaps (slot : TypeRef) : Bool := slot.unwrap.isSymbolMap || slot.unwrap.isValue

/-- The struct type that a bare map stands for in a slot that does not take it as it is, if it may
stand for one. -/
def inferredStruct (slot : TypeRef) (schema : Schema) : Option QualifiedName :=
  match slot.unwrap with
  | .atomic a => if schema.infers a.name then some a.name else none
  | _ => none

end TypeRef

end ValueStream
