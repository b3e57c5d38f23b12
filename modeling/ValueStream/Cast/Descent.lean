import ValueStream.Cast.Slot

/-!
# Casts by descent

The cast of a value to a type by recursion on the value. Scalars go by `Cast.scalar`; a list is
cast element by element to the element type of the slot, and must not be empty unless the type says
so; the fields of a map or struct are cast to the types that the schema gives for the struct type at
hand, in order. The first error is the error of the whole.
-/

namespace ValueStream

namespace Value

mutual

/-- The cast of a value at a path to a type. -/
def castAt (schema : Schema) (slot : TypeRef) (place : Path) : Value → Except StreamError Value
  | .scalar s => Cast.scalar schema (.scalar s) slot place slot
  | .list type elements =>
    match slot.listTarget type with
    | none => .error (.typeCast place slot (.list type))
    | some (result, target) => do
      let elements ← castElements schema target.element place 0 elements
      if elements.isEmpty && !target.allowsEmpty then .error (.value place .emptyList)
      return .list result elements
  | .map fields =>
    if slot.takesMaps then .map <$> castFields schema .anyValue place fields
    else
      match slot.inferredStruct schema with
      | none => .error (.typeCast place slot (.core .symbolMap))
      | some type => do
        let typer ← schema.typer type place
        .struct type <$> castFields schema (typer.getD .anyValue) place fields
  | .struct type fields =>
    match slot.structTarget type with
    | none => .error (.typeCast place slot (.named type))
    | some target => do
      let typer ← schema.typer type place
      target.ofFields <$> castFields schema (typer.getD .anyValue) place fields

/-- The casts of the elements of a list at a path, from a position on. -/
def castElements (schema : Schema) (slot : TypeRef) (place : Path) (position : Nat) :
    List Value → Except StreamError (List Value)
  | [] => .ok []
  | v :: rest => do
    let v ← v.castAt schema slot (place.index position)
    return v :: (← castElements schema slot place (position + 1) rest)

/-- The casts of the fields of a map or struct at a path. -/
def castFields (schema : Schema) (typer : FieldTyper) (place : Path) :
    List (Identifier × Value) → Except StreamError (List (Identifier × Value))
  | [] => .ok []
  | (name, v) :: rest => do
    let slot ← typer name (place.field name)
    let v ← v.castAt schema slot (place.field name)
    return (name, v) :: (← castFields schema typer place rest)

end

end Value

end ValueStream
