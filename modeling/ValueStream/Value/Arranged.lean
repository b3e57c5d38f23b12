import ValueStream.Value.Fields

/-!
# Arranged values

A value is arranged when the fields of each of its structs stand in the order that is given for the
struct type. The order need not name all fields, and fields may be missing, so the rule is that of
somebody who hands the fields on as they come and holds back only what must wait: a field that the
order does not name goes at once; a field whose turn it is goes at once, and after it those held
back whose turn has come; any other field is held back. When there are no more fields, those still
held back go in order.
-/

namespace ValueStream

namespace Fields

/-- The field with a name, and the others. -/
def take? (held : Fields) (name : Identifier) : Option (Value × Fields) :=
  (held.lookup name).map fun v ↦ (v, held.filter (·.1 != name))

/-- The fields held back whose turn has come, with what remains of the order and of what is held. -/
def ready (held : Fields) : List Identifier → Fields × List Identifier × Fields
  | [] => ([], [], held)
  | name :: turns =>
    match take? held name with
    | none => ([], name :: turns, held)
    | some (v, held) =>
      let (out, turns, held) := ready held turns
      ((name, v) :: out, turns, held)

/-- All fields held back, in order. -/
def rest (held : Fields) : List Identifier → Fields
  | [] => []
  | name :: turns =>
    match take? held name with
    | none => rest held turns
    | some (v, held) => (name, v) :: rest held turns

/-- Fields in the order they go, from the names whose turn is to come and the fields held back. -/
def arrangeFrom (order turns : List Identifier) (held : Fields) : Fields → Fields
  | [] => rest held turns
  | (name, v) :: fields =>
    if name ∉ order then (name, v) :: arrangeFrom order turns held fields
    else
      match turns with
      | [] => arrangeFrom order turns ((name, v) :: held) fields
      | turn :: later =>
        if turn = name then
          let (out, turns, held) := ready held later
          (name, v) :: (out ++ arrangeFrom order turns held fields)
        else arrangeFrom order (turn :: later) ((name, v) :: held) fields

/-- Fields in the order they go. -/
def arrange (order : List Identifier) (fields : Fields) : Fields :=
  arrangeFrom order order [] fields

end Fields

namespace Value

mutual

/-- The value with the fields of all its structs in order. -/
def arranged (orders : QualifiedName → List Identifier) : Value → Value
  | .scalar s => .scalar s
  | .map fields => .map (arrangedFields orders fields)
  | .list type elements => .list type (arrangedElements orders elements)
  | .struct type fields =>
    .struct type (Fields.arrange (orders type) (arrangedFields orders fields))

/-- The arranged elements of a list. -/
def arrangedElements (orders : QualifiedName → List Identifier) : List Value → List Value
  | [] => []
  | v :: rest => v.arranged orders :: arrangedElements orders rest

/-- Fields with arranged values. -/
def arrangedFields (orders : QualifiedName → List Identifier) :
    List (Identifier × Value) → List (Identifier × Value)
  | [] => []
  | (name, v) :: rest => (name, v.arranged orders) :: arrangedFields orders rest

end

theorem arrangedElements_eq_map (orders : QualifiedName → List Identifier)
    (elements : List Value) :
    arrangedElements orders elements = elements.map (arranged orders) := by
  induction elements with
  | nil => simp [arrangedElements]
  | cons v rest ih => simp [arrangedElements, ih]

theorem arrangedFields_eq_map (orders : QualifiedName → List Identifier) (fields : Fields) :
    arrangedFields orders fields = fields.map fun f ↦ (f.1, f.2.arranged orders) := by
  induction fields with
  | nil => simp [arrangedFields]
  | cons f rest ih => simp [arrangedFields, ih]

end Value

end ValueStream
