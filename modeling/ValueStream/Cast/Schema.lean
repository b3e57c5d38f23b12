import ValueStream.StreamError

/-!
# Schemas

What a cast has to be told: the types of the fields of structs, the struct types that a bare map
may stand for, and casts to named types that take the place of the built-in ones. `Schema` is the
interface, whose answers may depend on the place they are asked for, if only to report it in an
error. A `SchemaTable` is a schema written down: a list of struct types with the types of their
fields, the names that may be inferred, and whether texts of the form `${12}` stand for
integers.
-/

namespace ValueStream

/-- The type of a field, asked for at the place of the field. -/
abbrev FieldTyper := Identifier → Path → Except StreamError TypeRef

/-- Every field is a value of any type but null. -/
def FieldTyper.anyValue : FieldTyper := fun _ _ ↦ .ok .value

/-- What a cast has to be told. -/
structure Schema where
  /-- Whether a bare map may stand for a struct of the type. -/
  infers : QualifiedName → Bool
  /-- The types of the fields of a struct; without an answer every field is a value. -/
  typer : QualifiedName → Path → Except StreamError (Option FieldTyper)
  /-- A cast to a named type in place of the built-in one. -/
  replacement : Value → AtomicType → Path → Option (Except StreamError Value)

/-- The schema that knows nothing. -/
def Schema.empty : Schema where
  infers _ := false
  typer _ _ := .ok none
  replacement _ _ _ := none

/-! ## Tables -/

/-- The types of the fields of a struct. -/
structure FieldTypes where
  /-- The fields that are listed. -/
  listed : List (Identifier × TypeRef)
  /-- The type of all other fields, if there may be others. -/
  others : Option TypeRef

/-- A schema written down. -/
structure SchemaTable where
  /-- The struct types; one without field types makes every cast to it fail. -/
  structs : List (QualifiedName × Option FieldTypes)
  /-- The struct types that a bare map may stand for. -/
  inferred : List QualifiedName
  /-- Whether texts that hold a variable stand for integers. -/
  expandsVariables : Bool

/-- The type of a field as a table of fields gives it. -/
def FieldTypes.typer (t : FieldTypes) : FieldTyper := fun name place ↦
  match (t.listed.lookup name).or t.others with
  | some type => .ok type
  | none => .error (.value place (.unrecognizedField name))

namespace SchemaTable

/-- The types of the fields of a struct. -/
def typer (t : SchemaTable) (type : QualifiedName) (place : Path) :
    Except StreamError (Option FieldTyper) :=
  match t.structs.lookup type with
  | none => .ok none
  | some none => .error (.value place (.noTyper type))
  | some (some fields) => .ok (some fields.typer)

/-- The text between the marks of a variable. -/
def variableText : List Char → Option (List Char)
  | '$' :: '\x7b' :: rest => if rest.getLast? = some '\x7d' then some rest.dropLast else none
  | _ => none

/-- The integer that a variable stands for, where one is asked for. -/
def replacement (t : SchemaTable) (v : Value) (target : AtomicType) (place : Path) :
    Option (Except StreamError Value) :=
  if t.expandsVariables ∧ target.coreType = some (.integer .int64) then
    match v with
    | .scalar (.string s) =>
      (variableText s.toList).map fun digits ↦
        match Integer.read .int64 (String.ofList digits) with
        | some n => .ok (.scalar (.integer .int64 n))
        | none => .error (.value place (.badVariable s))
    | _ => none
  else none

/-- The schema that a table describes. -/
def schema (t : SchemaTable) : Schema where
  infers type := t.inferred.contains type
  typer := t.typer
  replacement := t.replacement

end SchemaTable

end ValueStream
