import ValueStream.Value.Basic

/-!
# Fields

The fields of a map or struct are a list of keys and values in the order of insertion. No key
occurs twice: `insert` refuses a key that is there, `ofList` builds fields by inserting, and
`Value.WellFormed` says of a value that the fields of all its maps and structs are so.
-/

namespace ValueStream

/-- Keys and values in the order of insertion. -/
abbrev Fields := List (Identifier × Value)

namespace Fields

/-- The keys in order. -/
def keys (fields : Fields) : List Identifier := fields.map (·.1)

/-- Whether a key is there. -/
def contains (fields : Fields) (key : Identifier) : Bool := fields.keys.contains key

/-- The value of the key with a text. -/
def get? (fields : Fields) (key : String) : Option Value :=
  (fields.find? fun f ↦ f.1.text == key).map (·.2)

/-- Adds a field at the end, unless its key is there. -/
def insert (fields : Fields) (key : Identifier) (v : Value) : Except ModelError Fields :=
  if fields.contains key then .error (.duplicateKey key.text) else .ok (fields ++ [(key, v)])

/-- Fields from a list of keys and values; the first key that occurs twice is refused. -/
def ofList (pairs : List (Identifier × Value)) : Except ModelError Fields :=
  pairs.foldlM (fun fields f ↦ fields.insert f.1 f.2) []

@[simp] theorem keys_nil : keys [] = [] := rfl

@[simp] theorem keys_cons (f : Identifier × Value) (fields : Fields) :
    keys (f :: fields) = f.1 :: keys fields := rfl

@[simp] theorem keys_append (fields more : Fields) :
    keys (fields ++ more) = keys fields ++ keys more := List.map_append ..

theorem contains_iff {fields : Fields} {key : Identifier} :
    fields.contains key = true ↔ key ∈ fields.keys := by
  simp [contains]

/-- Inserting puts the key last and keeps the keys distinct. -/
theorem insert_eq_ok_iff {fields fields' : Fields} {key : Identifier} {v : Value} :
    fields.insert key v = .ok fields' ↔
      key ∉ fields.keys ∧ fields' = fields ++ [(key, v)] := by
  unfold insert
  split
  · next h => simp [contains_iff.1 h]
  · next h =>
    rw [contains_iff] at h
    simp [h, eq_comm]

end Fields

mutual

/-- No map or struct of the value has the same key twice. -/
def Value.WellFormed : Value → Prop
  | .scalar _ => True
  | .map fields => (Fields.keys fields).Nodup ∧ Value.FieldsWellFormed fields
  | .list _ elements => Value.ElementsWellFormed elements
  | .struct _ fields => (Fields.keys fields).Nodup ∧ Value.FieldsWellFormed fields

/-- All elements are well formed. -/
def Value.ElementsWellFormed : List Value → Prop
  | [] => True
  | v :: rest => v.WellFormed ∧ Value.ElementsWellFormed rest

/-- The values of all fields are well formed. -/
def Value.FieldsWellFormed : List (Identifier × Value) → Prop
  | [] => True
  | (_, v) :: rest => v.WellFormed ∧ Value.FieldsWellFormed rest

end

namespace Value

theorem elementsWellFormed_iff {elements : List Value} :
    ElementsWellFormed elements ↔ ∀ v ∈ elements, v.WellFormed := by
  induction elements with
  | nil => simp [ElementsWellFormed]
  | cons v rest ih => simp [ElementsWellFormed, ih]

theorem fieldsWellFormed_iff {fields : Fields} :
    FieldsWellFormed fields ↔ ∀ f ∈ fields, f.2.WellFormed := by
  induction fields with
  | nil => simp [FieldsWellFormed]
  | cons f rest ih => simp [FieldsWellFormed, ih]

/-- The map of distinct keys and values. -/
def mapOfList (pairs : List (Identifier × Value)) : Except ModelError Value :=
  (Fields.ofList pairs).map map

/-- The struct of distinct keys and values. -/
def structOfList (type : QualifiedName) (pairs : List (Identifier × Value)) :
    Except ModelError Value :=
  (Fields.ofList pairs).map (struct type)

end Value

end ValueStream
