import Mathlib.Logic.Basic
import ValueStream.Cast.Descent

/-!
# What a slot has taken

A cast of a list, map or struct decides by the type of the slot below the layers that admit null.
When such a cast gives a value, the slot has one of few types, and the parts of the value are the
casts of the parts; there is a lemma for each kind of value, which says just when the cast gives
what. `AtomicType.Admits` says which values a named type has: whatever fills a slot of the type is
one of them.
-/

namespace ValueStream

section
variable {ε α β : Type}

theorem bind_eq_ok_iff {r : Except ε α} {f : α → Except ε β} {b : β} :
    r >>= f = .ok b ↔ ∃ a, r = .ok a ∧ f a = .ok b := by
  cases r <;> simp [bind, Except.bind]

theorem map_eq_ok_iff {r : Except ε α} {f : α → β} {b : β} :
    f <$> r = .ok b ↔ ∃ a, r = .ok a ∧ f a = b := by
  cases r <;> simp [Functor.map, Except.map]

end

/-! ## Values of a named type -/

/-- Whether a value is of a named type, whatever its restriction says: of the type of every value
all but null are, and of any other type those whose own type it is. -/
def AtomicType.Admits (a : AtomicType) (v : Value) : Prop :=
  if a.coreType = some .value then v ≠ .null else v.typeOf = .named a.name

namespace AtomicType

variable {a : AtomicType}

theorem name_eq_of_coreType {t : CoreType} (h : a.coreType = some t) : a.name = t.qualifiedName :=
  CoreType.ofQualifiedName_eq_some_iff.1 h

theorem admits_of_value (h : a.coreType = some .value) {v : Value} (hv : v ≠ .null) :
    a.Admits v := by
  rwa [Admits, if_pos h]

theorem admits_of_typeOf {v : Value} (h : v.typeOf = .named a.name) (hv : v ≠ .null) :
    a.Admits v := by
  rw [Admits]
  split
  · exact hv
  · exact h

theorem admits_map (h : a.coreType = some .symbolMap ∨ a.coreType = some .value)
    (fields : List (Identifier × Value)) : a.Admits (.map fields) := by
  rcases h with h | h
  · exact admits_of_typeOf (by rw [name_eq_of_coreType h]; rfl) (by simp [Value.null])
  · exact admits_of_value h (by simp [Value.null])

theorem admits_struct {type : QualifiedName} (h : a.name = type ∨ a.coreType = some .value)
    (fields : List (Identifier × Value)) : a.Admits (.struct type fields) := by
  rcases h with rfl | h
  · exact admits_of_typeOf rfl (by simp [Value.null])
  · exact admits_of_value h (by simp [Value.null])

end AtomicType

/-! ## Slots for lists, maps and structs -/

namespace TypeRef

variable {slot : TypeRef} {type : QualifiedName}

theorem isValue_atomic (a : AtomicType) :
    (atomic a).isValue = (a.coreType == some .value) := rfl

theorem isSymbolMap_atomic (a : AtomicType) :
    (atomic a).isSymbolMap = (a.coreType == some .symbolMap) := rfl

theorem listTarget_eq_some_iff {given result target : ListType} :
    slot.listTarget given = some (result, target) ↔
      slot.unwrap = .list target ∧ result = target ∨
        ∃ a, slot.unwrap = .atomic a ∧ a.coreType = some .value ∧ result = given ∧
          target = .opaque_ := by
  rw [listTarget]
  cases slot.unwrap with
  | list expected =>
    simp only [Option.some.injEq, Prod.mk.injEq, list.injEq, reduceCtorEq, false_and, exists_false,
      or_false]
    constructor
    · rintro ⟨rfl, rfl⟩
      exact ⟨rfl, rfl⟩
    · rintro ⟨rfl, rfl⟩
      exact ⟨rfl, rfl⟩
  | atomic a =>
    by_cases h : a.coreType = some .value
    · simp [isValue_atomic, h, @eq_comm _ given, @eq_comm _ ListType.opaque_]
    · simp [isValue_atomic, h]
  | nullable inner => simp [isValue, coreType]

theorem structTarget_eq_some_iff {target : FieldsTarget} :
    slot.structTarget type = some target ↔
      ∃ a, slot.unwrap = .atomic a ∧
        ((a.name = type ∨ a.coreType = some .value) ∧ target = .struct type ∨
          ¬(a.name = type ∨ a.coreType = some .value) ∧ a.coreType = some .symbolMap ∧
            target = .map) := by
  rw [structTarget]
  cases slot.unwrap with
  | atomic a =>
    simp only [isValue_atomic, isSymbolMap_atomic, beq_iff_eq, atomic.injEq, exists_eq_left']
    by_cases h : a.name = type ∨ a.coreType = some .value
    · simp [h, @eq_comm _ target]
    · obtain ⟨hname, hvalue⟩ := not_or.1 h
      by_cases hmap : a.coreType = some .symbolMap <;>
        simp [hname, hvalue, hmap, @eq_comm _ target]
  | list expected => simp
  | nullable inner => simp

theorem takesMaps_iff :
    slot.takesMaps = true ↔
      ∃ a, slot.unwrap = .atomic a ∧
        (a.coreType = some .symbolMap ∨ a.coreType = some .value) := by
  rw [takesMaps]
  cases slot.unwrap <;> simp [isValue, isSymbolMap, coreType]

theorem inferredStruct_eq_some_iff {schema : Schema} :
    slot.inferredStruct schema = some type ↔
      ∃ a, slot.unwrap = .atomic a ∧ a.name = type ∧ schema.infers type = true := by
  rw [inferredStruct]
  cases slot.unwrap with
  | atomic a =>
    simp only [Option.ite_none_right_eq_some, Option.some.injEq, atomic.injEq, exists_eq_left']
    exact ⟨fun ⟨h, hname⟩ ↦ ⟨hname, hname ▸ h⟩, fun ⟨hname, h⟩ ↦ ⟨hname ▸ h, hname⟩⟩
  | list expected => simp
  | nullable inner => simp

/-- A struct that a bare map stands for is taken as it is. -/
theorem structTarget_of_inferred {schema : Schema} (h : slot.inferredStruct schema = some type) :
    slot.structTarget type = some (.struct type) := by
  obtain ⟨a, ha, hname, -⟩ := inferredStruct_eq_some_iff.1 h
  exact structTarget_eq_some_iff.2 ⟨a, ha, .inl ⟨.inl hname, rfl⟩⟩

end TypeRef

/-! ## Casts that give a value -/

/-- The types of the fields of a map, or of a struct of a type: where there is no type, or the
schema does not know its fields, every field is a value. -/
def Schema.fieldTyper (schema : Schema) (place : Path) :
    Option QualifiedName → Except StreamError FieldTyper
  | none => .ok .anyValue
  | some type => (·.getD .anyValue) <$> schema.typer type place

namespace Value

variable {schema : Schema} {slot : TypeRef} {place : Path} {w : Value}

/-- What is returned after the check that a list has elements if it must. -/
private theorem checked_eq_ok_iff {target : ListType} {ws : List Value} {e : StreamError}
    {v : Value} :
    (do
      if ws.isEmpty && !target.allowsEmpty then Except.error e
      return v) = .ok w ↔ (ws = [] → target.allowsEmpty = true) ∧ v = w := by
  cases hallows : target.allowsEmpty <;> cases ws <;> simp [pure, Except.pure, bind, Except.bind]

theorem castAt_list_eq_ok_iff {given : ListType} {elements : List Value} :
    (list given elements).castAt schema slot place = .ok w ↔
      ∃ result target ws, slot.listTarget given = some (result, target) ∧
        castElements schema target.element place 0 elements = .ok ws ∧
        (ws = [] → target.allowsEmpty = true) ∧ list result ws = w := by
  rw [castAt]
  cases slot.listTarget given with
  | none => simp
  | some t =>
    obtain ⟨result, target⟩ := t
    simp only [bind_eq_ok_iff, checked_eq_ok_iff]
    simp [and_assoc]

theorem castAt_map_eq_ok_iff {fields : List (Identifier × Value)} :
    (map fields).castAt schema slot place = .ok w ↔
      slot.takesMaps = true ∧
          (∃ ws, castFields schema .anyValue place fields = .ok ws ∧ map ws = w) ∨
        slot.takesMaps = false ∧ ∃ type typer ws, slot.inferredStruct schema = some type ∧
          schema.fieldTyper place (some type) = .ok typer ∧
          castFields schema typer place fields = .ok ws ∧ struct type ws = w := by
  rw [castAt]
  cases slot.takesMaps with
  | true => simp [map_eq_ok_iff]
  | false =>
    cases slot.inferredStruct schema with
    | none => simp
    | some type => simp [bind_eq_ok_iff, map_eq_ok_iff, Schema.fieldTyper]

theorem castAt_struct_eq_ok_iff {type : QualifiedName} {fields : List (Identifier × Value)} :
    (struct type fields).castAt schema slot place = .ok w ↔
      ∃ target typer ws, slot.structTarget type = some target ∧
        schema.fieldTyper place (some type) = .ok typer ∧
        castFields schema typer place fields = .ok ws ∧ target.ofFields ws = w := by
  rw [castAt]
  cases slot.structTarget type with
  | none => simp
  | some target => simp [bind_eq_ok_iff, map_eq_ok_iff, Schema.fieldTyper]

theorem castElements_cons_eq_ok_iff {v : Value} {rest ws : List Value} {position : Nat} :
    castElements schema slot place position (v :: rest) = .ok ws ↔
      ∃ w others, v.castAt schema slot (place.index position) = .ok w ∧
        castElements schema slot place (position + 1) rest = .ok others ∧ w :: others = ws := by
  simp only [castElements, bind_eq_ok_iff]
  simp [pure, Except.pure]

theorem castFields_cons_eq_ok_iff {typer : FieldTyper} {name : Identifier} {v : Value}
    {rest ws : List (Identifier × Value)} :
    castFields schema typer place ((name, v) :: rest) = .ok ws ↔
      ∃ slot w others, typer name (place.field name) = .ok slot ∧
        v.castAt schema slot (place.field name) = .ok w ∧
        castFields schema typer place rest = .ok others ∧ (name, w) :: others = ws := by
  simp only [castFields, bind_eq_ok_iff]
  simp [pure, Except.pure]

end Value

end ValueStream
