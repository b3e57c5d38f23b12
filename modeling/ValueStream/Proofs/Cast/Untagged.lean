import ValueStream.Proofs.Cast.Descent
import ValueStream.Proofs.Cast.Conformance

/-!
# Structs that are written as maps

Where a slot names a struct type that may be inferred, a bare map stands for a struct of the type.
`Untagged` relates a value to the same value with any of its structs written as maps, at such slots
only; which slot a part stands in goes by the types of fields that the schema gives on the way to
it, so below a struct whose types it does not give nothing can be left out. The cast tells no
difference, whether it ends in a value or in an error (`Untagged.castAt_eq`).

The two casts take different ways at such a slot and meet at the fields: from there on both go by
the types of fields of the struct. `Value.castFieldsOf` is what they have in common, the question
for the types included, which may be the error that both end in.
-/

namespace ValueStream

/-- The struct type whose types of fields a bare map in a slot goes by, if it is not taken as it
is. -/
def TypeRef.mapType (slot : TypeRef) (schema : Schema) : Option QualifiedName :=
  if slot.takesMaps then none else slot.inferredStruct schema

/-- The slot of a field of a map, or of a struct of a type, at a place. -/
def Schema.fieldSlot (schema : Schema) (place : Path) (type : Option QualifiedName)
    (name : Identifier) : Except StreamError TypeRef := do
  (← schema.fieldTyper place type) name (place.field name)

section
variable (schema : Schema)

mutual

/-- A value at a place, of which structs are written as maps where their slots name them and they
may be inferred. -/
inductive Untagged : Path → TypeRef → Value → Value → Prop
  /-- Nothing is left out. -/
  | same {place : Path} {slot : TypeRef} {v : Value} : Untagged place slot v v
  /-- The type of a struct is left out, which the slot names. -/
  | untag {place : Path} {slot : TypeRef} {a : AtomicType} {fs gs : Fields}
    (hslot : slot.unwrap = .atomic a)
    (ha : a.coreType ≠ some .value ∧ a.coreType ≠ some .symbolMap)
    (hinfers : schema.infers a.name = true) (fields : UntaggedFields place (some a.name) fs gs) :
    Untagged place slot (.struct a.name fs) (.map gs)
  /-- The type of a struct is kept. -/
  | struct {place : Path} {slot : TypeRef} {type : QualifiedName} {fs gs : Fields}
    (fields : UntaggedFields place (some type) fs gs) :
    Untagged place slot (.struct type fs) (.struct type gs)
  /-- In a map. -/
  | map {place : Path} {slot : TypeRef} {fs gs : Fields}
    (fields : UntaggedFields place (slot.mapType schema) fs gs) :
    Untagged place slot (.map fs) (.map gs)
  /-- In a list. -/
  | list {place : Path} {slot : TypeRef} {type result target : ListType} {vs ws : List Value}
    (htarget : slot.listTarget type = some (result, target))
    (elements : UntaggedElements place target.element 0 vs ws) :
    Untagged place slot (.list type vs) (.list type ws)

/-- In the elements of a list at a place, from a position on. -/
inductive UntaggedElements : Path → TypeRef → Nat → List Value → List Value → Prop
  /-- No elements. -/
  | nil {place : Path} {slot : TypeRef} {i : Nat} : UntaggedElements place slot i [] []
  /-- One element, then others. -/
  | cons {place : Path} {slot : TypeRef} {i : Nat} {v w : Value} {vs ws : List Value}
    (h : Untagged (place.index i) slot v w) (hs : UntaggedElements place slot (i + 1) vs ws) :
    UntaggedElements place slot i (v :: vs) (w :: ws)

/-- In the fields of a map, or of a struct of a type, at a place. -/
inductive UntaggedFields : Path → Option QualifiedName → Fields → Fields → Prop
  /-- No fields. -/
  | nil {place : Path} {type : Option QualifiedName} : UntaggedFields place type [] []
  /-- A field with a slot, then others. -/
  | cons {place : Path} {type : Option QualifiedName} {name : Identifier} {slot : TypeRef}
    {v w : Value} {fs gs : Fields} (hslot : schema.fieldSlot place type name = .ok slot)
    (h : Untagged (place.field name) slot v w) (hs : UntaggedFields place type fs gs) :
    UntaggedFields place type ((name, v) :: fs) ((name, w) :: gs)
  /-- A field as it is, whether or not it has a slot, then others. -/
  | same {place : Path} {type : Option QualifiedName} {name : Identifier} {v : Value}
    {fs gs : Fields} (hs : UntaggedFields place type fs gs) :
    UntaggedFields place type ((name, v) :: fs) ((name, v) :: gs)

end

end

/-! ## Where the casts meet -/

namespace Value

variable {schema : Schema} {slot : TypeRef} {place : Path} {fields : Fields}

/-- The casts of the fields of a map, or of a struct of a type, once the schema has been asked for
their types. -/
def castFieldsOf (schema : Schema) (type : Option QualifiedName) (place : Path) (fields : Fields) :
    Except StreamError Fields := do
  castFields schema (← schema.fieldTyper place type) place fields

theorem castFieldsOf_congr {type : Option QualifiedName} {fs gs : Fields}
    (h : ∀ typer, schema.fieldTyper place type = .ok typer →
      castFields schema typer place gs = castFields schema typer place fs) :
    castFieldsOf schema type place gs = castFieldsOf schema type place fs := by
  rw [castFieldsOf, castFieldsOf]
  cases htyper : schema.fieldTyper place type with
  | error e => rfl
  | ok typer => exact h typer htyper

theorem castFields_cons_congr {typer : FieldTyper} {name : Identifier} {v w : Value}
    {fs gs : Fields}
    (h : ∀ slot, typer name (place.field name) = .ok slot →
      w.castAt schema slot (place.field name) = v.castAt schema slot (place.field name))
    (hs : castFields schema typer place gs = castFields schema typer place fs) :
    castFields schema typer place ((name, w) :: gs) =
      castFields schema typer place ((name, v) :: fs) := by
  rw [castFields, castFields, hs]
  cases htype : typer name (place.field name) with
  | error e => rfl
  | ok slot =>
    simp only [bind, Except.bind]
    rw [h slot htype]

theorem castFieldsOf_some (type : QualifiedName) (f : Fields → Value) :
    f <$> castFieldsOf schema (some type) place fields =
      (do let typer ← schema.typer type place
          f <$> castFields schema (typer.getD .anyValue) place fields) := by
  rw [castFieldsOf, Schema.fieldTyper]
  cases schema.typer type place <;> rfl

theorem castAt_struct (type : QualifiedName) :
    (struct type fields).castAt schema slot place =
      match slot.structTarget type with
      | none => .error (.typeCast place slot (.named type))
      | some target => target.ofFields <$> castFieldsOf schema (some type) place fields := by
  rw [castAt]
  cases slot.structTarget type with
  | none => rfl
  | some target => exact (castFieldsOf_some type target.ofFields).symm

theorem castAt_map_of_takesMaps (h : slot.takesMaps = true) :
    (map fields).castAt schema slot place = .map <$> castFieldsOf schema none place fields := by
  rw [castAt, if_pos h]
  rfl

theorem castAt_map_of_inferred {type : QualifiedName} (h : slot.takesMaps = false)
    (hinferred : slot.inferredStruct schema = some type) :
    (map fields).castAt schema slot place =
      .struct type <$> castFieldsOf schema (some type) place fields := by
  rw [castAt, h, hinferred]
  exact (castFieldsOf_some type (.struct type)).symm

/-- A map is cast by the types of fields of the struct that it stands for, if it stands for one. -/
theorem castAt_map_congr {fs gs : Fields}
    (h : castFieldsOf schema (slot.mapType schema) place gs =
      castFieldsOf schema (slot.mapType schema) place fs) :
    (map gs).castAt schema slot place = (map fs).castAt schema slot place := by
  rw [TypeRef.mapType] at h
  cases htakes : slot.takesMaps with
  | true =>
    rw [if_pos htakes] at h
    rw [castAt_map_of_takesMaps htakes, castAt_map_of_takesMaps htakes, h]
  | false =>
    rw [if_neg (by simp [htakes])] at h
    cases hinferred : slot.inferredStruct schema with
    | none => rw [castAt, castAt, htakes, hinferred]; rfl
    | some type =>
      rw [hinferred] at h
      rw [castAt_map_of_inferred htakes hinferred, castAt_map_of_inferred htakes hinferred, h]

/-- **A bare map stands for the struct** that its slot names: up to the fields both casts come to
the same. -/
theorem castAt_map_eq_struct {a : AtomicType} (hslot : slot.unwrap = .atomic a)
    (ha : a.coreType ≠ some .value ∧ a.coreType ≠ some .symbolMap)
    (hinfers : schema.infers a.name = true) :
    (map fields).castAt schema slot place = (struct a.name fields).castAt schema slot place := by
  have hinferred : slot.inferredStruct schema = some a.name :=
    TypeRef.inferredStruct_eq_some_iff.2 ⟨a, hslot, rfl, hinfers⟩
  have htakes : slot.takesMaps = false := by
    rw [TypeRef.takesMaps, hslot, TypeRef.isValue_atomic, TypeRef.isSymbolMap_atomic]
    simp [ha]
  rw [castAt_map_of_inferred htakes hinferred, castAt_struct,
    TypeRef.structTarget_of_inferred hinferred]
  rfl

end Value

/-! ## Values -/

section
variable {schema : Schema}

mutual

/-- **The cast tells no difference** whether a struct is written as a map. -/
theorem Untagged.castAt_eq : ∀ {place : Path} {slot : TypeRef} {v w : Value},
    Untagged schema place slot v w → w.castAt schema slot place = v.castAt schema slot place
  | _, _, _, _, .same => rfl
  | _, _, _, _, .untag hslot ha hinfers fields => by
    rw [Value.castAt_map_eq_struct hslot ha hinfers, Value.castAt_struct, Value.castAt_struct,
      Value.castFieldsOf_congr (UntaggedFields.castFields_eq fields)]
  | _, _, _, _, .struct fields => by
    rw [Value.castAt_struct, Value.castAt_struct,
      Value.castFieldsOf_congr (UntaggedFields.castFields_eq fields)]
  | _, _, _, _, .map fields =>
    Value.castAt_map_congr (Value.castFieldsOf_congr (UntaggedFields.castFields_eq fields))
  | _, _, _, _, .list htarget elements => by
    rw [Value.castAt, Value.castAt, htarget]
    simp only [UntaggedElements.castElements_eq elements]

theorem UntaggedElements.castElements_eq : ∀ {place : Path} {slot : TypeRef} {i : Nat}
    {vs ws : List Value}, UntaggedElements schema place slot i vs ws →
      Value.castElements schema slot place i ws = Value.castElements schema slot place i vs
  | _, _, _, _, _, .nil => rfl
  | _, _, _, _, _, .cons h hs => by
    rw [Value.castElements, Value.castElements, Untagged.castAt_eq h,
      UntaggedElements.castElements_eq hs]

theorem UntaggedFields.castFields_eq : ∀ {place : Path} {type : Option QualifiedName}
    {fs gs : Fields}, UntaggedFields schema place type fs gs →
      ∀ typer, schema.fieldTyper place type = .ok typer →
        Value.castFields schema typer place gs = Value.castFields schema typer place fs
  | _, _, _, _, .nil, _, _ => rfl
  | _, _, _, _, .cons hslot h hs, typer, htyper => by
    rw [Schema.fieldSlot, htyper] at hslot
    refine Value.castFields_cons_congr (fun slot htype ↦ ?_)
      (UntaggedFields.castFields_eq hs typer htyper)
    obtain rfl := Except.ok.inj (hslot.symm.trans htype)
    exact Untagged.castAt_eq h
  | _, _, _, _, .same hs, typer, htyper =>
    Value.castFields_cons_congr (fun _ _ ↦ rfl) (UntaggedFields.castFields_eq hs typer htyper)

end

theorem UntaggedFields.keys_eq : ∀ {place : Path} {type : Option QualifiedName} {fs gs : Fields},
    UntaggedFields schema place type fs gs → Fields.keys gs = Fields.keys fs
  | _, _, _, _, .nil => rfl
  | _, _, _, _, .cons _ _ hs => congrArg (_ :: ·) (UntaggedFields.keys_eq hs)
  | _, _, _, _, .same hs => congrArg (_ :: ·) (UntaggedFields.keys_eq hs)

mutual

theorem Untagged.wellFormed : ∀ {place : Path} {slot : TypeRef} {v w : Value},
    Untagged schema place slot v w → v.WellFormed → w.WellFormed
  | _, _, _, _, .same, h => h
  | _, _, _, _, .untag _ _ _ fields, h | _, _, _, _, .struct fields, h
  | _, _, _, _, .map fields, h => by
    simp only [Value.WellFormed] at h ⊢
    exact ⟨fields.keys_eq ▸ h.1, UntaggedFields.wellFormed fields h.2⟩
  | _, _, _, _, .list _ elements, h => by
    simp only [Value.WellFormed] at h ⊢
    exact UntaggedElements.wellFormed elements h

theorem UntaggedElements.wellFormed : ∀ {place : Path} {slot : TypeRef} {i : Nat}
    {vs ws : List Value}, UntaggedElements schema place slot i vs ws →
      Value.ElementsWellFormed vs → Value.ElementsWellFormed ws
  | _, _, _, _, _, .nil, h => h
  | _, _, _, _, _, .cons hv hs, h => by
    simp only [Value.ElementsWellFormed] at h ⊢
    exact ⟨Untagged.wellFormed hv h.1, UntaggedElements.wellFormed hs h.2⟩

theorem UntaggedFields.wellFormed : ∀ {place : Path} {type : Option QualifiedName}
    {fs gs : Fields}, UntaggedFields schema place type fs gs →
      Value.FieldsWellFormed fs → Value.FieldsWellFormed gs
  | _, _, _, _, .nil, h => h
  | _, _, _, _, .cons _ hv hs, h => by
    simp only [Value.FieldsWellFormed] at h ⊢
    exact ⟨Untagged.wellFormed hv h.1, UntaggedFields.wellFormed hs h.2⟩
  | _, _, _, _, .same hs, h => by
    simp only [Value.FieldsWellFormed] at h ⊢
    exact ⟨h.1, UntaggedFields.wellFormed hs h.2⟩

end

end

namespace Value

/-- **A bare map casts like the struct that it stands for**: any structs of a value may be written
as maps at slots that name them, if they may be inferred, and the cast ends in the same value or in
the same error. -/
theorem cast_untagged {schema : Schema} {type : TypeRef} {start : Path} {v w : Value}
    (h : v.WellFormed) (hw : Untagged schema start type v w) :
    w.cast type schema start = v.cast type schema start := by
  rw [cast_eq_castAt h, cast_eq_castAt (hw.wellFormed h), hw.castAt_eq]

/-- One struct in another is written as a map, where a layer admits null too, and so is the other
one in the second element of a list; a text is cast in each of them. -/
theorem cast_untagged_of_list :
    let a : Identifier := ⟨"a", by decide⟩
    let b : Identifier := ⟨"b", by decide⟩
    let type : QualifiedName := ⟨"ns@v1", "T", by decide, by decide⟩
    let types : FieldTypes := ⟨[(a, .nullable (.named type)), (b, .core .boolean)], none⟩
    let t : SchemaTable := ⟨[(type, some types)], [type], false⟩
    let slot : TypeRef := .list ⟨.named type, false⟩
    let text : Fields := [(b, .scalar (.string "true"))]
    let truth : Fields := [(b, .scalar (.boolean true))]
    let v : Value := .list .opaque_ [.struct type [(a, .struct type text)], .struct type text]
    let w : Value := .list .opaque_ [.struct type [(a, .map text)], .map text]
    v.WellFormed ∧ Untagged t.schema .root slot v w ∧
      w.cast slot t.schema .root = v.cast slot t.schema .root ∧
      v.cast slot t.schema .root = .ok
        (.list ⟨.named type, false⟩ [.struct type [(a, .struct type truth)], .struct type truth]) := by
  intro a b type types t slot text truth v w
  have h : v.WellFormed := by
    simp [v, text, WellFormed, ElementsWellFormed, FieldsWellFormed, Fields.keys, a, b]
  have hname : (AtomicType.mk type none).coreType ≠ some .value ∧
      (AtomicType.mk type none).coreType ≠ some .symbolMap := by
    constructor <;> decide
  have hinner : Untagged t.schema ((Path.root.index 0).field a) (.nullable (.named type))
      (.struct type text) (.map text) := .untag rfl hname (by rfl) (.same .nil)
  have hw : Untagged t.schema .root slot v w :=
    .list rfl (.cons (.struct (.cons rfl hinner .nil))
      (.cons (.untag rfl hname (by rfl) (.same .nil)) .nil))
  exact ⟨h, hw, cast_untagged h hw, (cast_eq_ok_iff h).2 rfl⟩

end Value

end ValueStream
