import ValueStream.Proofs.Cast.Descent
import ValueStream.Proofs.Cast.Scalar

/-!
# Casts leave what fits

A value fits a type if nothing in it has to be cast: each scalar is one of the named type of its
slot and is accepted by the restriction, each list carries the list type of its slot, and the fields
of structs fit the types that the schema gives for them. `Fits` says so by itself, without a cast,
and it is the cast that has to keep up with it: what fits comes through as it is, whatever its depth
(`Schema.LeavesFitting.castAt_eq`, by
recursion on the derivation).

The layers of a slot that admit null are taken off one at a time in `Fits`, and all at once in the
cast of a list, map or struct. Both come to the same, since such a cast asks only for the type below
all layers (`Value.castAt_layer`).
-/

namespace ValueStream

/-! ## Values that fit a type -/

/-- The core type of a scalar, unless it is a value of an enum. -/
def Scalar.coreType? : Scalar → Option CoreType
  | null => some .null
  | boolean _ => some .boolean
  | buffer _ => some .buffer
  | string _ => some .string
  | integer k _ => some (.integer k)
  | float k _ => some (.float k)
  | timestamp _ => some .timestamp
  | enum _ _ => none

/-- Whether a scalar is one of a named type: of the type of every value all but null are, of another
core type those of the kind, and of any other name the values of the enum. -/
def AtomicType.IsOf (a : AtomicType) (s : Scalar) : Prop :=
  match a.coreType with
  | some .value => s ≠ .null
  | some t => s.coreType? = some t
  | none => ∃ value, s = .enum a.name value

section
variable (schema : Schema)

mutual

/-- A value at a place fits a type. -/
inductive Fits : Path → TypeRef → Value → Prop
  /-- Null fits a type that admits it. -/
  | null {place : Path} {slot : TypeRef} : Fits place (.nullable slot) .null
  /-- So does what fits the type below. -/
  | layer {place : Path} {slot : TypeRef} {v : Value} (h : Fits place slot v) :
    Fits place (.nullable slot) v
  /-- A list of just the type, which is not empty unless it may be. -/
  | list {place : Path} {type : ListType} {vs : List Value}
    (elements : FitElements place type.element 0 vs)
    (nonempty : vs = [] → type.allowsEmpty = true) : Fits place (.list type) (.list type vs)
  /-- A scalar of the named type that the restriction accepts. -/
  | scalar {place : Path} {a : AtomicType} {s : Scalar} (h : a.IsOf s)
    (accepted : a.accepts (.scalar s) = true) : Fits place (.atomic a) (.scalar s)
  /-- Among all values a list of any type, whose elements are values. -/
  | anyList {place : Path} {a : AtomicType} {type : ListType} {vs : List Value}
    (ha : a.coreType = some .value) (elements : FitElements place .value 0 vs) :
    Fits place (.atomic a) (.list type vs)
  /-- Among all values and among the maps a map, whose fields are values. -/
  | map {place : Path} {a : AtomicType} {fields : Fields}
    (ha : a.coreType = some .symbolMap ∨ a.coreType = some .value)
    (h : FitFields place .anyValue fields) : Fits place (.atomic a) (.map fields)
  /-- Among all values, and by its own name, a struct whose fields fit the types that the schema
  gives for them. -/
  | struct {place : Path} {a : AtomicType} {type : QualifiedName} {fields : Fields}
    {typer : FieldTyper} (ha : a.coreType = some .value ∨ a.coreType = none ∧ a.name = type)
    (htyper : schema.fieldTyper place (some type) = .ok typer)
    (h : FitFields place typer fields) : Fits place (.atomic a) (.struct type fields)

/-- The elements of a list at a place fit a type, from a position on. -/
inductive FitElements : Path → TypeRef → Nat → List Value → Prop
  /-- No elements. -/
  | nil {place : Path} {slot : TypeRef} {i : Nat} : FitElements place slot i []
  /-- One element, then others. -/
  | cons {place : Path} {slot : TypeRef} {i : Nat} {v : Value} {vs : List Value}
    (h : Fits (place.index i) slot v) (hs : FitElements place slot (i + 1) vs) :
    FitElements place slot i (v :: vs)

/-- The fields of a map or struct at a place fit the types that are given for them. -/
inductive FitFields : Path → FieldTyper → Fields → Prop
  /-- No fields. -/
  | nil {place : Path} {typer : FieldTyper} : FitFields place typer []
  /-- One field, then others. -/
  | cons {place : Path} {typer : FieldTyper} {name : Identifier} {slot : TypeRef} {v : Value}
    {fields : Fields} (htype : typer name (place.field name) = .ok slot)
    (h : Fits (place.field name) slot v) (hs : FitFields place typer fields) :
    FitFields place typer ((name, v) :: fields)

end

end

/-! ## Scalars -/

/-- A schema leaves a scalar to the built-in casts, or gives it back, where it is one of the named
type that is asked for. -/
def Schema.LeavesFitting (schema : Schema) : Prop :=
  ∀ (a : AtomicType) (s : Scalar) (place : Path), a.IsOf s →
    schema.replacement (.scalar s) a place = none ∨
      schema.replacement (.scalar s) a place = some (.ok (.scalar s))

/-- A table casts texts to integers, which are none. -/
theorem SchemaTable.leavesFitting (t : SchemaTable) : t.schema.LeavesFitting := by
  intro a s place h
  left
  cases houtcome : t.schema.replacement (.scalar s) a place with
  | none => rfl
  | some outcome =>
    obtain ⟨ha, ⟨text, hs⟩, -⟩ := replacement_eq_some houtcome
    obtain rfl := Value.scalar.inj hs
    simp [AtomicType.IsOf, ha, Scalar.coreType?] at h

namespace Cast

variable {schema : Schema} {a : AtomicType} {s : Scalar} {place : Path}

/-- The built-in cast leaves a scalar of the named type as it is. -/
theorem unrestricted_of_isOf (h : a.IsOf s) (callType : TypeRef) (path : Path) :
    unrestricted a (.scalar s) callType path = .ok (.scalar s) := by
  rw [AtomicType.IsOf] at h
  split at h
  · next ha =>
    rw [unrestricted_of_ne_null (scalar_ne_null h)]
    simp [toNamed, ha]
  · next t htype ha =>
    cases s <;> simp only [Scalar.coreType?, Option.some.injEq, reduceCtorEq] at h <;> subst h <;>
      simp [unrestricted, toNamed, ha, toBoolean, toBuffer, toText, toInteger, toFloat, toTimestamp]
  · next ha =>
    obtain ⟨value, rfl⟩ := h
    simp [unrestricted, toNamed, ha, toEnum]

theorem named_of_isOf (hschema : schema.LeavesFitting) (h : a.IsOf s)
    (accepted : a.accepts (.scalar s) = true) (slot : TypeRef) :
    named schema (.scalar s) a slot place = .ok (.scalar s) := by
  refine named_eq_ok_iff.2 ⟨?_, accepted⟩
  rcases hschema a s place h with hnone | hsame
  · exact .inr ⟨hnone, unrestricted_of_isOf h slot place⟩
  · exact .inl hsame

/-- Whatever the whole slot is, a scalar that fits a type below some layers comes through. -/
theorem scalar_of_fits (hschema : schema.LeavesFitting) (whole : TypeRef) :
    ∀ {slot : TypeRef} {s : Scalar}, Fits schema place slot (.scalar s) →
      scalar schema (.scalar s) whole place slot = .ok (.scalar s)
  | .atomic a, s, h => by
    cases h with
    | scalar h accepted => exact named_of_isOf hschema h accepted whole
  | .list type, s, h => by cases h
  | .nullable slot, s, h => by
    by_cases hs : s = .null
    · subst hs
      rfl
    · rw [scalar_nullable (scalar_ne_null hs)]
      cases h with
      | null => exact absurd rfl hs
      | layer h => exact scalar_of_fits hschema whole h

end Cast

/-! ## Values -/

/-- A list, map or struct is cast by the type below the layers that admit null. -/
theorem Value.castAt_layer {schema : Schema} {slot : TypeRef} {place : Path} {v w : Value}
    (hv : v.isScalar = false) (h : v.castAt schema slot place = .ok w) :
    v.castAt schema (.nullable slot) place = .ok w := by
  cases v with
  | scalar s => cases hv
  | list type vs =>
    obtain ⟨result, target, ws, htarget, h⟩ := castAt_list_eq_ok_iff.1 h
    exact castAt_list_eq_ok_iff.2 ⟨result, target, ws, htarget, h⟩
  | map fields =>
    have h := castAt_map_eq_ok_iff.1 h
    exact castAt_map_eq_ok_iff.2 h
  | struct type fields =>
    obtain ⟨target, typer, ws, htarget, h⟩ := castAt_struct_eq_ok_iff.1 h
    exact castAt_struct_eq_ok_iff.2 ⟨target, typer, ws, htarget, h⟩

section
variable {schema : Schema}

mutual

/-- **A cast leaves a value that fits as it is.** -/
theorem Schema.LeavesFitting.castAt_eq (hschema : schema.LeavesFitting) :
    ∀ {place : Path} {slot : TypeRef} {v : Value}, Fits schema place slot v →
      v.castAt schema slot place = .ok v
  | _, _, _, .null => rfl
  | place, .nullable slot, v, .layer h => by
    cases hv : v.isScalar with
    | false => exact Value.castAt_layer hv (hschema.castAt_eq h)
    | true =>
      cases v with
      | scalar s => exact Cast.scalar_of_fits hschema (.nullable slot) (.layer h)
      | map | list | struct => cases hv
  | _, _, _, .list elements nonempty =>
    Value.castAt_list_eq_ok_iff.2 ⟨_, _, _, TypeRef.listTarget_eq_some_iff.2 (.inl ⟨rfl, rfl⟩),
      hschema.castElements_eq elements, nonempty, rfl⟩
  | _, .atomic a, _, .scalar h accepted =>
    Cast.scalar_of_fits hschema (.atomic a) (.scalar h accepted)
  | _, _, _, .anyList ha elements =>
    Value.castAt_list_eq_ok_iff.2 ⟨_, _, _,
      TypeRef.listTarget_eq_some_iff.2 (.inr ⟨_, rfl, ha, rfl, rfl⟩),
      hschema.castElements_eq elements, fun _ ↦ rfl, rfl⟩
  | _, _, _, .map ha h =>
    Value.castAt_map_eq_ok_iff.2 (.inl ⟨TypeRef.takesMaps_iff.2 ⟨_, rfl, ha⟩, _,
      hschema.castFields_eq h, rfl⟩)
  | _, .atomic a, .struct type _, .struct ha htyper h => by
    have htarget : (TypeRef.atomic a).structTarget type = some (.struct type) :=
      TypeRef.structTarget_eq_some_iff.2 ⟨a, rfl, .inl ⟨ha.symm.imp_left And.right, rfl⟩⟩
    exact Value.castAt_struct_eq_ok_iff.2
      ⟨_, _, _, htarget, htyper, hschema.castFields_eq h, rfl⟩

theorem Schema.LeavesFitting.castElements_eq (hschema : schema.LeavesFitting) :
    ∀ {place : Path} {slot : TypeRef} {i : Nat} {vs : List Value},
      FitElements schema place slot i vs → Value.castElements schema slot place i vs = .ok vs
  | _, _, _, _, .nil => rfl
  | _, _, _, _, .cons h hs => Value.castElements_cons_eq_ok_iff.2
    ⟨_, _, hschema.castAt_eq h, hschema.castElements_eq hs, rfl⟩

theorem Schema.LeavesFitting.castFields_eq (hschema : schema.LeavesFitting) :
    ∀ {place : Path} {typer : FieldTyper} {fields : Fields},
      FitFields schema place typer fields →
        Value.castFields schema typer place fields = .ok fields
  | _, _, _, .nil => rfl
  | _, _, _, .cons htype h hs => Value.castFields_cons_eq_ok_iff.2
    ⟨_, _, _, htype, hschema.castAt_eq h, hschema.castFields_eq hs, rfl⟩

end

end

namespace Value

/-- **Casting what fits changes nothing**, by whatever table the schema goes, and by any schema that
leaves a scalar of the type asked for as it is. -/
theorem cast_keeps_fitting {v : Value} (h : v.WellFormed) (type : TypeRef) (start : Path) :
    (∀ t : SchemaTable, Fits t.schema start type v → v.cast type t.schema start = .ok v) ∧
    ∀ schema : Schema, schema.LeavesFitting → Fits schema start type v →
      v.cast type schema start = .ok v := by
  have hkeeps : ∀ schema : Schema, schema.LeavesFitting → Fits schema start type v →
      v.cast type schema start = .ok v := by
    intro schema hschema hfits
    exact (cast_eq_ok_iff h).2 (hschema.castAt_eq hfits)
  exact ⟨fun t ↦ hkeeps t.schema t.leavesFitting, hkeeps⟩

/-- A struct with a list of natural numbers and null, among the values of a list in another one. -/
theorem cast_keeps_fitting_of_nested :
    let a : Identifier := ⟨"a", by decide⟩
    let b : Identifier := ⟨"b", by decide⟩
    let c : Identifier := ⟨"c", by decide⟩
    let type : QualifiedName := ⟨"ns@v1", "T", by decide, by decide⟩
    let color : QualifiedName := ⟨"ns@v1", "Color", by decide, by decide⟩
    let zero : Value := .scalar (.integer .int32 (.wrap .int32 0))
    let natural : AtomicType :=
      ⟨(CoreType.integer .int32).qualifiedName, some (.range ⟨some zero, true, none, false⟩)⟩
    let naturals : ListType := ⟨.atomic natural, false⟩
    let t : SchemaTable :=
      ⟨[(type, some ⟨[(a, .list naturals), (b, .nullable (.named color))], some .value⟩)], [],
        false⟩
    let inner : Value := .struct type [(a, .list naturals [zero]), (b, .null)]
    let v : Value := .struct type
      [(b, .scalar (.enum color a)), (c, .list .opaque_ [.map [(a, inner)]])]
    v.WellFormed ∧ t.schema.LeavesFitting ∧
      Fits t.schema .root (.nullable (.named type)) v ∧
      v.cast (.nullable (.named type)) t.schema .root = .ok v := by
  intro a b c type color zero natural naturals t inner v
  have h : v.WellFormed := by
    simp [v, inner, WellFormed, FieldsWellFormed, ElementsWellFormed, zero, null, Fields.keys,
      a, b, c]
  have hzero : Fits t.schema (((((Path.root.field c).index 0).field a).field a).index 0)
      (.atomic natural) zero := .scalar rfl (by rfl)
  have hinner : Fits t.schema (((Path.root.field c).index 0).field a) .value inner :=
    .struct (.inl rfl) rfl
      (.cons rfl (.list (.cons hzero .nil) (by simp)) (.cons rfl .null .nil))
  have hfits : Fits t.schema .root (.nullable (.named type)) v :=
    .layer (.struct (.inr ⟨rfl, rfl⟩) rfl
      (.cons rfl (.layer (.scalar ⟨a, rfl⟩ rfl))
        (.cons rfl (.anyList rfl (.cons (.map (.inr rfl) (.cons rfl hinner .nil)) .nil)) .nil)))
  exact ⟨h, t.leavesFitting, hfits, (cast_keeps_fitting h _ .root).1 t hfits⟩

end Value

end ValueStream
