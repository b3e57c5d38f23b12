import Mathlib.Logic.Function.Iterate
import ValueStream.Proofs.Cast.Descent
import ValueStream.Proofs.Cast.Places

/-!
# Layers that admit null

Whatever layers that admit null a slot has, a value other than null is cast by the type below them.
So two slots with the same type below their layers cast it to the same value, or to the same error
(`Value.castAt_sameButSlot`). One kind of error tells them apart: an error for the type of the value
itself says which slot it was cast to, layers included.

No other error does. What is found wrong further in is found at a place further in, where the slots
are the same again (`Value.castAt_found`), and what is found wrong with the content of the value
does not name a slot. Only the errors that come from the schema are its own: it may raise any error
at any place (`Schema.Raises`), and then both casts end in it.
-/

namespace ValueStream

/-! ## Errors that the schema raises -/

/-- The error is one that the schema answers with when a cast asks it something. -/
inductive Schema.Raises (schema : Schema) (e : StreamError) : Prop
  /-- It was asked for the types of the fields of a struct. -/
  | typer {type : QualifiedName} {place : Path} (h : schema.typer type place = .error e)
  /-- It was asked for the type of a field. -/
  | field {type : QualifiedName} {place p : Path} {typer : FieldTyper} {name : Identifier}
    (htyper : schema.typer type place = .ok (some typer)) (h : typer name p = .error e)
  /-- It was asked for a cast. -/
  | replacement {v : Value} {a : AtomicType} {place : Path}
    (h : schema.replacement v a place = some (.error e))

/-- A table finds fault with the content of values only, never with their types. -/
theorem SchemaTable.isTypeCast_of_raises {t : SchemaTable} {e : StreamError}
    (h : t.schema.Raises e) : e.isTypeCast = false := by
  cases h with
  | @typer type place h =>
    simp only [schema, SchemaTable.typer] at h
    split at h <;> cases h
    rfl
  | @field type place p typer name htyper h =>
    simp only [schema, SchemaTable.typer] at htyper
    split at htyper
    · cases htyper
    · cases htyper
    · next fields _ =>
      obtain rfl : fields.typer = typer := by simpa using htyper
      simp only [FieldTypes.typer] at h
      split at h <;> cases h
      rfl
  | @replacement v a place h =>
    simp only [schema, SchemaTable.replacement] at h
    split at h
    · split at h
      · obtain ⟨digits, -, houtcome⟩ := Option.map_eq_some_iff.1 h
        split at houtcome <;> cases houtcome
        rfl
      · cases h
    · cases h

/-- The result has a property if it is an error. -/
def ErrorHas {α : Type} (P : StreamError → Prop) (r : Except StreamError α) : Prop :=
  ∀ e, r = .error e → P e

namespace ErrorHas

variable {α β : Type} {P Q : StreamError → Prop} {r : Except StreamError α}

theorem ok (a : α) : ErrorHas P (.ok a) := nofun

theorem error {e : StreamError} (h : P e) : ErrorHas P (.error e : Except _ α) := by
  rintro _ ⟨⟩
  exact h

theorem mono (h : ErrorHas P r) (hPQ : ∀ e, P e → Q e) : ErrorHas Q r := fun e he ↦ hPQ e (h e he)

theorem bind (h : ErrorHas P r) {f : α → Except StreamError β} (hf : ∀ a, ErrorHas P (f a)) :
    ErrorHas P (r >>= f) := by
  cases r with
  | error e => exact error (h e rfl)
  | ok a => exact hf a

theorem map (h : ErrorHas P r) (f : α → β) : ErrorHas P (f <$> r) := by
  cases r with
  | error e => exact error (h e rfl)
  | ok a => exact ok (f a)

end ErrorHas

/-! ## Where a cast finds an error -/

namespace Schema

/-- The error is found at a place or further in, unless it comes from the schema. -/
def Finds (schema : Schema) (place : Path) (e : StreamError) : Prop :=
  schema.Raises e ∨ place.segments <+: e.path.segments

/-- The error is found further in than a place, or is there for the content of a value, unless it
comes from the schema. -/
def FindsInside (schema : Schema) (place : Path) (e : StreamError) : Prop :=
  schema.Raises e ∨ (∃ step, (place.push step).segments <+: e.path.segments) ∨
    e.path = place ∧ e.isTypeCast = false

variable {schema : Schema} {place : Path} {e : StreamError}

theorem finds_of_path (h : e.path = place) : schema.Finds place e :=
  .inr (h ▸ List.prefix_rfl)

theorem Finds.inside {step : Segment} (h : schema.Finds (place.push step) e) :
    schema.FindsInside place e :=
  h.imp_right fun h ↦ .inl ⟨step, h⟩

theorem FindsInside.finds (h : schema.FindsInside place e) : schema.Finds place e := by
  obtain h | ⟨step, h⟩ | ⟨h, -⟩ := h
  · exact .inl h
  · exact .inr ((List.prefix_append _ _).trans h)
  · exact finds_of_path h

/-- An error that is found inside is no mismatch of the value itself. -/
theorem FindsInside.path_ne (h : schema.FindsInside place e) :
    schema.Raises e ∨ e.path ≠ place ∨ e.isTypeCast = false := by
  refine h.imp_right (Or.imp ?_ And.right)
  rintro ⟨step, hstep⟩ rfl
  have hlength := hstep.length_le
  simp only [Path.push, List.length_append, List.length_singleton] at hlength
  omega

/-- The types of fields that a cast goes by are of the schema, or of no schema. -/
theorem errorHas_getD {type : QualifiedName} {typer : Option FieldTyper}
    (h : schema.typer type place = .ok typer) (name : Identifier) (p : Path) :
    ErrorHas schema.Raises (typer.getD .anyValue name p) := by
  cases typer with
  | none => exact .ok _
  | some typer => exact fun e he ↦ .field h he

end Schema

namespace Cast

variable {schema : Schema} {v : Value} {slot : TypeRef} {place : Path}

theorem scalar_found (target : TypeRef) :
    ErrorHas (schema.Finds place) (scalar schema v slot place target) := by
  have hfound : ∀ {α : Type} {r : Except StreamError α}, ReportsAt place r →
      ErrorHas (schema.Finds place) r := fun h e he ↦ Schema.finds_of_path (h e he)
  fun_induction scalar schema v slot place target with
  | case1 => exact .ok _
  | case2 inner _ ih => exact ih
  | case3 a =>
    have hchecked := fun w ↦ (hfound (@checkRestriction_reportsAt w place a)).bind
      fun _ ↦ ErrorHas.ok w
    rw [named]
    split
    · next outcome houtcome =>
      have hraised : ErrorHas (schema.Finds place) outcome := by
        rintro e rfl
        exact .inl (.replacement houtcome)
      exact hraised.bind hchecked
    · exact (hfound (unrestricted_reportsAt a)).bind hchecked
  | case4 => exact .error (Schema.finds_of_path rfl)

end Cast

namespace Value

variable {schema : Schema} {place : Path}

/-- Once a slot has taken a list, what is wrong with it is found inside. -/
private theorem list_found {target result : ListType} {r : Except StreamError (List Value)}
    (h : ErrorHas (schema.FindsInside place) r) :
    ErrorHas (schema.FindsInside place) (do
      let ws ← r
      if ws.isEmpty && !target.allowsEmpty then .error (.value place .emptyList)
      return list result ws) := by
  refine h.bind fun ws ↦ ?_
  split
  · exact .error (.inr (.inr ⟨rfl, rfl⟩))
  · exact .ok _

/-- Once a slot has taken a struct, what is wrong with it is found inside. -/
private theorem struct_found {type : QualifiedName} {cast : FieldTyper → Except StreamError Fields}
    (f : Fields → Value)
    (h : ∀ typer, (∀ name p, ErrorHas schema.Raises (typer name p)) →
      ErrorHas (schema.FindsInside place) (cast typer)) :
    ErrorHas (schema.FindsInside place) (do
      let typer ← schema.typer type place
      f <$> cast (typer.getD .anyValue)) := by
  cases htyper : schema.typer type place with
  | error e => exact .error (.inl (.typer htyper))
  | ok typer => exact (h _ (Schema.errorHas_getD htyper)).map f

private theorem errorHas_anyValue (name : Identifier) (p : Path) :
    ErrorHas schema.Raises (FieldTyper.anyValue name p) := .ok _

mutual

/-- **A cast finds no error outside of the place that it casts at.** -/
theorem castAt_found : ∀ (v : Value) (slot : TypeRef) (place : Path),
    ErrorHas (schema.Finds place) (v.castAt schema slot place)
  | .scalar s, slot, place => by
    rw [castAt]
    exact Cast.scalar_found slot
  | .list type vs, slot, place => by
    rw [castAt]
    split
    · exact .error (Schema.finds_of_path rfl)
    · next result target _ =>
      exact (list_found (castElements_found vs target.element place 0)).mono
        fun _ ↦ Schema.FindsInside.finds
  | .map fields, slot, place => by
    rw [castAt]
    split
    · exact ((castFields_found fields .anyValue errorHas_anyValue place).map _).mono
        fun _ ↦ Schema.FindsInside.finds
    · split
      · exact .error (Schema.finds_of_path rfl)
      · exact (struct_found _ fun typer h ↦ castFields_found fields typer h place).mono
          fun _ ↦ Schema.FindsInside.finds
  | .struct type fields, slot, place => by
    rw [castAt]
    split
    · exact .error (Schema.finds_of_path rfl)
    · exact (struct_found _ fun typer h ↦ castFields_found fields typer h place).mono
        fun _ ↦ Schema.FindsInside.finds

theorem castElements_found : ∀ (vs : List Value) (slot : TypeRef) (place : Path) (i : Nat),
    ErrorHas (schema.FindsInside place) (castElements schema slot place i vs)
  | [], _, _, _ => .ok _
  | v :: vs, slot, place, i => by
    rw [castElements]
    exact ((castAt_found v slot (place.index i)).mono fun _ ↦ Schema.Finds.inside).bind
      fun w ↦ (castElements_found vs slot place (i + 1)).bind fun ws ↦ .ok _

theorem castFields_found : ∀ (fields : Fields) (typer : FieldTyper)
    (_ : ∀ name p, ErrorHas schema.Raises (typer name p)) (place : Path),
    ErrorHas (schema.FindsInside place) (castFields schema typer place fields)
  | [], _, _, _ => .ok _
  | (name, v) :: fields, typer, h, place => by
    rw [castFields]
    exact ((h name (place.field name)).mono fun _ ↦ .inl).bind fun slot ↦
      ((castAt_found v slot (place.field name)).mono fun _ ↦ Schema.Finds.inside).bind
        fun w ↦ (castFields_found fields typer h place).bind fun ws ↦ .ok _

end

end Value

/-! ## Slots that are the same below their layers -/

/-- The results of a cast at a place to two slots are the same, but an error for the type of the
value there names the slot that it was cast to. -/
inductive SameButSlot (schema : Schema) (place : Path) (slot slot' : TypeRef) {α : Type} :
    Except StreamError α → Except StreamError α → Prop
  /-- The same value. -/
  | ok (a : α) : SameButSlot schema place slot slot' (.ok a) (.ok a)
  /-- The same error, which does not name the slot. -/
  | error {e : StreamError} (h : schema.Raises e ∨ e.path ≠ place ∨ e.isTypeCast = false) :
    SameButSlot schema place slot slot' (.error e) (.error e)
  /-- An error for the type of the value. -/
  | mismatch (actual : TypeRef) :
    SameButSlot schema place slot slot' (.error (.typeCast place slot actual))
      (.error (.typeCast place slot' actual))

/-- The error, which expects the type of a slot if it expects any. -/
def StreamError.expecting (slot : TypeRef) (e : StreamError) : StreamError :=
  match e.kind with
  | .typeCast _ actual => .typeCast e.path slot actual
  | _ => e

/-- The result, where an error expects the type of a slot. -/
def expecting {α : Type} (slot : TypeRef) (r : Except StreamError α) : Except StreamError α :=
  r.mapError (·.expecting slot)

section
variable {α : Type} (slot : TypeRef)

@[simp] theorem expecting_ok (a : α) : expecting slot (.ok a) = .ok a := rfl

@[simp] theorem expecting_error (e : StreamError) :
    expecting slot (.error e : Except _ α) = .error (e.expecting slot) := rfl

@[simp] theorem StreamError.expecting_value (place : Path) (cause : ValueCause) :
    (value place cause).expecting slot = value place cause := rfl

@[simp] theorem Cast.expecting_mismatch (v : Value) (slot' : TypeRef) (place : Path) :
    (mismatch v slot' place).expecting slot = mismatch v slot place := rfl

end

namespace SameButSlot

variable {schema : Schema} {place : Path} {slot slot' : TypeRef} {α β : Type}

theorem of_errorHas {r : Except StreamError α} (h : ErrorHas (schema.FindsInside place) r) :
    SameButSlot schema place slot slot' r r := by
  cases r with
  | ok a => exact .ok a
  | error e => exact .error (h e rfl).path_ne

/-- An error at the place that expects the slot may expect another one. -/
theorem of_expecting {r : Except StreamError α} (hplace : ReportsAt place r)
    (hslot : expecting slot r = r) : SameButSlot schema place slot slot' r (expecting slot' r) := by
  cases r with
  | ok a => exact .ok a
  | error e =>
    obtain ⟨p, kind⟩ := e
    obtain rfl : p = place := hplace _ rfl
    cases kind with
    | typeCast expected actual =>
      obtain rfl : slot = expected := by
        simpa [StreamError.expecting, StreamError.typeCast] using hslot
      exact .mismatch actual
    | _ => exact .error (.inr (.inr rfl))

theorem bind {r r' : Except StreamError α} (h : SameButSlot schema place slot slot' r r')
    {f : α → Except StreamError β} (hf : ∀ a, SameButSlot schema place slot slot' (f a) (f a)) :
    SameButSlot schema place slot slot' (r >>= f) (r' >>= f) := by
  cases h with
  | ok a => exact hf a
  | error h => exact .error h
  | mismatch actual => exact .mismatch actual

end SameButSlot

namespace Cast

variable {schema : Schema} {v : Value} {slot slot' : TypeRef} {place : Path}

/-- The built-in casts make no use of the slot but in errors. -/
theorem expecting_toNamed (a : AtomicType) :
    expecting slot' (toNamed a v slot place) = toNamed a v slot' place := by
  rw [toNamed, toNamed]
  split
  · rfl
  · fun_cases toBoolean v slot place <;> simp_all [toBoolean]
  · fun_cases toBuffer v slot place <;> simp_all [toBuffer]
  · fun_cases toText v slot place <;> simp_all [toText]
  · fun_cases toInteger _ v slot place <;> simp_all [toInteger]
  · fun_cases toFloat _ v slot place <;> simp_all [toFloat]
  · fun_cases toTimestamp v slot place <;> simp_all [toTimestamp]
  · fun_cases toSymbolMap v slot place <;> simp_all [toSymbolMap]
  · fun_cases toEnum a.name v slot place <;> simp_all [toEnum]
  · fun_cases toEnum a.name v slot place <;> simp_all [toEnum]

theorem toNamed_sameButSlot (a : AtomicType) :
    SameButSlot schema place slot slot' (toNamed a v slot place) (toNamed a v slot' place) := by
  have hother : expecting slot' (toNamed a v slot place) = toNamed a v slot' place :=
    expecting_toNamed a
  exact hother ▸ .of_expecting (toNamed_reportsAt a) (expecting_toNamed a)

theorem checkRestriction_sameButSlot (a : AtomicType) :
    SameButSlot schema place slot slot' (checkRestriction a v place)
      (checkRestriction a v place) := by
  rw [checkRestriction]
  split
  · exact .ok _
  · split
    · exact .ok _
    · exact .error (.inr (.inr rfl))

theorem named_sameButSlot (hv : v ≠ .null) (a : AtomicType) :
    SameButSlot schema place slot slot' (named schema v a slot place)
      (named schema v a slot' place) := by
  have hchecked : ∀ w, SameButSlot schema place slot slot'
      (do checkRestriction a w place; return w) (do checkRestriction a w place; return w) :=
    fun w ↦ (checkRestriction_sameButSlot a).bind fun _ ↦ .ok w
  rw [named, named]
  cases hreplacement : schema.replacement v a place with
  | some outcome =>
    have houtcome : SameButSlot schema place slot slot' outcome outcome := by
      cases outcome with
      | ok w => exact .ok w
      | error e => exact .error (.inl (.replacement hreplacement))
    exact houtcome.bind hchecked
  | none =>
    simp only [unrestricted_of_ne_null hv]
    exact (toNamed_sameButSlot a).bind hchecked

section
variable (hv : v ≠ .null)

include hv

theorem scalar_unwrap : ∀ target : TypeRef,
    scalar schema v slot place target = scalar schema v slot place target.unwrap
  | .nullable inner => (scalar_nullable hv inner).trans (scalar_unwrap inner)
  | .atomic _ | .list _ => rfl

theorem scalar_sameButSlot : ∀ target : TypeRef,
    SameButSlot schema place slot slot' (scalar schema v slot place target)
      (scalar schema v slot' place target)
  | .nullable inner => by
    rw [scalar_nullable hv, scalar_nullable hv]
    exact scalar_sameButSlot inner
  | .atomic a => named_sameButSlot hv a
  | .list _ => .mismatch v.typeOf

end

end Cast

/-! ## Values -/

namespace TypeRef

variable {slot slot' : TypeRef} (h : slot.unwrap = slot'.unwrap)

include h

theorem listTarget_of_unwrap (type : ListType) : slot.listTarget type = slot'.listTarget type := by
  rw [listTarget, listTarget, h]

theorem structTarget_of_unwrap (type : QualifiedName) :
    slot.structTarget type = slot'.structTarget type := by
  rw [structTarget, structTarget, h]

theorem takesMaps_of_unwrap : slot.takesMaps = slot'.takesMaps := by
  rw [takesMaps, takesMaps, h]

theorem inferredStruct_of_unwrap (schema : Schema) :
    slot.inferredStruct schema = slot'.inferredStruct schema := by
  rw [inferredStruct, inferredStruct, h]

end TypeRef

@[simp] theorem TypeRef.unwrap_iterate_nullable (k : Nat) (type : TypeRef) :
    (nullable^[k] type).unwrap = type.unwrap := by
  induction k with
  | zero => rfl
  | succ k ih => rw [Function.iterate_succ_apply', unwrap_nullable, ih]

namespace Value

variable {schema : Schema} {place : Path}

/-- **Layers make no difference to a value other than null**, but in an error for its type. -/
theorem castAt_sameButSlot {slot slot' : TypeRef} (h : slot.unwrap = slot'.unwrap) {v : Value}
    (hv : v ≠ .null) :
    SameButSlot schema place slot slot' (v.castAt schema slot place)
      (v.castAt schema slot' place) := by
  cases v with
  | scalar s =>
    rw [castAt, castAt, Cast.scalar_unwrap hv, Cast.scalar_unwrap hv slot', ← h]
    exact Cast.scalar_sameButSlot hv _
  | list type vs =>
    rw [castAt, castAt, TypeRef.listTarget_of_unwrap h]
    split
    · exact .mismatch _
    · next result target _ =>
      exact .of_errorHas (list_found (castElements_found vs target.element place 0))
  | map fields =>
    rw [castAt, castAt, TypeRef.takesMaps_of_unwrap h, TypeRef.inferredStruct_of_unwrap h]
    split
    · exact .of_errorHas ((castFields_found fields .anyValue errorHas_anyValue place).map _)
    · split
      · exact .mismatch _
      · exact .of_errorHas (struct_found _ fun typer h ↦ castFields_found fields typer h place)
  | struct type fields =>
    rw [castAt, castAt, TypeRef.structTarget_of_unwrap h]
    split
    · exact .mismatch _
    · exact .of_errorHas (struct_found _ fun typer h ↦ castFields_found fields typer h place)

/-- **Types with further layers that admit null cast a value other than null alike**: to the same
value, or with the same error, unless the value itself is not of the type; then the error of each
cast names the type that it was cast to. Errors of the schema are the same in any case. -/
theorem cast_nullable {v : Value} (h : v.WellFormed) (hv : v ≠ .null) (type : TypeRef)
    (schema : Schema) (start : Path) (k : Nat) :
    let optional := TypeRef.nullable^[k] type
    (∃ w, v.cast type schema start = .ok w ∧ v.cast optional schema start = .ok w) ∨
    (∃ e, v.cast type schema start = .error (.error e) ∧
      v.cast optional schema start = .error (.error e) ∧
      (schema.Raises e ∨ e.path ≠ start ∨ e.isTypeCast = false)) ∨
    ∃ actual, v.cast type schema start = .error (.error (.typeCast start type actual)) ∧
      v.cast optional schema start = .error (.error (.typeCast start optional actual)) := by
  intro optional
  have hsame : SameButSlot schema start type optional (v.castAt schema type start)
      (v.castAt schema optional start) :=
    castAt_sameButSlot (TypeRef.unwrap_iterate_nullable k type).symm hv
  rw [cast_eq_castAt h, cast_eq_castAt h]
  generalize v.castAt schema type start = r at hsame ⊢
  generalize v.castAt schema optional start = r' at hsame ⊢
  cases hsame with
  | ok w => exact .inl ⟨w, rfl, rfl⟩
  | error hsettled => exact .inr (.inl ⟨_, rfl, rfl, hsettled⟩)
  | mismatch actual => exact .inr (.inr ⟨actual, rfl, rfl⟩)

/-- A list is no struct, whatever layers there are, and a list in a struct is no text, which is
found at the field. -/
theorem cast_nullable_of_list :
    let a : Identifier := ⟨"a", by decide⟩
    let type : QualifiedName := ⟨"ns@v1", "T", by decide, by decide⟩
    let types : FieldTypes := ⟨[(a, .nullable (.core .string))], none⟩
    let t : SchemaTable := ⟨[(type, some types)], [], false⟩
    let start : Path := Path.root.index 3
    let optional : TypeRef := .nullable (.nullable (.named type))
    let list : Value := .list .opaque_ []
    let struct : Value := .struct type [(a, list)]
    list.WellFormed ∧ list ≠ .null ∧ struct.WellFormed ∧ struct ≠ .null ∧
      list.cast (.named type) t.schema start =
        .error (.error (.typeCast start (.named type) (.list .opaque_))) ∧
      list.cast optional t.schema start =
        .error (.error (.typeCast start optional (.list .opaque_))) ∧
      struct.cast (.named type) t.schema start = struct.cast optional t.schema start ∧
      struct.cast optional t.schema start = .error (.error
        (.typeCast (start.field a) (.nullable (.core .string)) (.list .opaque_))) := by
  intro a type types t start optional list struct
  have hlist : list.WellFormed := by simp [list, WellFormed, ElementsWellFormed]
  have hstruct : struct.WellFormed := by
    simp [struct, list, WellFormed, FieldsWellFormed, ElementsWellFormed, Fields.keys]
  have hlistNull : list ≠ .null := nofun
  have hstructNull : struct ≠ .null := nofun
  have hlistCast : list.cast (.named type) t.schema start =
      .error (.error (.typeCast start (.named type) (.list .opaque_))) := by
    rw [cast_eq_castAt hlist]
    rfl
  have hstructCast : struct.cast (.named type) t.schema start = .error (.error
      (.typeCast (start.field a) (.nullable (.core .string)) (.list .opaque_))) := by
    rw [cast_eq_castAt hstruct]
    rfl
  have hlistOptional : list.cast optional t.schema start =
      .error (.error (.typeCast start optional (.list .opaque_))) := by
    obtain ⟨w, hw, -⟩ | ⟨e, he, -, hsettled⟩ | ⟨actual, hactual, hoptional⟩ :=
      cast_nullable hlist hlistNull (.named type) t.schema start 2
    · cases hlistCast.symm.trans hw
    · cases hlistCast.symm.trans he
      obtain hraised | hpath | hkind := hsettled
      · cases SchemaTable.isTypeCast_of_raises hraised
      · exact absurd rfl hpath
      · cases hkind
    · cases hlistCast.symm.trans hactual
      exact hoptional
  have hstructOptional : struct.cast optional t.schema start = .error (.error
      (.typeCast (start.field a) (.nullable (.core .string)) (.list .opaque_))) := by
    obtain ⟨w, hw, -⟩ | ⟨e, he, hoptional, -⟩ | ⟨actual, hactual, -⟩ :=
      cast_nullable hstruct hstructNull (.named type) t.schema start 2
    · cases hstructCast.symm.trans hw
    · cases hstructCast.symm.trans he
      exact hoptional
    · have hpath := hstructCast.symm.trans hactual
      simp [StreamError.typeCast, start, Path.field, Path.index, Path.push, Path.root] at hpath
  exact ⟨hlist, hlistNull, hstruct, hstructNull, hlistCast, hlistOptional,
    hstructCast.trans hstructOptional.symm, hstructOptional⟩

end Value

end ValueStream
