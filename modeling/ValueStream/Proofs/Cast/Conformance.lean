import ValueStream.Proofs.Cast.Descent
import ValueStream.Proofs.Cast.Scalar

/-!
# What stands in the slots of a cast

A cast fills slots: that of the whole value, and those of the elements and fields of its parts. The
slots are walked by `AtSlots`, which says that a condition holds wherever the type, below the layers
that admit null, is a named one. The walk needs the value before the cast as well as the one after
it: the fields of a map that a struct has become are of the types that the schema gives for the
struct, of which the map keeps no trace.

Whatever a cast gives, any condition holds at its slots that holds of casts of scalars and of lists,
maps and structs of the named type (`atSlots_of_castAt`, by recursion on the value). With the
condition of being of the type this is that casts are sound: `Value.cast_conforms`.
-/

namespace ValueStream

/-! ## The slots of a cast -/

namespace Value

/-- The fields of a map or struct. -/
def fields? : Value → Option Fields
  | map fields | struct _ fields => some fields
  | scalar _ | list _ _ => none

/-- The type that a struct is tagged with. -/
def structType? : Value → Option QualifiedName
  | struct type _ => some type
  | scalar _ | map _ | list _ _ => none

theorem wellFormed_of_fields? {v : Value} {fields : Fields} (h : v.fields? = some fields) :
    v.WellFormed ↔ (Fields.keys fields).Nodup ∧ FieldsWellFormed fields := by
  cases v <;> simp_all [fields?, WellFormed]

end Value

section
variable (schema : Schema) (holds : AtomicType → Value → Value → Prop)

mutual

/-- A condition holds at the slots of a value at a place that has become another one: at every slot
of a named type it holds of the type, the value there and what it has become. -/
inductive AtSlots : Path → TypeRef → Value → Value → Prop
  /-- A layer that admits null lets it through. -/
  | null {place : Path} {slot : TypeRef} : AtSlots place (.nullable slot) .null .null
  /-- What stands below a layer stands in the slot. -/
  | layer {place : Path} {slot : TypeRef} {v w : Value} (h : AtSlots place slot v w) :
    AtSlots place (.nullable slot) v w
  /-- A list has become one of the type of the slot, and is not empty unless it may be. -/
  | list {place : Path} {given type : ListType} {vs ws : List Value}
    (elements : AtElements place type.element 0 vs ws)
    (nonempty : ws = [] → type.allowsEmpty = true) :
    AtSlots place (.list type) (.list given vs) (.list type ws)
  /-- A scalar has become a value of a named type. -/
  | scalar {place : Path} {a : AtomicType} {s : Scalar} {w : Value} (h : holds a (.scalar s) w) :
    AtSlots place (.atomic a) (.scalar s) w
  /-- A list has stayed one of its type, with values for elements. -/
  | anyList {place : Path} {a : AtomicType} {type : ListType} {vs ws : List Value}
    (h : holds a (.list type vs) (.list type ws)) (elements : AtElements place .value 0 vs ws) :
    AtSlots place (.atomic a) (.list type vs) (.list type ws)
  /-- A map or struct has become a map or struct, with fields of the types that belong to the struct
  type it had or has got. -/
  | fields {place : Path} {a : AtomicType} {v w : Value} {fs gs : Fields} {typer : FieldTyper}
    (h : holds a v w) (hv : v.fields? = some fs) (hw : w.fields? = some gs)
    (htyper : schema.fieldTyper place (v.structType?.or w.structType?) = .ok typer)
    (fields : AtFields place typer fs gs) : AtSlots place (.atomic a) v w

/-- The condition holds at the slots of the elements of a list at a place, from a position on. -/
inductive AtElements : Path → TypeRef → Nat → List Value → List Value → Prop
  /-- No elements. -/
  | nil {place : Path} {slot : TypeRef} {i : Nat} : AtElements place slot i [] []
  /-- One element, then others. -/
  | cons {place : Path} {slot : TypeRef} {i : Nat} {v w : Value} {vs ws : List Value}
    (h : AtSlots (place.index i) slot v w) (hs : AtElements place slot (i + 1) vs ws) :
    AtElements place slot i (v :: vs) (w :: ws)

/-- The condition holds at the slots of the fields of a map or struct at a place, each of the type
that is given for it. -/
inductive AtFields : Path → FieldTyper → Fields → Fields → Prop
  /-- No fields. -/
  | nil {place : Path} {typer : FieldTyper} : AtFields place typer [] []
  /-- One field, then others. -/
  | cons {place : Path} {typer : FieldTyper} {name : Identifier} {slot : TypeRef} {v w : Value}
    {fs gs : Fields} (htype : typer name (place.field name) = .ok slot)
    (h : AtSlots (place.field name) slot v w) (hs : AtFields place typer fs gs) :
    AtFields place typer ((name, v) :: fs) ((name, w) :: gs)

end

end

/-! ## Casts fill the slots -/

section
variable {schema : Schema} {holds : AtomicType → Value → Value → Prop} {place : Path}
  {slot : TypeRef} {v w : Value}

theorem AtSlots.of_unwrap : ∀ {slot : TypeRef}, AtSlots schema holds place slot.unwrap v w →
    AtSlots schema holds place slot v w
  | .atomic _, h | .list _, h => h
  | .nullable _, h => .layer (AtSlots.of_unwrap h)

/-- The condition holds of the casts of scalars to a named type, and of every list, map or struct of
a named type. -/
structure HoldsOfCasts (schema : Schema) (holds : AtomicType → Value → Value → Prop) : Prop where
  /-- Casts of scalars. -/
  named : ∀ {a s slot place w}, Cast.named schema (.scalar s) a slot place = .ok w →
    holds a (.scalar s) w
  /-- What has become a list, map or struct of the type. -/
  parts : ∀ {a v w}, v.isScalar = false → a.Admits w → holds a v w

theorem HoldsOfCasts.atSlots_of_scalar (hcasts : HoldsOfCasts schema holds) {s : Scalar}
    (whole : TypeRef) : ∀ {slot : TypeRef},
      Cast.scalar schema (.scalar s) whole place slot = .ok w →
        AtSlots schema holds place slot (.scalar s) w
  | .atomic a, h => .scalar (hcasts.named h)
  | .list _, h => by cases h
  | .nullable slot, h => by
    by_cases hs : s = .null
    · subst hs
      obtain rfl := Except.ok.inj h
      exact .null
    · rw [Cast.scalar_nullable (Cast.scalar_ne_null hs)] at h
      exact .layer (hcasts.atSlots_of_scalar whole h)

mutual

/-- **What a cast gives fills its slots.** -/
theorem HoldsOfCasts.atSlots_of_castAt (hcasts : HoldsOfCasts schema holds) :
    ∀ {v : Value} {slot : TypeRef} {place : Path} {w : Value},
      v.castAt schema slot place = .ok w → AtSlots schema holds place slot v w
  | .scalar s, slot, place, w, h => by
    rw [Value.castAt] at h
    exact hcasts.atSlots_of_scalar slot h
  | .list given vs, slot, place, w, h => by
    obtain ⟨result, target, ws, htarget, hws, hempty, rfl⟩ := Value.castAt_list_eq_ok_iff.1 h
    have helements := hcasts.atElements_of_castElements hws
    refine .of_unwrap ?_
    obtain ⟨hslot, rfl⟩ | ⟨a, hslot, ha, rfl, rfl⟩ := TypeRef.listTarget_eq_some_iff.1 htarget
    · rw [hslot]
      exact .list helements hempty
    · rw [hslot]
      exact .anyList (hcasts.parts rfl (a.admits_of_value ha (by simp [Value.null]))) helements
  | .map fs, slot, place, w, h => by
    refine .of_unwrap ?_
    obtain ⟨htakes, gs, hgs, rfl⟩ | ⟨-, type, typer, gs, hinferred, htyper, hgs, rfl⟩ :=
      Value.castAt_map_eq_ok_iff.1 h
    · obtain ⟨a, hslot, ha⟩ := TypeRef.takesMaps_iff.1 htakes
      rw [hslot]
      exact .fields (hcasts.parts rfl (a.admits_map ha gs)) rfl rfl rfl
        (hcasts.atFields_of_castFields hgs)
    · obtain ⟨a, hslot, rfl, -⟩ := TypeRef.inferredStruct_eq_some_iff.1 hinferred
      rw [hslot]
      exact .fields (hcasts.parts rfl (a.admits_of_typeOf rfl (by simp [Value.null]))) rfl rfl
        htyper (hcasts.atFields_of_castFields hgs)
  | .struct type fs, slot, place, w, h => by
    refine .of_unwrap ?_
    obtain ⟨target, typer, gs, htarget, htyper, hgs, rfl⟩ := Value.castAt_struct_eq_ok_iff.1 h
    have hfields := hcasts.atFields_of_castFields hgs
    obtain ⟨a, hslot, ⟨ha, rfl⟩ | ⟨-, ha, rfl⟩⟩ := TypeRef.structTarget_eq_some_iff.1 htarget
    · rw [hslot]
      exact .fields (hcasts.parts rfl (a.admits_struct ha gs)) rfl rfl htyper hfields
    · rw [hslot]
      exact .fields (hcasts.parts rfl (a.admits_map (.inl ha) gs)) rfl rfl htyper hfields

theorem HoldsOfCasts.atElements_of_castElements (hcasts : HoldsOfCasts schema holds) :
    ∀ {vs : List Value} {slot : TypeRef} {place : Path} {i : Nat} {ws : List Value},
      Value.castElements schema slot place i vs = .ok ws →
        AtElements schema holds place slot i vs ws
  | [], slot, place, i, ws, h => by
    obtain rfl : [] = ws := by simpa [Value.castElements] using h
    exact .nil
  | v :: vs, slot, place, i, ws, h => by
    obtain ⟨w, others, hw, hothers, rfl⟩ := Value.castElements_cons_eq_ok_iff.1 h
    exact .cons (hcasts.atSlots_of_castAt hw) (hcasts.atElements_of_castElements hothers)

theorem HoldsOfCasts.atFields_of_castFields (hcasts : HoldsOfCasts schema holds) :
    ∀ {fs : List (Identifier × Value)} {typer : FieldTyper} {place : Path}
      {gs : List (Identifier × Value)},
      Value.castFields schema typer place fs = .ok gs →
        AtFields schema holds place typer fs gs
  | [], typer, place, gs, h => by
    obtain rfl : [] = gs := by simpa [Value.castFields] using h
    exact .nil
  | (name, v) :: fs, typer, place, gs, h => by
    obtain ⟨slot, w, others, htype, hw, hothers, rfl⟩ := Value.castFields_cons_eq_ok_iff.1 h
    exact .cons htype (hcasts.atSlots_of_castAt hw) (hcasts.atFields_of_castFields hothers)

end

end

/-! ## Keys -/

section
variable {schema : Schema} {holds : AtomicType → Value → Value → Prop}

/-- Whether the condition keeps scalars scalars. -/
def KeepsScalars (holds : AtomicType → Value → Value → Prop) : Prop :=
  ∀ {a v w}, holds a v w → v.isScalar = true → w.isScalar = true

mutual

/-- Where scalars stay scalars, no key gets to occur twice. -/
theorem AtSlots.wellFormed (hkeeps : KeepsScalars holds) :
    ∀ {place : Path} {slot : TypeRef} {v w : Value},
      AtSlots schema holds place slot v w → v.WellFormed → w.WellFormed
  | _, _, _, _, .null, h => h
  | _, _, _, _, .layer hslots, h => AtSlots.wellFormed hkeeps hslots h
  | _, _, _, _, .list elements _, h => by
    simp only [Value.WellFormed] at h ⊢
    exact AtElements.wellFormed hkeeps elements h
  | _, _, _, w, .scalar hw, _ => by
    have hw := hkeeps hw rfl
    cases w with
    | scalar s => simp [Value.WellFormed]
    | map | list | struct => cases hw
  | _, _, _, _, .anyList _ elements, h => by
    simp only [Value.WellFormed] at h ⊢
    exact AtElements.wellFormed hkeeps elements h
  | _, _, v, w, .fields _ hv hw _ fields, h => by
    obtain ⟨hnodup, hfs⟩ := (Value.wellFormed_of_fields? hv).1 h
    obtain ⟨hkeys, hgs⟩ := AtFields.wellFormed hkeeps fields hfs
    exact (Value.wellFormed_of_fields? hw).2 ⟨hkeys ▸ hnodup, hgs⟩

theorem AtElements.wellFormed (hkeeps : KeepsScalars holds) :
    ∀ {place : Path} {slot : TypeRef} {i : Nat} {vs ws : List Value},
      AtElements schema holds place slot i vs ws → Value.ElementsWellFormed vs →
        Value.ElementsWellFormed ws
  | _, _, _, _, _, .nil, h => h
  | _, _, _, _, _, .cons hslots elements, h => by
    simp only [Value.ElementsWellFormed] at h ⊢
    exact ⟨AtSlots.wellFormed hkeeps hslots h.1, AtElements.wellFormed hkeeps elements h.2⟩

theorem AtFields.wellFormed (hkeeps : KeepsScalars holds) :
    ∀ {place : Path} {typer : FieldTyper} {fs gs : Fields},
      AtFields schema holds place typer fs gs → Value.FieldsWellFormed fs →
        Fields.keys gs = Fields.keys fs ∧ Value.FieldsWellFormed gs
  | _, _, _, _, .nil, h => ⟨rfl, h⟩
  | _, _, _, _, .cons _ hslots fields, h => by
    simp only [Value.FieldsWellFormed] at h ⊢
    obtain ⟨hkeys, hfields⟩ := AtFields.wellFormed hkeeps fields h.2
    exact ⟨congrArg (_ :: ·) hkeys, AtSlots.wellFormed hkeeps hslots h.1, hfields⟩

end

end

/-! ## Casts are sound -/

/-- A value at a place, which has become another one, conforms to a type in every part: at each slot
of a named type there is a value of that type, and a scalar where there was one before. -/
def Conforms (schema : Schema) : Path → TypeRef → Value → Value → Prop :=
  AtSlots schema fun a v w ↦ a.Admits w ∧ (v.isScalar = true → w.isScalar = true)

theorem Conforms.wellFormed {schema : Schema} {place : Path} {type : TypeRef} {v w : Value}
    (h : Conforms schema place type v w) (hv : v.WellFormed) : w.WellFormed :=
  AtSlots.wellFormed (fun hw ↦ hw.2) h hv

theorem Schema.ReplacesInType.holdsOfCasts {schema : Schema} (h : schema.ReplacesInType) :
    HoldsOfCasts schema fun a v w ↦ a.Admits w ∧ (v.isScalar = true → w.isScalar = true) where
  named hw := by
    obtain ⟨hreplaced | ⟨-, hcast⟩, -⟩ := Cast.named_eq_ok_iff.1 hw
    · obtain ⟨hscalar, hadmits⟩ := h _ _ _ _ hreplaced
      exact ⟨hadmits, fun _ ↦ hscalar⟩
    · have hsettled := Cast.unrestricted_settles hcast
      exact ⟨hsettled.admits, fun _ ↦ hsettled.isScalar⟩
  parts hv hw := ⟨hw, by simp [hv]⟩

namespace Value

/-- **Casts are sound.** What a cast gives conforms to the type in every part, by whatever table the
schema goes, and by any schema whose own casts give scalars of the type asked for. -/
theorem cast_conforms {v w : Value} (h : v.WellFormed) (type : TypeRef) (start : Path) :
    (∀ t : SchemaTable, v.cast type t.schema start = .ok w →
      Conforms t.schema start type v w) ∧
    ∀ schema : Schema, schema.ReplacesInType → v.cast type schema start = .ok w →
      Conforms schema start type v w := by
  have hconforms : ∀ schema : Schema, schema.ReplacesInType → v.cast type schema start = .ok w →
      Conforms schema start type v w := by
    intro schema hschema hcast
    exact hschema.holdsOfCasts.atSlots_of_castAt ((cast_eq_ok_iff h).1 hcast)
  exact ⟨fun t ↦ hconforms t.schema t.replacesInType, hconforms⟩

/-- A struct becomes a map whose fields are of the types of the struct still: a list has taken on
the type of its field, and null has passed. -/
theorem cast_conforms_of_struct_as_map :
    let a : Identifier := ⟨"a", by decide⟩
    let b : Identifier := ⟨"b", by decide⟩
    let type : QualifiedName := ⟨"ns@v1", "T", by decide, by decide⟩
    let ints : ListType := ⟨.core (.integer .int32), false⟩
    let t : SchemaTable :=
      ⟨[(type, some ⟨[(a, .list ints), (b, .nullable (.core .string))], none⟩)], [], false⟩
    let v : Value := .struct type
      [(a, .list .opaque_ [.scalar (.integer .uint64 (.wrap .uint64 (-1)))]), (b, .null)]
    let w : Value := .map
      [(a, .list ints [.scalar (.integer .int32 (.wrap .int32 (-1)))]), (b, .null)]
    v.WellFormed ∧ v.cast (.core .symbolMap) t.schema .root = .ok w ∧ t.schema.ReplacesInType ∧
      Conforms t.schema .root (.core .symbolMap) v w := by
  intro a b type ints t v w
  have h : v.WellFormed := by
    simp [v, WellFormed, FieldsWellFormed, ElementsWellFormed, null, Fields.keys, a, b]
  have hcast : v.cast (.core .symbolMap) t.schema .root = .ok w := (cast_eq_ok_iff h).2 rfl
  have hconforms := cast_conforms (w := w) h (.core .symbolMap) .root
  exact ⟨h, hcast, t.replacesInType, hconforms.1 t hcast⟩

end Value

end ValueStream
