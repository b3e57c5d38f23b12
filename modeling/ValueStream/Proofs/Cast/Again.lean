import ValueStream.Proofs.Cast.Conformance

/-!
# Casting again

What a cast has given it leaves as it is, with one exception. A struct may become a map, and its
fields keep the types that the schema gives for the struct; a field that admits null may then hold
null in the map. The map keeps no trace of those types, and when it is cast again its fields are any
values but null. So the second cast ends at the first null that stands in a map, with nothing but
maps and lists between (`Value.bareNull`), and gives back the value if there is none.

The recursion carries both casts of a part that the second cast can come to: by the type of its slot
once more, and by the type of every value, where the part stands in a map.
-/

namespace ValueStream

/-! ## Nulls in maps -/

namespace Value

mutual

/-- The place of the first null in a map, with nothing but maps and lists between; the flag says
whether the value at the place is in a map itself. -/
def bareNull (inMap : Bool) (place : Path) : Value → Option Path
  | .scalar s => if inMap ∧ s = .null then some place else none
  | .list _ elements => bareNullElements inMap place 0 elements
  | .map fields => bareNullFields true place fields
  | .struct _ fields => bareNullFields false place fields

/-- The first such null in the elements of a list at a place, from a position on. -/
def bareNullElements (inMap : Bool) (place : Path) (position : Nat) : List Value → Option Path
  | [] => none
  | v :: rest =>
    (v.bareNull inMap (place.index position)).or (bareNullElements inMap place (position + 1) rest)

/-- The first such null in the fields of a map or struct at a place. -/
def bareNullFields (inMap : Bool) (place : Path) : List (Identifier × Value) → Option Path
  | [] => none
  | (name, v) :: rest =>
    (v.bareNull inMap (place.field name)).or (bareNullFields inMap place rest)

end

end Value

/-- A result, unless there is a null that may not be. -/
def unlessNull {α : Type} (a : α) : Option Path → Except StreamError α
  | none => .ok a
  | some place => .error (.nullValue place)

/-- The type by which a part is cast again: that of its slot, or of every value where the part is in
a map. -/
def TypeRef.again (slot : TypeRef) (inMap : Bool) : TypeRef := if inMap then .value else slot

/-- The types of fields that are cast again. -/
def FieldTyper.again (typer : FieldTyper) (inMap : Bool) : FieldTyper :=
  if inMap then .anyValue else typer

section
variable {α β : Type}

@[simp] theorem unlessNull_none (a : α) : unlessNull a none = .ok a := rfl

@[simp] theorem map_unlessNull (f : α → β) (a : α) (place : Option Path) :
    f <$> unlessNull a place = unlessNull (f a) place := by
  cases place <;> rfl

theorem unlessNull_or (f : α → β → γ) (a : α) (b : β) (p q : Option Path) :
    (do return f (← unlessNull a p) (← unlessNull b q)) = unlessNull (f a b) (p.or q) := by
  cases p <;> cases q <;> rfl

@[simp] theorem TypeRef.again_true (slot : TypeRef) : slot.again true = .value := rfl
@[simp] theorem TypeRef.again_false (slot : TypeRef) : slot.again false = slot := rfl

theorem FieldTyper.again_eq_ok {typer : FieldTyper} {name : Identifier} {place : Path}
    {slot : TypeRef} (h : typer name place = .ok slot) (inMap : Bool) :
    typer.again inMap name place = .ok (slot.again inMap) := by
  cases inMap with
  | false => exact h
  | true => rfl

end

/-! ## Slots that have taken something take the outcome -/

namespace TypeRef

variable {slot : TypeRef}

theorem listTarget_again {given result target : ListType}
    (h : slot.listTarget given = some (result, target)) :
    slot.listTarget result = some (result, target) := by
  obtain ⟨hslot, rfl⟩ | ⟨a, hslot, ha, rfl, rfl⟩ := listTarget_eq_some_iff.1 h
  · exact listTarget_eq_some_iff.2 (.inl ⟨hslot, rfl⟩)
  · exact h

theorem takesMaps_of_structTarget {type : QualifiedName} (h : slot.structTarget type = some .map) :
    slot.takesMaps = true := by
  obtain ⟨a, hslot, ⟨-, htarget⟩ | ⟨-, ha, -⟩⟩ := structTarget_eq_some_iff.1 h
  · cases htarget
  · exact takesMaps_iff.2 ⟨a, hslot, .inl ha⟩

theorem structTarget_value (type : QualifiedName) : value.structTarget type = some (.struct type) :=
  structTarget_eq_some_iff.2 ⟨_, rfl, .inl ⟨.inr rfl, rfl⟩⟩

theorem structTarget_eq_struct {type other : QualifiedName}
    (h : slot.structTarget type = some (.struct other)) : other = type := by
  obtain ⟨a, -, ⟨-, htarget⟩ | ⟨-, -, htarget⟩⟩ := structTarget_eq_some_iff.1 h
  · exact (FieldsTarget.struct.inj htarget)
  · cases htarget

end TypeRef

namespace Value

variable {schema : Schema} {slot : TypeRef} {place : Path} {q : Option Path}

theorem castAt_list_of_elements {given result target : ListType} {ws : List Value}
    (h : slot.listTarget given = some (result, target))
    (hempty : ws = [] → target.allowsEmpty = true)
    (hws : castElements schema target.element place 0 ws = unlessNull ws q) :
    (list given ws).castAt schema slot place = unlessNull (list result ws) q := by
  have hchecked : (ws.isEmpty && !target.allowsEmpty) = false := by
    cases ws <;> simp_all
  simp only [castAt, h, hws]
  cases q with
  | none => simp [hchecked, bind, Except.bind, pure, Except.pure]
  | some place => rfl

theorem castAt_map_of_fields {ws : List (Identifier × Value)} (h : slot.takesMaps = true)
    (hws : castFields schema .anyValue place ws = unlessNull ws q) :
    (map ws).castAt schema slot place = unlessNull (map ws) q := by
  simp [castAt, h, hws]

theorem castAt_struct_of_fields {type : QualifiedName} {typer : FieldTyper}
    {ws : List (Identifier × Value)} (h : slot.structTarget type = some (.struct type))
    (htyper : schema.fieldTyper place (some type) = .ok typer)
    (hws : castFields schema typer place ws = unlessNull ws q) :
    (struct type ws).castAt schema slot place = unlessNull (struct type ws) q := by
  obtain ⟨answer, hanswer, rfl⟩ := map_eq_ok_iff.1 htyper
  simp only [castAt, h, hanswer]
  simp [bind, Except.bind, hws, FieldsTarget.ofFields]

end Value

/-! ## Scalars -/

/-- What a schema casts in place of the built-in casts becomes what these leave as it is, and the
schema casts neither that nor null. -/
structure Schema.ReplacesOnce (schema : Schema) : Prop where
  /-- What it casts is settled. -/
  settled : ∀ {v a place w}, schema.replacement v a place = some (.ok w) → Cast.Settled a w
  /-- What is settled it does not cast. -/
  kept : ∀ {a w}, Cast.Settled a w → ∀ place, schema.replacement w a place = none
  /-- Null it does not cast. -/
  null : ∀ a place, schema.replacement .null a place = none

namespace SchemaTable

theorem replacesOnce (t : SchemaTable) : t.schema.ReplacesOnce where
  settled h := settled_of_replacement h
  kept h _ := replacement_eq_none h.admits
  null _ _ := by simp [schema, replacement, Value.null]

end SchemaTable

namespace Schema.ReplacesOnce

variable {schema : Schema} (hs : schema.ReplacesOnce)
include hs

theorem replacesInType : schema.ReplacesInType := fun _ _ _ _ h ↦
  ⟨(hs.settled h).isScalar, (hs.settled h).admits⟩

theorem settled_of_named {v w : Value} {a : AtomicType} {slot : TypeRef} {place : Path}
    (h : Cast.named schema v a slot place = .ok w) (hv : v.isScalar = true) : Cast.Settled a w := by
  obtain ⟨hreplaced | ⟨-, hcast⟩, -⟩ := Cast.named_eq_ok_iff.1 h
  · exact hs.settled hreplaced
  · cases v with
    | scalar s => exact Cast.unrestricted_settles hcast
    | map | list | struct => cases hv

theorem named_again {a : AtomicType} {w : Value} (h : Cast.Settled a w)
    (haccepts : a.accepts w = true) (slot : TypeRef) (place : Path) :
    Cast.named schema w a slot place = .ok w :=
  Cast.named_eq_ok_iff.2 ⟨.inr ⟨hs.kept h place, h.kept slot place⟩, haccepts⟩

/-- What a scalar has become the slot takes as it is. -/
theorem scalar_again {s : Scalar} {place : Path} {w : Value} (whole : TypeRef) :
    ∀ {slot : TypeRef}, Cast.scalar schema (.scalar s) whole place slot = .ok w →
      w.isScalar = true ∧ ∀ whole', Cast.scalar schema w whole' place slot = .ok w
  | .atomic a, h => by
    have hsettled := hs.settled_of_named h rfl
    have haccepts := (Cast.named_eq_ok_iff.1 h).2
    exact ⟨hsettled.isScalar, fun whole' ↦ hs.named_again hsettled haccepts whole' place⟩
  | .list _, h => by cases h
  | .nullable slot, h => by
    by_cases hnull : s = .null
    · subst hnull
      obtain rfl := Except.ok.inj h
      exact ⟨rfl, fun _ ↦ rfl⟩
    · rw [Cast.scalar_nullable (Cast.scalar_ne_null hnull)] at h
      obtain ⟨hscalar, hagain⟩ := scalar_again whole h
      refine ⟨hscalar, fun whole' ↦ ?_⟩
      by_cases hw : w = .null
      · subst hw
        rfl
      · rw [Cast.scalar_nullable hw]
        exact hagain whole'

/-- Every scalar but null is a value. -/
theorem castAt_value_scalar (s : Scalar) (place : Path) :
    (Value.scalar s).castAt schema .value place =
      unlessNull (.scalar s) (if s = .null then some place else none) := by
  have hvalue : AtomicType.coreType (.plain CoreType.value.qualifiedName) = some .value :=
    CoreType.ofQualifiedName_eq_some_iff.2 rfl
  rw [Value.castAt, TypeRef.value, TypeRef.core, TypeRef.named, Cast.scalar]
  by_cases hnull : s = .null
  · subst hnull
    have hreplacement := hs.null (.plain CoreType.value.qualifiedName) place
    simp only [Value.null] at hreplacement
    simp [Cast.named, hreplacement, Cast.unrestricted, hvalue, bind, Except.bind, unlessNull]
  · have hsettled : Cast.Settled (.plain CoreType.value.qualifiedName) (.scalar s) := by
      refine ⟨rfl, AtomicType.admits_of_value hvalue (by simpa [Value.null] using hnull), ?_⟩
      intro callType path
      rw [Cast.unrestricted]
      · simp [Cast.toNamed, hvalue]
      · simpa using hnull
    rw [if_neg hnull]
    exact hs.named_again hsettled rfl _ place

end Schema.ReplacesOnce

/-! ## The second cast -/

section
variable {schema : Schema}

mutual

/-- **What a cast has given, cast again**, by the type of its slot or by the type of every value, is
given back up to the first null in a map. -/
theorem Schema.ReplacesOnce.castAt_again (hs : schema.ReplacesOnce) :
    ∀ {v : Value} {slot : TypeRef} {place : Path} {w : Value},
      v.castAt schema slot place = .ok w → ∀ inMap,
        w.castAt schema (slot.again inMap) place = unlessNull w (w.bareNull inMap place)
  | .scalar s, slot, place, w, h, inMap => by
    rw [Value.castAt] at h
    obtain ⟨hscalar, hagain⟩ := hs.scalar_again slot h
    cases w with
    | scalar s' =>
      cases inMap with
      | false => simpa [Value.castAt, Value.bareNull] using hagain slot
      | true => simpa [Value.bareNull] using hs.castAt_value_scalar s' place
    | map | list | struct => cases hscalar
  | .list given vs, slot, place, w, h, inMap => by
    obtain ⟨result, target, ws, htarget, hws, hempty, rfl⟩ := Value.castAt_list_eq_ok_iff.1 h
    have helements := hs.castElements_again hws inMap
    rw [Value.bareNull]
    cases inMap with
    | false =>
      exact Value.castAt_list_of_elements (TypeRef.listTarget_again htarget) hempty helements
    | true =>
      -- Among all values a list of any type keeps it.
      have hvalue : TypeRef.value.listTarget result = some (result, .opaque_) :=
        TypeRef.listTarget_eq_some_iff.2 (.inr ⟨_, rfl, rfl, rfl, rfl⟩)
      exact Value.castAt_list_of_elements hvalue (fun _ ↦ rfl) helements
  | .map vs, slot, place, w, h, inMap => by
    obtain ⟨htakes, ws, hws, rfl⟩ | ⟨-, type, typer, ws, hinferred, htyper, hws, rfl⟩ :=
      Value.castAt_map_eq_ok_iff.1 h
    · have hfields := hs.castFields_again hws true
      rw [Value.bareNull]
      cases inMap with
      | false => exact Value.castAt_map_of_fields htakes hfields
      | true => exact Value.castAt_map_of_fields rfl hfields
    · have hfields := hs.castFields_again hws false
      rw [Value.bareNull]
      cases inMap with
      | false =>
        exact Value.castAt_struct_of_fields (TypeRef.structTarget_of_inferred hinferred) htyper
          hfields
      | true => exact Value.castAt_struct_of_fields (TypeRef.structTarget_value type) htyper hfields
  | .struct type vs, slot, place, w, h, inMap => by
    obtain ⟨target, typer, ws, htarget, htyper, hws, rfl⟩ := Value.castAt_struct_eq_ok_iff.1 h
    cases target with
    | map =>
      have hfields := hs.castFields_again hws true
      rw [FieldsTarget.ofFields, Value.bareNull]
      cases inMap with
      | false =>
        exact Value.castAt_map_of_fields (TypeRef.takesMaps_of_structTarget htarget) hfields
      | true => exact Value.castAt_map_of_fields rfl hfields
    | struct type' =>
      obtain rfl := TypeRef.structTarget_eq_struct htarget
      have hfields := hs.castFields_again hws false
      rw [FieldsTarget.ofFields, Value.bareNull]
      cases inMap with
      | false => exact Value.castAt_struct_of_fields htarget htyper hfields
      | true => exact Value.castAt_struct_of_fields (TypeRef.structTarget_value _) htyper hfields

theorem Schema.ReplacesOnce.castElements_again (hs : schema.ReplacesOnce) :
    ∀ {vs : List Value} {slot : TypeRef} {place : Path} {i : Nat} {ws : List Value},
      Value.castElements schema slot place i vs = .ok ws → ∀ inMap,
        Value.castElements schema (slot.again inMap) place i ws =
          unlessNull ws (Value.bareNullElements inMap place i ws)
  | [], slot, place, i, ws, h, inMap => by
    obtain rfl : [] = ws := by simpa [Value.castElements] using h
    rfl
  | v :: vs, slot, place, i, ws, h, inMap => by
    obtain ⟨w, others, hw, hothers, rfl⟩ := Value.castElements_cons_eq_ok_iff.1 h
    rw [Value.castElements, hs.castAt_again hw inMap, hs.castElements_again hothers inMap,
      Value.bareNullElements]
    exact unlessNull_or List.cons ..

theorem Schema.ReplacesOnce.castFields_again (hs : schema.ReplacesOnce) :
    ∀ {vs : List (Identifier × Value)} {typer : FieldTyper} {place : Path}
      {ws : List (Identifier × Value)},
      Value.castFields schema typer place vs = .ok ws → ∀ inMap,
        Value.castFields schema (typer.again inMap) place ws =
          unlessNull ws (Value.bareNullFields inMap place ws)
  | [], typer, place, ws, h, inMap => by
    obtain rfl : [] = ws := by simpa [Value.castFields] using h
    rfl
  | (name, v) :: vs, typer, place, ws, h, inMap => by
    obtain ⟨slot, w, others, htype, hw, hothers, rfl⟩ := Value.castFields_cons_eq_ok_iff.1 h
    rw [Value.castFields, FieldTyper.again_eq_ok htype inMap, hs.castFields_again hothers inMap,
      Value.bareNullFields]
    refine Eq.trans ?_ (unlessNull_or (fun w others ↦ (name, w) :: others) ..)
    rw [← hs.castAt_again hw inMap]
    rfl

end

end

namespace Value

/-- **A second cast gives back what the first one has given**, unless null stands in a map of it,
with nothing but maps and lists between; it ends at the first such null then. The schema may be any
table, and any schema whose own casts are settled. -/
theorem cast_again {v w : Value} (h : v.WellFormed) (type : TypeRef) (start : Path) :
    (∀ t : SchemaTable, v.cast type t.schema start = .ok w →
      w.cast type t.schema start = (unlessNull w (w.bareNull false start)).mapError .error) ∧
    ∀ schema : Schema, schema.ReplacesOnce → v.cast type schema start = .ok w →
      w.cast type schema start = (unlessNull w (w.bareNull false start)).mapError .error := by
  have hagain : ∀ schema : Schema, schema.ReplacesOnce → v.cast type schema start = .ok w →
      w.cast type schema start = (unlessNull w (w.bareNull false start)).mapError .error := by
    intro schema hschema hcast
    rw [cast_eq_ok_iff h] at hcast
    have hw : Conforms schema start type v w :=
      hschema.replacesInType.holdsOfCasts.atSlots_of_castAt hcast
    rw [cast_eq_castAt (hw.wellFormed h)]
    exact congrArg (Except.mapError Fault.error) (hschema.castAt_again hcast false)
  exact ⟨fun t ↦ hagain t.schema t.replacesOnce, hagain⟩

/-- A text becomes a number and stays it, and null passes again where the field of a struct admits
it. -/
theorem cast_again_of_inferred_struct :
    let a : Identifier := ⟨"a", by decide⟩
    let b : Identifier := ⟨"b", by decide⟩
    let type : QualifiedName := ⟨"ns@v1", "T", by decide, by decide⟩
    let t : SchemaTable :=
      ⟨[(type, some ⟨[(a, .core .boolean), (b, .nullable (.core .string))], none⟩)], [type], false⟩
    let v : Value := .map [(a, .scalar (.string "true")), (b, .null)]
    let w : Value := .struct type [(a, .scalar (.boolean true)), (b, .null)]
    v.WellFormed ∧ v.cast (.named type) t.schema .root = .ok w ∧ t.schema.ReplacesOnce ∧
      w.cast (.named type) t.schema .root = .ok w := by
  intro a b type t v w
  have h : v.WellFormed := by
    simp [v, WellFormed, FieldsWellFormed, null, Fields.keys, a, b]
  have hcast : v.cast (.named type) t.schema .root = .ok w := (cast_eq_ok_iff h).2 rfl
  exact ⟨h, hcast, t.replacesOnce, (cast_again h (.named type) .root).1 t hcast⟩

/-- **A map may not be cast again** that a struct has become with null in a field. -/
theorem cast_again_fails_of_null_in_map :
    let f : Identifier := ⟨"f", by decide⟩
    let type : QualifiedName := ⟨"ns@v1", "S", by decide, by decide⟩
    let t : SchemaTable := ⟨[(type, some ⟨[(f, .nullable (.core .string))], none⟩)], [], false⟩
    (struct type [(f, .null)]).cast (.core .symbolMap) t.schema .root = .ok (.map [(f, .null)]) ∧
      (map [(f, .null)]).cast (.core .symbolMap) t.schema .root =
        .error (.error (.nullValue (Path.root.field f))) := by
  intro f type t
  have hstruct : (struct type [(f, .null)]).WellFormed := by
    simp [WellFormed, FieldsWellFormed, null, Fields.keys]
  have hmap : (map [(f, .null)]).WellFormed := by
    simp [WellFormed, FieldsWellFormed, null, Fields.keys]
  refine ⟨(cast_eq_ok_iff hstruct).2 rfl, ?_⟩
  rw [cast_eq_castAt hmap]
  rfl

end Value

end ValueStream
