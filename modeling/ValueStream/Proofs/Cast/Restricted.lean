import ValueStream.Proofs.Cast.Conformance

/-!
# Restrictions in a cast

A restriction is a matter of scalars. Whatever a scalar becomes in the slot of a restricted type the
restriction accepts, in every part of a value and also where the schema casts in place of the
built-in casts; and the cast of a stream then says the same as the cast of the scalar by itself. A
list, map or struct is checked for its shape only: in the slot of a restricted type it becomes what
it becomes in the slot of the type alone, whatever the restriction says of it.
-/

namespace ValueStream

/-- Whatever a scalar becomes is accepted by the restriction of its slot. -/
def RestrictsScalars (schema : Schema) : Path → TypeRef → Value → Value → Prop :=
  AtSlots schema fun a v w ↦ v.isScalar = true → a.accepts w = true

theorem holdsOfCasts_restricted (schema : Schema) :
    HoldsOfCasts schema fun a v w ↦ v.isScalar = true → a.accepts w = true where
  named hw _ := (Cast.named_eq_ok_iff.1 hw).2
  parts hv _ hscalar := by simp [hv] at hscalar

namespace Value

variable {schema : Schema} {a : AtomicType} {place : Path} {v w : Value}

theorem castAt_scalar_atomic {s : Scalar} (h : schema.replacement (.scalar s) a place = none) :
    (scalar s).castAt schema (.atomic a) place = Cast.atomic a (.scalar s) (.atomic a) place := by
  rw [castAt, Cast.scalar, Cast.named, h]
  rfl

/-- The restriction of a type has no say in what a list, map or struct becomes. -/
theorem castAt_atomic_iff_named (h : v.isScalar = false) :
    v.castAt schema (.atomic a) place = .ok w ↔ v.castAt schema (.named a.name) place = .ok w := by
  cases v with
  | scalar s => cases h
  | list given vs =>
    rw [castAt_list_eq_ok_iff, castAt_list_eq_ok_iff]
    rfl
  | map fs =>
    rw [castAt_map_eq_ok_iff, castAt_map_eq_ok_iff]
    rfl
  | struct type fs =>
    rw [castAt_struct_eq_ok_iff, castAt_struct_eq_ok_iff]
    rfl

/-- **Restrictions are enforced on scalars.** In every part of a cast value they accept what scalars
have become; the cast of a scalar that the schema leaves to the built-in ones is the built-in cast
with its restriction; and of lists, maps and structs they are not asked. -/
theorem cast_restricts_scalars (h : v.WellFormed) (schema : Schema) (start : Path) :
    (∀ type, v.cast type schema start = .ok w → RestrictsScalars schema start type v w) ∧
    (∀ s a, v = .scalar s → schema.replacement v a start = none →
      v.cast (.atomic a) schema start = (Cast.atomic a v (.atomic a) start).mapError .error) ∧
    ∀ a, v.isScalar = false →
      (v.cast (.atomic a) schema start = .ok w ↔ v.cast (.named a.name) schema start = .ok w) := by
  refine ⟨fun type hcast ↦ ?_, ?_, fun a hv ↦ ?_⟩
  · exact (holdsOfCasts_restricted schema).atSlots_of_castAt ((cast_eq_ok_iff h).1 hcast)
  · rintro s a rfl hreplacement
    rw [cast_eq_castAt h, castAt_scalar_atomic hreplacement]
  · rw [cast_eq_ok_iff h, cast_eq_ok_iff h]
    exact castAt_atomic_iff_named hv

/-- A number is wrapped into the range, and a map passes that the range does not accept. -/
theorem cast_restricts_scalars_of_number_and_map :
    let zero : Value := .scalar (.integer .int32 (.wrap .int32 0))
    let number : AtomicType :=
      ⟨(CoreType.integer .int32).qualifiedName, some (.range ⟨some zero, true, none, false⟩)⟩
    let fields : AtomicType := ⟨CoreType.symbolMap.qualifiedName, number.restriction⟩
    let v : Value := .scalar (.integer .uint64 (.wrap .uint64 4294967303))
    let w : Value := .scalar (.integer .int32 (.wrap .int32 7))
    v.WellFormed ∧ v.cast (.nullable (.atomic number)) .empty .root = .ok w ∧
      RestrictsScalars .empty .root (.nullable (.atomic number)) v w ∧
      v.cast (.atomic number) .empty .root =
        (Cast.atomic number v (.atomic number) .root).mapError .error ∧
      (map []).WellFormed ∧ (map []).cast (.atomic fields) .empty .root = .ok (.map []) := by
  intro zero number fields v w
  have hv : v.WellFormed := by simp [v, WellFormed]
  have hcast : v.cast (.nullable (.atomic number)) .empty .root = .ok w :=
    (cast_eq_ok_iff hv).2 rfl
  obtain ⟨hrestricts, hscalar, -⟩ := cast_restricts_scalars (w := w) hv .empty .root
  have hmap : (map []).WellFormed := by simp [WellFormed, FieldsWellFormed]
  obtain ⟨-, -, hparts⟩ := cast_restricts_scalars (w := map []) hmap .empty .root
  exact ⟨hv, hcast, hrestricts _ hcast, hscalar _ number rfl rfl, hmap,
    (hparts fields rfl).2 ((cast_eq_ok_iff hmap).2 rfl)⟩

/-- **A restriction does not keep a map out of a stream's cast**, though it keeps it out of the
built-in cast of the map as a whole. -/
theorem cast_passes_unaccepted_map :
    let zero : Value := .scalar (.integer .int32 (.wrap .int32 0))
    let r : Restriction := .range ⟨some zero, true, none, false⟩
    let a : AtomicType := ⟨CoreType.symbolMap.qualifiedName, some r⟩
    (map []).cast (.atomic a) .empty .root = .ok (.map []) ∧
      ¬AtSlots .empty (fun a _ w ↦ a.accepts w = true) .root (.atomic a) (.map []) (.map []) ∧
      Cast.atomic a (.map []) (.atomic a) .root =
        .error (.value .root (.unsatisfied (.map []) r)) := by
  intro zero r a
  have h : (map []).WellFormed := by simp [WellFormed, FieldsWellFormed]
  refine ⟨(cast_eq_ok_iff h).2 rfl, fun hslots ↦ ?_, rfl⟩
  cases hslots with
  | fields haccepts => cases haccepts

end Value

end ValueStream
