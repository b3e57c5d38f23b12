import ValueStream.Proofs.Cast.Slot

/-!
# What becomes of a scalar

The built-in casts turn a scalar into a scalar of the named type, and into one that the same cast
leaves as it is (`unrestricted_settles`). A schema may cast in their place; the restriction of the
type is checked on what comes of it either way (`named_eq_ok_iff`).
-/

namespace ValueStream

namespace Cast

variable {schema : Schema} {a : AtomicType} {v w : Value} {slot callType : TypeRef}
  {place path : Path}

/-! ## Values other than null -/

section
variable (hv : v ≠ .null)

include hv

/-- The built-in cast of a value other than null goes by the type that is named. -/
theorem unrestricted_of_ne_null : unrestricted a v callType path = toNamed a v callType path := by
  rw [unrestricted]
  exact hv

/-- A layer that admits null lets another value through to what is below it. -/
theorem scalar_nullable (inner : TypeRef) :
    scalar schema v slot place (.nullable inner) = scalar schema v slot place inner := by
  rw [scalar]
  exact hv

end

theorem scalar_ne_null {s : Scalar} (hs : s ≠ .null) : Value.scalar s ≠ .null :=
  mt Value.scalar.inj hs

/-! ## Built-in casts -/

/-- A value of the named type that the built-in cast leaves as it is. -/
structure Settled (a : AtomicType) (w : Value) : Prop where
  /-- The value is a scalar. -/
  isScalar : w.isScalar = true
  /-- The value is of the type. -/
  admits : a.Admits w
  /-- The cast leaves it as it is. -/
  kept : ∀ callType path, unrestricted a w callType path = .ok w

/-- Scalars of one form, which a type other than that of every value names, are settled. -/
theorem settled_of_form {α : Type} (form : α → Scalar) {t : CoreType} (ht : t ≠ .value)
    (ha : a.coreType = some t) (hw : ∃ x, w = .scalar (form x)) (hnull : ∀ x, form x ≠ .null)
    (hname : ∀ x, (form x).typeName = t.qualifiedName)
    (hkept : ∀ x callType path,
      toNamed a (.scalar (form x)) callType path = .ok (.scalar (form x))) : Settled a w := by
  obtain ⟨x, rfl⟩ := hw
  refine ⟨rfl, ?_, fun callType path ↦ ?_⟩
  · rw [AtomicType.Admits, if_neg (by simpa [ha] using ht), AtomicType.name_eq_of_coreType ha,
      Value.typeOf, hname]
  · rw [unrestricted_of_ne_null (scalar_ne_null (hnull x)), hkept x callType path]

private theorem toEnum_settles (ha : a.coreType = some .null ∨ a.coreType = none)
    (h : toEnum a.name v callType path = .ok w) : Settled a w := by
  obtain ⟨value, rfl⟩ : ∃ value, w = .scalar (.enum a.name value) := by
    revert h
    fun_cases toEnum a.name v callType path <;> grind
  refine ⟨rfl, AtomicType.admits_of_typeOf rfl (by simp [Value.null]), fun callType path ↦ ?_⟩
  rcases ha with ha | ha <;> simp [unrestricted, toNamed, ha, toEnum]

private theorem toNamed_settles {s : Scalar} (hs : s ≠ .null)
    (h : toNamed a (.scalar s) callType path = .ok w) : Settled a w := by
  cases ha : a.coreType with
  | none =>
    rw [toNamed, ha] at h
    exact toEnum_settles (.inr ha) h
  | some t =>
    rw [toNamed, ha] at h
    cases t with
    | value =>
      obtain rfl := Except.ok.inj h
      have hnull : Value.scalar s ≠ .null := scalar_ne_null hs
      refine ⟨rfl, AtomicType.admits_of_value ha hnull, fun callType path ↦ ?_⟩
      rw [unrestricted_of_ne_null hnull]
      simp [toNamed, ha]
    | null => exact toEnum_settles (.inl ha) h
    | boolean =>
      have h : toBoolean (.scalar s) callType path = .ok w := h
      refine settled_of_form .boolean (by simp) ha ?_ (by simp) (fun _ ↦ rfl) ?_
      · revert h
        fun_cases toBoolean (.scalar s) callType path <;> grind
      · simp [toNamed, ha, toBoolean]
    | buffer =>
      have h : toBuffer (.scalar s) callType path = .ok w := h
      refine settled_of_form .buffer (by simp) ha ?_ (by simp) (fun _ ↦ rfl) ?_
      · revert h
        fun_cases toBuffer (.scalar s) callType path <;> grind
      · simp [toNamed, ha, toBuffer]
    | string =>
      have h : toText (.scalar s) callType path = .ok w := h
      refine settled_of_form .string (by simp) ha ?_ (by simp) (fun _ ↦ rfl) ?_
      · revert h
        fun_cases toText (.scalar s) callType path <;> grind
      · simp [toNamed, ha, toText]
    | integer k =>
      have h : toInteger k (.scalar s) callType path = .ok w := h
      refine settled_of_form (.integer k) (by simp) ha ?_ (by simp) (fun _ ↦ rfl) ?_
      · revert h
        fun_cases toInteger k (.scalar s) callType path <;> grind
      · simp [toNamed, ha, toInteger]
    | float k =>
      have h : toFloat k (.scalar s) callType path = .ok w := h
      refine settled_of_form (.float k) (by simp) ha ?_ (by simp) (fun _ ↦ rfl) ?_
      · revert h
        fun_cases toFloat k (.scalar s) callType path <;> grind
      · simp [toNamed, ha, toFloat]
    | timestamp =>
      have h : toTimestamp (.scalar s) callType path = .ok w := h
      refine settled_of_form .timestamp (by simp) ha ?_ (by simp) (fun _ ↦ rfl) ?_
      · revert h
        fun_cases toTimestamp (.scalar s) callType path <;> grind
      · simp [toNamed, ha, toTimestamp]
    | symbolMap => cases h

/-- **What the built-in cast makes of a scalar is of the named type, and the cast leaves it as it
is.** A floating-point number of the type keeps its bits. -/
theorem unrestricted_settles {s : Scalar}
    (h : unrestricted a (.scalar s) callType path = .ok w) : Settled a w := by
  by_cases hs : s = .null
  · subst hs
    by_cases ha : a.coreType = some .null
    · obtain rfl : Value.scalar .null = w := by simpa [unrestricted, ha] using h
      refine ⟨rfl, ?_, fun callType path ↦ by simp [unrestricted, ha]⟩
      rw [AtomicType.Admits, if_neg (by simp [ha]), AtomicType.name_eq_of_coreType ha]
      rfl
    · simp [unrestricted, ha] at h
  · rw [unrestricted_of_ne_null (scalar_ne_null hs)] at h
    exact toNamed_settles hs h

/-! ## Casts of a scalar with a schema -/

@[simp] theorem checkRestriction_eq_ok_iff {u : Unit} :
    checkRestriction a v place = .ok u ↔ a.accepts v = true := by
  rw [checkRestriction, AtomicType.accepts]
  cases a.restriction with
  | none => simp
  | some r => cases hr : r.accepts v <;> simp [hr]

theorem named_eq_ok_iff :
    named schema v a slot place = .ok w ↔
      (schema.replacement v a place = some (.ok w) ∨
        schema.replacement v a place = none ∧ unrestricted a v slot place = .ok w) ∧
      a.accepts w = true := by
  rw [named]
  cases hreplacement : schema.replacement v a place with
  | none => simp [bind_eq_ok_iff, pure, Except.pure]
  | some outcome => simp [bind_eq_ok_iff, pure, Except.pure]

end Cast

/-! ## Casts by a table -/

/-- What a schema casts in place of the built-in cast becomes a scalar of the type asked for. -/
def Schema.ReplacesInType (schema : Schema) : Prop :=
  ∀ v a place w, schema.replacement v a place = some (.ok w) → w.isScalar = true ∧ a.Admits w

namespace SchemaTable

variable {t : SchemaTable} {a : AtomicType} {v w : Value} {place : Path}

/-- A table casts texts to integers of one kind, and nothing else. -/
theorem replacement_eq_some {outcome : Except StreamError Value}
    (h : t.replacement v a place = some outcome) :
    a.coreType = some (.integer .int64) ∧ (∃ s, v = .scalar (.string s)) ∧
      ∀ w, outcome = .ok w → ∃ n, w = .scalar (.integer .int64 n) := by
  revert h
  fun_cases replacement t v a place with
  | case1 hasked s =>
    intro h
    obtain ⟨digits, -, rfl⟩ := Option.map_eq_some_iff.1 h
    refine ⟨hasked.2, ⟨s, rfl⟩, fun w hw ↦ ?_⟩
    split at hw
    · exact ⟨_, (Except.ok.inj hw).symm⟩
    · cases hw
  | case2 | case3 => nofun

theorem settled_of_replacement (h : t.replacement v a place = some (.ok w)) :
    Cast.Settled a w := by
  obtain ⟨ha, -, hw⟩ := replacement_eq_some h
  refine Cast.settled_of_form (.integer .int64) (by simp) ha (hw w rfl) (by simp) (fun _ ↦ rfl) ?_
  simp [Cast.toNamed, ha, Cast.toInteger]

/-- A table leaves alone what is of the type already. -/
theorem replacement_eq_none (h : a.Admits v) : t.replacement v a place = none := by
  cases houtcome : t.replacement v a place with
  | none => rfl
  | some outcome =>
    obtain ⟨ha, ⟨s, rfl⟩, -⟩ := replacement_eq_some houtcome
    rw [AtomicType.Admits, if_neg (by simp [ha]), AtomicType.name_eq_of_coreType ha] at h
    -- The type of a text is not that of integers.
    have hname : CoreType.string.qualifiedName = (CoreType.integer .int64).qualifiedName := by
      simpa [Value.typeOf, Scalar.typeName, TypeRef.named, AtomicType.plain] using h
    have htype := congrArg CoreType.ofQualifiedName hname
    simp at htype

theorem replacesInType (t : SchemaTable) : t.schema.ReplacesInType := fun _ _ _ _ h ↦
  ⟨(settled_of_replacement h).isScalar, (settled_of_replacement h).admits⟩

end SchemaTable

end ValueStream
