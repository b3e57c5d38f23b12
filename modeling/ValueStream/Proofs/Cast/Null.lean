import ValueStream.Cast.Whole
import ValueStream.Proofs.Cast.Descent
import ValueStream.Proofs.Cast.Frames

/-!
# Null in a cast

What a cast does with a null goes by the slot it comes to, whatever is open around the slot: the top
of the value, a list, a map whose fields may be anything, or a struct whose fields have types. A
slot with a layer that admits null hands it on as it came. A slot of a named type refuses it, for
the reason that null is not admitted there, unless the type is that of null or the schema casts it.
A slot of a list type refuses it as it refuses every scalar: as a value of another type, and not as
a null (`null_mismatches_list`).

On a stream that is well formed so far the caster knows the slot of the value to come, since its
frames go together with what a checker of the stream has open (`passage_mirrors`).
-/

namespace ValueStream

/-! ## Null in a slot -/

namespace Cast

variable {schema : Schema} {slot : TypeRef} {place : Path}

theorem scalar_null_nullable (inner : TypeRef) :
    scalar schema .null slot place (.nullable inner) = .ok .null := rfl

theorem scalar_null_list (type : ListType) :
    scalar schema .null slot place (.list type) =
      .error (.typeCast place slot (.core .null)) := rfl

/-- A named type refuses null before its restriction is asked. -/
theorem scalar_null_atomic {a : AtomicType} (ha : a.coreType ≠ some .null)
    (hreplacement : schema.replacement .null a place = none) :
    scalar schema .null slot place (.atomic a) = .error (.nullValue place) := by
  have hcast : unrestricted a .null slot place = .error (.nullValue place) := if_neg ha
  rw [scalar, named, hreplacement, hcast]
  rfl

end Cast

/-! ## The slot of the value to come -/

/-- Where a value may come, a caster that has come so far knows its type. -/
theorem Caster.exists_slot_of_passage (type : TypeRef) (schema : Schema) (start : Path)
    {past : List (Event × Option Path)} {v : Value}
    (h : BeginsStream .value (kindsOf past ++ [.value v]))
    (hnone : ((new type schema start).passage past).fault = none) :
    ∃ slot, ((new type schema start).passage past).state.slot = .ok slot := by
  have hrun := (Checker.run_eq_none_iff .value _).2 h
  have hpast : (Checker.run { top := .value } (kindsOf past)).2 = none :=
    (Checker.run_eq_none_iff .value _).2 (h.of_isPrefix (List.prefix_append _ _))
  obtain ⟨hmirrors, -⟩ := passage_mirrors (c := new type schema start) (d := { top := .value })
    (.expected type) hpast hnone
  rw [Checker.run_append] at hrun
  rcases hd : Checker.run { top := .value } (kindsOf past) with ⟨d, _ | fault⟩
  · rw [hd] at hmirrors hrun
    have henter := (Checker.snd_run_singleton d (.value v)).symm.trans hrun
    exact exists_slot hmirrors (Checker.awaits_of_enter henter (by simp) (by simp))
  · rw [hd] at hpast
    cases hpast

/-! ## The step of a cast that a scalar comes to -/

section Step

variable {c : Caster} {slot : TypeRef} {v w : Value} {e : Event} {error : StreamError}

theorem Element.step_cast_ok (hslot : c.slot = .ok slot) (he : e.kind = .value v)
    (ahead : Option Path)
    (h : Cast.scalar c.schema v slot (c.start ++ ahead.getD .root) slot = .ok w) :
    (cast c).step ahead e =
      .forward (e.withKind (.value w)) (some (c.start ++ ahead.getD .root))
        (cast { c with frames := Caster.noteElement c.frames })
        (cast { c with frames := Caster.noteElement c.frames }) := by
  simp [step, castStep, he, Caster.step_value hslot, Caster.castValue, h, Step.map, Step.forward,
    Delivery.map]

theorem Element.step_cast_error (hslot : c.slot = .ok slot) (he : e.kind = .value v)
    (ahead : Option Path)
    (h : Cast.scalar c.schema v slot (c.start ++ ahead.getD .root) slot = .error error) :
    (cast c).step ahead e =
      .stop (some (.error error)) (cast { c with frames := Caster.noteElement c.frames }) := by
  simp [step, castStep, he, Caster.step_value hslot, Caster.castValue, h, Caster.refuse, Step.map,
    Step.stop]

end Step

/-! ## Null in a cast -/

/-- **What becomes of null goes by its slot**, in whatever state a cast has come to on events that a
stream begins with: a layer that admits null hands it on as it came, a named type other than that of
null refuses it for being null, if the schema does not cast it, and a list type refuses it for its
type. -/
theorem Element.null_goes_by_slot (type : TypeRef) (schema : Schema) (start : Path)
    {past handed : List (Event × Option Path)} {c : Caster} {e : Event} (ahead : Option Path)
    (he : e.kind = .value .null) (h : BeginsStream .value (kindsOf past ++ [e.kind]))
    (hpast : (Element.cast (.new type schema start)).passAll past =
      { handed := handed, state := .cast c }) :
    let place := start ++ ahead.getD .root
    let after := Element.cast { c with frames := Caster.noteElement c.frames }
    ∃ slot, c.slot = .ok slot ∧
      (∀ inner, slot = .nullable inner →
        (Element.cast c).step ahead e = .forward e (some place) after after) ∧
      (∀ a, slot = .atomic a → a.coreType ≠ some .null →
        schema.replacement .null a place = none →
          (Element.cast c).step ahead e = .stop (some (.error (.nullValue place))) after) ∧
      ∀ list, slot = .list list → (Element.cast c).step ahead e =
        .stop (some (.error (.typeCast place slot (.core .null)))) after := by
  intro place after
  rw [passAll_cast_eq_passage] at hpast
  obtain ⟨-, hstate, hnone⟩ := Passage.mk.inj hpast
  rw [he] at h
  obtain ⟨slot, hslot⟩ := Caster.exists_slot_of_passage type schema start h hnone
  have htypes : (Caster.new type schema start).Types fun _ ↦ True :=
    .new trivial (fun _ _ _ _ ↦ trivial) type start
  have hgoesOn := Caster.passage_goesOn htypes past
  rw [Element.cast.inj hstate] at hslot hgoesOn
  have hschema : c.schema = schema := hgoesOn.schema
  obtain rfl : c.start = start := hgoesOn.start
  have hsame : e.withKind (.value .null) = e := by rw [← he]; rfl
  refine ⟨slot, hslot, ?_, ?_, ?_⟩
  · rintro inner rfl
    have hstep := step_cast_ok hslot he ahead (Cast.scalar_null_nullable inner)
    rwa [hsame] at hstep
  · rintro a rfl ha hreplacement
    rw [← hschema] at hreplacement
    exact step_cast_error hslot he ahead (Cast.scalar_null_atomic ha hreplacement)
  · rintro list rfl
    exact step_cast_error hslot he ahead (Cast.scalar_null_list list)

/-- In a list of integers, after a field of a struct has begun with one. -/
theorem Element.null_goes_by_slot_of_integers :
    let f : Identifier := ⟨"f", by decide⟩
    let struct : QualifiedName := ⟨"ns@v1", "T", by decide, by decide⟩
    let ints : ListType := ⟨.core (.integer .int32), true⟩
    let t : SchemaTable := ⟨[(struct, some ⟨[(f, .list ints)], none⟩)], [], false⟩
    let place : Path := (Path.root.field f).index 0
    let past : List (Event × Option Path) :=
      [(⟨.structStart struct, none⟩, some .root), (⟨.fieldStart f, none⟩, some (.field .root f)),
        (⟨.listStart .opaque_, none⟩, some (.field .root f))]
    let e : Event := ⟨.value .null, none⟩
    ∃ c handed, BeginsStream .value (kindsOf past ++ [e.kind]) ∧
      (Element.cast (.new (.named struct) t.schema .root)).passAll past =
        { handed := handed, state := .cast c } ∧
      c.slot = .ok (.core (.integer .int32)) ∧
      (Element.cast c).step (some place) e =
        .stop (some (.error (.nullValue place)))
          (.cast { c with frames := Caster.noteElement c.frames }) := by
  intro f struct ints t place past e
  have h : BeginsStream .value (kindsOf past ++ [e.kind]) :=
    (Checker.run_eq_none_iff .value _).1 rfl
  obtain ⟨slot, hslot, -, hatomic, -⟩ :=
    null_goes_by_slot (.named struct) t.schema .root (some place) rfl h
      (c := ⟨t.schema, .root, _⟩) rfl
  obtain rfl : .core (.integer .int32) = slot := Except.ok.inj hslot
  exact ⟨_, _, h, rfl, rfl, hatomic _ rfl (by decide) rfl⟩

/-- **Null where a list is expected is refused for its type**, which does not admit null. -/
theorem null_mismatches_list :
    let type : TypeRef := .list ⟨.core (.integer .int32), true⟩
    let e : Event := ⟨.value .null, none⟩
    let c : Caster := .new type .empty .root
    BeginsStream .value [e.kind] ∧ c.slot = .ok type ∧ type.unwrap = type ∧
      type.coreType ≠ some .null ∧ (∀ a place, Schema.empty.replacement .null a place = none) ∧
      ((Element.cast c).step none e).fault =
        some (.error (.typeCast .root type (.core .null))) ∧
      ((Element.cast c).step none e).fault ≠ some (.error (.nullValue .root)) ∧
      Value.null.cast type .empty .root = .error (.error (.typeCast .root type (.core .null))) := by
  intro type e c
  have hfault : ((Element.cast c).step none e).fault =
      some (.error (.typeCast .root type (.core .null))) := rfl
  have hbegins : BeginsStream .value [e.kind] := (Checker.run_eq_none_iff .value _).1 rfl
  refine ⟨hbegins, rfl, rfl, nofun, fun _ _ ↦ rfl, hfault,
    by simp [hfault, StreamError.typeCast, StreamError.nullValue], ?_⟩
  rw [Value.cast, Pipeline.visit_eq_sendAll]
  rfl

end ValueStream
