import ValueStream.Pipeline.Blueprint
import ValueStream.Proofs.Cast.Frames
import ValueStream.Proofs.Cast.Parts
import ValueStream.Proofs.Reorder.Send

/-!
# Casts keep the skeleton of a value

The skeleton of a value is what is left of it when the types of lists and structs are forgotten and
whatever scalars say, so that maps and structs look alike and only null stays apart from other
scalars. A cast changes what the skeleton forgets and nothing else: null does not come of another
scalar, nor another scalar of null, by any of the built-in casts, and elements and fields keep their
number, their order and their names. What a schema casts in place of the built-in casts has to be
asked for (`KeepsSkeletons`); a table makes integers of texts.

Of the events of a stream the skeleton is the outline. A cast hands on one event of the same outline
for each that it accepts, whatever the schema, so that what it hands on is a stream where what comes
is one.
-/

namespace ValueStream

/-! ## Skeletons -/

/-- A value without the types of its parts and without what its scalars say. -/
inductive Skeleton
  /-- Null. -/
  | null
  /-- Any other scalar. -/
  | scalar
  /-- A list. -/
  | list (elements : List Skeleton)
  /-- A map or struct. -/
  | fields (fields : List (Identifier × Skeleton))

/-- The part of a skeleton at the end of steps. -/
def Skeleton.part? : Skeleton → List Segment → Option Skeleton
  | s, [] => some s
  | .fields parts, .field name :: rest => (parts.lookup name).bind fun s ↦ part? s rest
  | .list parts, .index i :: rest => parts[i]?.bind fun s ↦ part? s rest
  | _, _ => none

namespace Value

mutual

/-- What is left of a value. -/
def skeleton : Value → Skeleton
  | .scalar .null => .null
  | .scalar _ => .scalar
  | .list _ elements => .list (elementSkeletons elements)
  | .map fields => .fields (fieldSkeletons fields)
  | .struct _ fields => .fields (fieldSkeletons fields)

/-- What is left of the elements of a list. -/
def elementSkeletons : List Value → List Skeleton
  | [] => []
  | v :: rest => v.skeleton :: elementSkeletons rest

/-- What is left of fields. -/
def fieldSkeletons : List (Identifier × Value) → List (Identifier × Skeleton)
  | [] => []
  | (name, v) :: rest => (name, v.skeleton) :: fieldSkeletons rest

end

theorem elementSkeletons_eq_map (elements : List Value) :
    elementSkeletons elements = elements.map skeleton := by
  induction elements with
  | nil => simp [elementSkeletons]
  | cons v rest ih => simp [elementSkeletons, ih]

theorem fieldSkeletons_eq_map (fields : List (Identifier × Value)) :
    fieldSkeletons fields = fields.map fun f ↦ (f.1, f.2.skeleton) := by
  induction fields with
  | nil => simp [fieldSkeletons]
  | cons f rest ih => simp [fieldSkeletons, ih]

variable {v w : Value}

theorem skeleton_of_fields {fields : Fields} (hv : v.fields? = some fields) :
    v.skeleton = .fields (fieldSkeletons fields) := by
  cases v <;> cases hv <;> simp [skeleton]

theorem skeleton_scalar {s : Scalar} (hs : s ≠ .null) : (scalar s).skeleton = .scalar := by
  rw [skeleton]
  simpa using hs

theorem skeleton_eq_null_iff : v.skeleton = .null ↔ v = .null := by
  constructor
  · intro h
    cases v with
    | scalar s =>
      by_cases hs : s = .null
      · rw [hs, Value.null]
      · rw [skeleton_scalar hs] at h
        cases h
    | list | map | struct =>
      rw [skeleton] at h
      cases h
  · rintro rfl
    rw [Value.null, skeleton]

/-- The parts of a value have the parts of its skeleton for skeletons. -/
theorem part?_skeleton (v : Value) (steps : List Segment) :
    v.skeleton.part? steps = (v.part? steps).map skeleton := by
  induction steps generalizing v with
  | nil => simp [Skeleton.part?]
  | cons step rest ih =>
    cases v with
    | scalar s => cases s <;> cases step <;> simp [skeleton, Skeleton.part?, part?]
    | list type elements =>
      cases step with
      | field name => simp [skeleton, Skeleton.part?, part?]
      | index i =>
        simp only [skeleton, Skeleton.part?, part?, elementSkeletons_eq_map, List.getElem?_map]
        cases elements[i]? <;> simp [ih]
    | map fields | struct type fields =>
      cases step with
      | index i => simp [skeleton, Skeleton.part?, part?]
      | field name =>
        simp only [skeleton, Skeleton.part?, part?, fieldSkeletons_eq_map,
          lookup_map (fun _ v ↦ skeleton v)]
        cases fields.lookup name <;> simp [ih]

/-- Values with one skeleton have null at the same places. -/
theorem part?_eq_null_iff_of_skeleton (h : w.skeleton = v.skeleton) (steps : List Segment) :
    w.part? steps = some .null ↔ v.part? steps = some .null := by
  have hnull : ∀ u : Value, u.part? steps = some .null ↔ u.skeleton.part? steps = some .null := by
    intro u
    rw [part?_skeleton]
    simp [skeleton_eq_null_iff]
  rw [hnull w, hnull v, h]

end Value

/-! ## Casts of scalars -/

namespace Cast

variable {a : AtomicType} {s : Scalar} {w : Value} {callType : TypeRef} {path : Path}

/-- Null comes of no other scalar: where the type asked for is that of null, enums come. -/
theorem ne_null_of_unrestricted (hs : s ≠ .null)
    (h : unrestricted a (.scalar s) callType path = .ok w) : w ≠ .null := by
  rintro rfl
  have ha : a.coreType = some .null := by
    have hadmits := (unrestricted_settles h).admits
    rw [AtomicType.Admits] at hadmits
    split at hadmits
    · exact absurd rfl hadmits
    · have hname : CoreType.null.qualifiedName = a.name := by
        simpa [Value.null, Value.typeOf, Scalar.typeName, TypeRef.named, AtomicType.plain]
          using hadmits
      exact CoreType.ofQualifiedName_eq_some_iff.2 hname.symm
  rw [unrestricted_of_ne_null (scalar_ne_null hs), toNamed, ha] at h
  revert h
  fun_cases toEnum a.name (.scalar s) callType path <;> grind [Value.null]

theorem skeleton_of_unrestricted (h : unrestricted a (.scalar s) callType path = .ok w) :
    w.skeleton = (Value.scalar s).skeleton := by
  by_cases hs : s = .null
  · subst hs
    obtain rfl : Value.scalar .null = w := by
      rw [unrestricted] at h
      split at h
      · exact Except.ok.inj h
      · cases h
    rfl
  · have hw := ne_null_of_unrestricted hs h
    have hscalar := (unrestricted_settles h).isScalar
    cases w with
    | scalar t =>
      have ht : t ≠ .null := by simpa [Value.null] using hw
      rw [Value.skeleton_scalar hs, Value.skeleton_scalar ht]
    | list | map | struct => cases hscalar

end Cast

/-- What a schema casts in place of the built-in casts keeps the skeleton of a scalar. -/
def Schema.KeepsSkeletons (schema : Schema) : Prop :=
  ∀ s a place w, schema.replacement (.scalar s) a place = some (.ok w) →
    w.skeleton = (Value.scalar s).skeleton

theorem SchemaTable.keepsSkeletons (t : SchemaTable) : t.schema.KeepsSkeletons := by
  intro s a place w h
  obtain ⟨-, ⟨text, hs⟩, hw⟩ := replacement_eq_some h
  obtain ⟨n, rfl⟩ := hw w rfl
  rw [hs, Value.skeleton_scalar (by simp), Value.skeleton_scalar (by simp)]

/-! ## Casts of values -/

section
variable {schema : Schema}

/-- Whether a value has the skeleton of the scalar that it has come of. -/
def KeepsSkeleton (_ : AtomicType) (v w : Value) : Prop :=
  v.isScalar = true → w.skeleton = v.skeleton

theorem Schema.KeepsSkeletons.holdsOfCasts (h : schema.KeepsSkeletons) :
    HoldsOfCasts schema KeepsSkeleton where
  named hw := by
    intro _
    obtain ⟨hreplaced | ⟨-, hcast⟩, -⟩ := Cast.named_eq_ok_iff.1 hw
    · exact h _ _ _ _ hreplaced
    · exact Cast.skeleton_of_unrestricted hcast
  parts hv _ := by
    intro hscalar
    rw [hv] at hscalar
    cases hscalar

mutual

/-- Where scalars keep their skeletons, so do values. -/
theorem AtSlots.skeleton_eq : ∀ {place : Path} {slot : TypeRef} {v w : Value},
    AtSlots schema KeepsSkeleton place slot v w → w.skeleton = v.skeleton
  | _, _, _, _, .null => rfl
  | _, _, _, _, .layer hslots => hslots.skeleton_eq
  | _, _, _, _, .list elements _ => by
    rw [Value.skeleton, Value.skeleton, elements.skeletons_eq]
  | _, _, _, _, .scalar hw => hw rfl
  | _, _, _, _, .anyList _ elements => by
    rw [Value.skeleton, Value.skeleton, elements.skeletons_eq]
  | _, _, _, _, .fields _ hv hw _ fields => by
    rw [Value.skeleton_of_fields hv, Value.skeleton_of_fields hw, fields.skeletons_eq]

theorem AtElements.skeletons_eq : ∀ {place : Path} {slot : TypeRef} {i : Nat} {vs ws : List Value},
    AtElements schema KeepsSkeleton place slot i vs ws →
      Value.elementSkeletons ws = Value.elementSkeletons vs
  | _, _, _, _, _, .nil => rfl
  | _, _, _, _, _, .cons hslots elements => by
    rw [Value.elementSkeletons, Value.elementSkeletons, hslots.skeleton_eq, elements.skeletons_eq]

theorem AtFields.skeletons_eq : ∀ {place : Path} {typer : FieldTyper} {fs gs : Fields},
    AtFields schema KeepsSkeleton place typer fs gs →
      Value.fieldSkeletons gs = Value.fieldSkeletons fs
  | _, _, _, _, .nil => rfl
  | _, _, _, _, .cons _ hslots fields => by
    rw [Value.fieldSkeletons, Value.fieldSkeletons, hslots.skeleton_eq, fields.skeletons_eq]

end

theorem Value.skeleton_of_cast (hschema : schema.KeepsSkeletons) {v w : Value} (h : v.WellFormed)
    {type : TypeRef} {start : Path} (hcast : v.cast type schema start = .ok w) :
    w.skeleton = v.skeleton :=
  (hschema.holdsOfCasts.atSlots_of_castAt ((cast_eq_ok_iff h).1 hcast)).skeleton_eq

end

/-! ## Casts of streams -/

namespace Pipeline

/-- A cast behind a checker, with a note-taker behind it. -/
theorem sendAll_cast (top : TopType) (type : TypeRef) (schema : Schema) (start : Path)
    (id : String) (events : List Event) :
    let checked := Checker.passage { top := top } (events.map fun e ↦ (e, none))
    let cast := (Caster.new type schema start).passage checked.handed
    ∃ elements,
      (ofElements [.checker { top := top }, .cast (.new type schema start),
        .observer (.note id)]).sendAll events =
          { elements := elements, notes := cast.handed.map fun x ↦ .seen id x.1 none
            fault := cast.fault.or checked.fault } := by
  intro checked cast
  have hsetUp : ofElements [.checker { top := top }, .cast (.new type schema start),
      .observer (.note id)] =
        ⟨[.checker { top := top }, .cast (.new type schema start), .observer (.note id)]⟩ := rfl
  obtain ⟨first, -, hrow⟩ := @sendRow_cons (.checker { top := top }) rfl
    [.cast (.new type schema start), .observer (.note id)] (events.map fun e ↦ (e, none))
  obtain ⟨second, -, hbehind⟩ := @sendRow_cons (.cast (.new type schema start)) rfl
    [.observer (.note id)] checked.handed
  rw [Element.passAll_cast_eq_passage, sendRow_note] at hbehind
  rw [Element.passAll_checker] at hrow
  simp only [Passage.map] at hbehind hrow
  rw [hbehind] at hrow
  exact ⟨_, by rw [hsetUp, sendAll_eq_sendRow, hrow, Option.none_or]⟩

/-- If nothing is refused, the note-taker notes one event for each that comes. -/
theorem sendAll_cast_of_accepts (top : TopType) (type : TypeRef) (schema : Schema) (start : Path)
    (id : String) (events : List Event) :
    let r := (ofElements [.checker { top := top }, .cast (.new type schema start),
      .observer (.note id)]).sendAll events
    r.fault = none → BeginsStream .value (events.map (·.kind)) ∧
      ∃ out : List Event, r.notes = out.map (fun f ↦ .seen id f none) ∧
        List.Forall₂ (fun e f ↦ f.path = e.path ∧ f.kind.outline = e.kind.outline) events out := by
  intro r hnone
  let inputs : List (Event × Option Path) := events.map fun e ↦ (e, none)
  let checked := Checker.passage { top := top } inputs
  let cast := (Caster.new type schema start).passage checked.handed
  obtain ⟨elements, hrun⟩ := sendAll_cast top type schema start id events
  have hr : r = { elements := elements, notes := cast.handed.map fun x ↦ .seen id x.1 none
                  fault := cast.fault.or checked.fault } := hrun
  rw [hr] at hnone ⊢
  obtain ⟨hcast, hchecked⟩ := Option.or_eq_none_iff.1 hnone
  -- The checker hands on the events as they come.
  have hhanded : checked.handed.map Prod.fst = events := by
    rw [Checker.fst_handed_passage hchecked, List.map_map]
    exact List.map_id _
  have hkinds : kindsOf checked.handed = events.map (·.kind) := by
    rw [← hhanded, List.map_map]
    rfl
  have haccepted : (Checker.run { top := top } (kindsOf checked.handed)).2 = none :=
    Checker.run_handed_passage _ _
  constructor
  · rw [← hkinds]
    exact ((Checker.run_eq_none_iff top _).1 haccepted).value
  · have hout := (Caster.passage_mirrors (.expected type) haccepted hcast).2
    rw [hhanded] at hout
    refine ⟨cast.handed.map Prod.fst, ?_, hout⟩
    rw [List.map_map]
    rfl

/-- **A cast keeps the shape of a value and where it has null.** What a value becomes has its
skeleton, and null just where it has null, by whatever table the schema goes, and by any schema
whose own casts keep the skeletons of scalars. Of events that a checker and the cast accept the cast
hands on one for each that comes, stamped as that one and of the same outline. So this is what a
stream begins with, and it is a whole one if what comes is. -/
theorem cast_keeps_skeleton (type : TypeRef) (start : Path) :
    (∀ (t : SchemaTable) (v w : Value), v.WellFormed → v.cast type t.schema start = .ok w →
      w.skeleton = v.skeleton ∧
        ∀ p : Path, w.part? p.segments = some .null ↔ v.part? p.segments = some .null) ∧
    (∀ (schema : Schema) (v w : Value), schema.KeepsSkeletons → v.WellFormed →
      v.cast type schema start = .ok w → w.skeleton = v.skeleton ∧
        ∀ p : Path, w.part? p.segments = some .null ↔ v.part? p.segments = some .null) ∧
    ∀ (top : TopType) (schema : Schema) (id : String) (events : List Event),
      let r := (ofElements [.checker { top := top }, .cast (.new type schema start),
        .observer (.note id)]).sendAll events
      r.fault = none → ∃ out : List Event, r.notes = out.map (fun f ↦ .seen id f none) ∧
        List.Forall₂ (fun e f ↦ f.path = e.path ∧ f.kind.outline = e.kind.outline) events out ∧
        BeginsStream .value (out.map (·.kind)) ∧
        (IsValueStream (out.map (·.kind)) ↔ IsValueStream (events.map (·.kind))) := by
  have hvalues : ∀ (schema : Schema) (v w : Value), schema.KeepsSkeletons → v.WellFormed →
      v.cast type schema start = .ok w → w.skeleton = v.skeleton ∧
        ∀ p : Path, w.part? p.segments = some .null ↔ v.part? p.segments = some .null := by
    intro schema v w hschema h hcast
    have hskeleton := Value.skeleton_of_cast hschema h hcast
    exact ⟨hskeleton, fun p ↦ Value.part?_eq_null_iff_of_skeleton hskeleton p.segments⟩
  refine ⟨fun t v w ↦ hvalues t.schema v w t.keepsSkeletons, hvalues, ?_⟩
  intro top schema id events r hnone
  obtain ⟨hbegins, out, hnotes, hout⟩ :=
    sendAll_cast_of_accepts top type schema start id events hnone
  have houtlines : (events.map (·.kind)).map EventKind.outline =
      (out.map (·.kind)).map EventKind.outline := by
    rw [List.map_map, List.map_map, ← List.forall₂_eq_eq_eq, List.forall₂_map_left_iff,
      List.forall₂_map_right_iff]
    exact hout.imp fun e f hef ↦ hef.2.symm
  refine ⟨out, hnotes, hout, hbegins.of_outlines houtlines, ?_⟩
  constructor
  · intro h
    exact h.of_outlines houtlines.symm
  · intro h
    exact h.of_outlines houtlines

/-- A map becomes a struct: a text that holds a variable becomes an integer, a list takes on the
type of its field, and null stays null below the layer that admits it. -/
theorem cast_keeps_skeleton_of_inferred :
    let a : Identifier := ⟨"a", by decide⟩
    let b : Identifier := ⟨"b", by decide⟩
    let type : QualifiedName := ⟨"ns@v1", "T", by decide, by decide⟩
    let ints : ListType := ⟨.nullable (.core (.integer .int64)), false⟩
    let t : SchemaTable :=
      ⟨[(type, some ⟨[(a, .list ints), (b, .core .string)], none⟩)], [type], true⟩
    let seven : Scalar := .integer .int64 (.wrap .int64 7)
    let v : Value := .map
      [(a, .list .opaque_ [.scalar (.string "$\x7b7\x7d"), .null]), (b, .scalar seven)]
    let w : Value := .struct type
      [(a, .list ints [.scalar seven, .null]), (b, .scalar (.string "7"))]
    let r := (ofElements [.checker { top := .map }, .cast (.new (.named type) t.schema .root),
      .observer (.note "n")]).sendAll v.events
    v.WellFormed ∧ v.cast (.named type) t.schema .root = .ok w ∧ t.schema.KeepsSkeletons ∧
      w.skeleton = v.skeleton ∧ w.skeleton = .fields [(a, .list [.scalar, .null]), (b, .scalar)] ∧
      (∀ p : Path, w.part? p.segments = some .null ↔ v.part? p.segments = some .null) ∧
      r.fault = none ∧ ∃ out : List Event, r.notes = out.map (fun f ↦ .seen "n" f none) ∧
        out.length = 9 ∧ IsValueStream (out.map (·.kind)) := by
  intro a b type ints t seven v w r
  have h : v.WellFormed := by
    simp [v, Value.WellFormed, Value.FieldsWellFormed, Value.ElementsWellFormed, Value.null,
      Fields.keys, a, b]
  have hcast : v.cast (.named type) t.schema .root = .ok w := (Value.cast_eq_ok_iff h).2 rfl
  have hnone : r.fault = none := by decide +kernel
  obtain ⟨htables, hschemas, hstreams⟩ := cast_keeps_skeleton (.named type) .root
  obtain ⟨hskeleton, -⟩ := htables t v w h hcast
  obtain ⟨-, hnull⟩ := hschemas t.schema v w t.keepsSkeletons h hcast
  obtain ⟨out, hnotes, hout, -, hwhole⟩ := hstreams .map t.schema "n" v.events hnone
  have hlength : v.events.length = 9 := rfl
  refine ⟨h, hcast, t.keepsSkeletons, hskeleton, rfl, hnull, hnone, out, hnotes, ?_, ?_⟩
  · rw [← hout.length_eq, hlength]
  · exact hwhole.2 (v.isValueStream_events h)

end Pipeline

end ValueStream
