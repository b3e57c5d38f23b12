import ValueStream.Proofs.Cast.Parts
import ValueStream.Proofs.Cast.Places

/-!
# What passes a cast

A caster without a builder behind it takes in the events of a value where it expects one. It is
stopped if the cast by descent fails, with the error of that cast (`verdict_placed`, by recursion on
the value). If the parts of the value are cast to what stands at their locations, and maps and
structs keep their starts, each event leaves as it came, but for what comes as a whole and the types
of lists, which are those at its location in the result (`passage_placed`, by recursion on the cast
of the parts). Neither looks at more than one part at a time, so that both hold for the fields of a
map or struct in any order.
-/

namespace ValueStream

/-! ## Starts -/

/-- What a map or a struct of a type is before a cast. -/
def FieldsTarget.ofTag : Option QualifiedName → FieldsTarget
  | none => .map
  | some type => .struct type

theorem FieldsTarget.ofTag_type? (target : FieldsTarget) : ofTag target.type? = target := by
  cases target <;> rfl

theorem FieldsTarget.typeOf_ofTag {v : Value} {fs : Fields} (hv : v.fields? = some fs) :
    ((ofTag v.structType?).ofFields []).typeOf = v.typeOf := by
  cases v <;> cases hv <;> rfl

theorem Value.placed_of_fields {stamp : Path → Option Path} {v : Value} {fs : Fields}
    (hv : v.fields? = some fs) (p : Path) :
    v.placed stamp p =
      (⟨(FieldsTarget.ofTag v.structType?).start, stamp p⟩, p) ::
        (placedFields stamp p fs ++ [(⟨.close, stamp p⟩, p)]) := by
  cases v <;> cases hv <;> simp [structType?, FieldsTarget.ofTag, FieldsTarget.start]

namespace Caster

variable {schema : Schema} {base : Path} {frames : List CastFrame} {slot : TypeRef}

/-- A map and a struct start alike but for what they become. -/
theorem step_start {c : Caster} (hslot : c.slot = .ok slot) (place : Path)
    (tag : Option QualifiedName) :
    c.step place (FieldsTarget.ofTag tag).start =
      match slot.fieldsTarget c.schema tag with
      | none =>
        c.refuse (.typeCast place slot ((FieldsTarget.ofTag tag).ofFields []).typeOf)
      | some target =>
        match c.schema.fieldTyper place (tag.or target.type?) with
        | .error e => c.refuse e
        | .ok typer => (c.push (.map none typer), .ok target.start) := by
  have hstruct : ∀ type, c.startStruct place slot type =
      match slot.structTarget type with
      | none => c.refuse (.typeCast place slot (.named type))
      | some target =>
        match c.schema.fieldTyper place (some type) with
        | .error e => c.refuse e
        | .ok typer => (c.push (.map none typer), .ok target.start) := by
    intro type
    rw [startStruct, Schema.fieldTyper]
    cases slot.structTarget type with
    | none => rfl
    | some target => cases c.schema.typer type place <;> rfl
  cases tag with
  | some type =>
    rw [FieldsTarget.ofTag, FieldsTarget.start, c.step_structStart hslot, hstruct,
      TypeRef.fieldsTarget]
    rfl
  | none =>
    rw [FieldsTarget.ofTag, FieldsTarget.start, c.step_mapStart hslot, startMap,
      TypeRef.fieldsTarget]
    cases slot.takesMaps with
    | true => rfl
    | false =>
      cases hinferred : slot.inferredStruct c.schema with
      | none => rfl
      | some type =>
        simp only [hstruct, TypeRef.structTarget_of_inferred hinferred]
        rfl

@[simp] theorem noteElement_map (fieldType : Option TypeRef) (typer : FieldTyper)
    (outer : List CastFrame) :
    noteElement (.map fieldType typer :: outer) = .map fieldType typer :: outer := rfl

/-! ## Where a cast is stopped -/

/-- Whether a caster takes in events at places, and what stops it if not. -/
def verdict (c : Caster) (xs : List (Event × Path)) : Except Fault Unit :=
  match (c.passage (xs.map fun x ↦ (x.1, some x.2))).fault with
  | none => .ok ()
  | some fault => .error fault

theorem verdict_cons {c c' : Caster} {e : Event} {p : Path} {kind : EventKind}
    (h : c.step (c.start ++ p) e.kind = (c', .ok kind)) (later : List (Event × Path)) :
    c.verdict ((e, p) :: later) = c'.verdict later := by
  rw [verdict, List.map_cons, passage_cons_ok h]
  rfl

theorem verdict_refused {c : Caster} {e : Event} {p : Path} {fault : Fault}
    (h : (c.step (c.start ++ p) e.kind).2 = .error fault) (later : List (Event × Path)) :
    c.verdict ((e, p) :: later) = .error fault := by
  have hstep : c.step (c.start ++ p) e.kind = (_, .error fault) := Prod.ext rfl h
  rw [verdict, List.map_cons, passage_cons_error hstep]

variable {stamp : Path → Option Path}

/-- A caster that expects a value comes past its events, or is stopped by the error of its cast. -/
def Judges (schema : Schema) (base : Path) (stamp : Path → Option Path) (v : Value) : Prop :=
  ∀ (frames : List CastFrame) {slot : TypeRef}, Caster.slot ⟨schema, base, frames⟩ = .ok slot →
    ∀ (p : Path) (later : List (Event × Path)),
      verdict ⟨schema, base, frames⟩ (v.placed stamp p ++ later) =
        goOn (v.castAt schema slot (base ++ p)) fun _ ↦
          verdict ⟨schema, base, noteElement frames⟩ later

theorem verdict_placedElements {target : ListType} {outer : List CastFrame} {noted : Bool}
    (p : Path) (i : Nat) (later : List (Event × Path)) {elements : List Value}
    (h : ∀ v ∈ elements, Judges schema base stamp v) :
    verdict ⟨schema, base, .list target noted :: outer⟩
        (Value.placedElements stamp p i elements ++ later) =
      goOn (Value.castElements schema target.element (base ++ p) i elements) fun ws ↦
        verdict ⟨schema, base, .list target (noted || !ws.isEmpty) :: outer⟩ later := by
  induction elements generalizing noted i with
  | nil => simp [Value.castElements]
  | cons v elements ih =>
    obtain ⟨hv, helements⟩ := List.forall_mem_cons.1 h
    have hplace : base ++ p.index i = (base ++ p).index i := Path.append_push ..
    rw [Value.placedElements_cons, List.append_assoc, hv _ rfl, hplace, Value.castElements]
    simp only [goOn_bind, goOn_pure, noteElement, ih _ helements]
    simp

theorem verdict_placedFields {fieldType : Option TypeRef} {typer : FieldTyper}
    {outer : List CastFrame} (p : Path) (later : List (Event × Path)) {fields : Fields}
    (h : ∀ f ∈ fields, Judges schema base stamp f.2) :
    verdict ⟨schema, base, .map fieldType typer :: outer⟩
        (Value.placedFields stamp p fields ++ (⟨.close, stamp p⟩, p) :: later) =
      goOn (Value.castFields schema typer (base ++ p) fields) fun _ ↦
        verdict ⟨schema, base, noteElement outer⟩ later := by
  induction fields generalizing fieldType with
  | nil =>
    rw [Value.placedFields_nil, List.nil_append, verdict_cons rfl]
    rfl
  | cons f fields ih =>
    obtain ⟨name, v⟩ := f
    obtain ⟨hv, hfields⟩ := List.forall_mem_cons.1 h
    have hplace : base ++ p.field name = (base ++ p).field name := Path.append_push ..
    rw [Value.placedFields_cons, Value.castFields, List.cons_append, ← hplace]
    cases htype : typer name (base ++ p.field name) with
    | error error =>
      exact verdict_refused (by simp [step, startField, htype, refuse]) _
    | ok slot =>
      have hstart : step ⟨schema, base, .map fieldType typer :: outer⟩ (base ++ p.field name)
          (.fieldStart name) =
          (⟨schema, base, .map (some slot) typer :: outer⟩, .ok (.fieldStart name)) := by
        simp [step, startField, htype]
      rw [verdict_cons hstart, List.append_assoc, hv _ rfl]
      simp only [goOn_bind, goOn_pure, goOn_ok, noteElement, ih hfields]

theorem judges_of_fields {v : Value} {fields : Fields} (hv : v.fields? = some fields)
    (h : ∀ f ∈ fields, Judges schema base stamp f.2) : Judges schema base stamp v := by
  intro frames slot hslot p later
  have hstart := step_start hslot (base ++ p) v.structType?
  rw [Value.placed_of_fields hv, Value.castAt_of_fields hv, List.cons_append, List.append_assoc]
  cases htarget : slot.fieldsTarget schema v.structType? with
  | none =>
    rw [htarget, FieldsTarget.typeOf_ofTag hv] at hstart
    exact verdict_refused (by rw [hstart]; rfl) _
  | some target =>
    rw [htarget] at hstart
    cases htyper : schema.fieldTyper (base ++ p) (v.structType?.or target.type?) with
    | error e =>
      simp only [htyper] at hstart ⊢
      exact verdict_refused (by rw [hstart]; rfl) _
    | ok typer =>
      simp only [htyper] at hstart
      rw [verdict_cons hstart]
      simp only [goOn_bind, goOn_map, htyper, goOn_ok]
      exact verdict_placedFields p later h

/-- **Where a value of a type is expected, a caster comes past the events of a value if the value
can be cast**, and is stopped by the error of the cast if not. -/
theorem verdict_placed (v : Value) : Judges schema base stamp v := by
  induction v using Value.induct with
  | scalar s =>
    intro frames slot hslot p later
    rw [Value.placed_scalar, Value.castAt, List.singleton_append]
    cases hw : Cast.scalar schema (.scalar s) slot (base ++ p) slot with
    | error e =>
      exact verdict_refused (by simp [step_value hslot, castValue, hw, refuse]) _
    | ok w =>
      exact verdict_cons (by rw [step_value hslot, castValue, hw]) _
  | map fields ih | struct type fields ih => exact judges_of_fields rfl ih
  | list given elements ih =>
    intro frames slot hslot p later
    rw [Value.placed_list, Value.castAt, List.cons_append, List.append_assoc]
    cases htaken : slot.listTarget given with
    | none =>
      exact verdict_refused (by simp [step_listStart hslot, startList, htaken, refuse]) _
    | some taken =>
      obtain ⟨type, target⟩ := taken
      have hstart : step ⟨schema, base, frames⟩ (base ++ p) (.listStart given) =
          (⟨schema, base, .list target false :: frames⟩, .ok (.listStart type)) := by
        simp [step_listStart hslot, startList, htaken, push]
      rw [verdict_cons hstart, verdict_placedElements p 0 _ ih]
      simp only [goOn_bind]
      refine congrArg (goOn _) (funext fun ws ↦ ?_)
      cases hempty : ws.isEmpty && !target.allowsEmpty with
      | true =>
        obtain ⟨hws, hallows⟩ : ws.isEmpty = true ∧ target.allowsEmpty = false := by
          simpa using hempty
        exact verdict_refused (by simp [step, close, hws, hallows, refuse]) _
      | false =>
        have hmore : (!ws.isEmpty || target.allowsEmpty) = true := by
          cases hws : ws.isEmpty <;> simp_all
        have hend : step ⟨schema, base, .list target (!ws.isEmpty) :: frames⟩ (base ++ p) .close =
            (⟨schema, base, noteElement frames⟩, .ok .close) := by
          simp [step, close, hmore]
        exact verdict_cons hend _

end Caster

/-! ## What a cast hands on -/

/-- The event of a value, with what stands at its place. -/
def EventKind.refill : EventKind → Value → EventKind
  | value _, w => .value w
  | listStart _, .list type _ => .listStart type
  | kind, _ => kind

theorem FieldsTarget.refill_start (target : FieldsTarget) (w : Value) :
    target.start.refill w = target.start := by
  cases target <;> rfl

namespace Caster

section
variable (base : Path) (result : Path → Value)

/-- The event at a place as a cast hands it on, with what stands there in the result. -/
def refilled (x : Event × Path) : Event × Option Path :=
  (x.1.withKind (x.1.kind.refill (result x.2)), some (base ++ x.2))

/-- The events of a value leave a caster that expects the value as they came, but for what stands at
their places in a result. -/
def Refills (schema : Schema) (stamp : Path → Option Path) (slot : TypeRef) (p : Path)
    (v : Value) : Prop :=
  ∀ frames : List CastFrame, Caster.slot ⟨schema, base, frames⟩ = .ok slot →
    ∀ later : List (Event × Path),
      passage ⟨schema, base, frames⟩ ((v.placed stamp p ++ later).map fun x ↦ (x.1, some x.2)) =
        (passage ⟨schema, base, noteElement frames⟩ (later.map fun x ↦ (x.1, some x.2))).behind
          ((v.placed stamp p).map (refilled base result))

end

variable {schema : Schema} {base p : Path} {frames : List CastFrame} {slot : TypeRef}
  {stamp : Path → Option Path} {result : Path → Value}

variable (result) in
theorem passage_refilled {frames' : List CastFrame} {kind : EventKind}
    (h : step ⟨schema, base, frames⟩ (base ++ p) kind =
      (⟨schema, base, frames'⟩, .ok (kind.refill (result p))))
    (later : List (Event × Path)) :
    passage ⟨schema, base, frames⟩
        ((((⟨kind, stamp p⟩ : Event), p) :: later).map fun x ↦ (x.1, some x.2)) =
      (passage ⟨schema, base, frames'⟩ (later.map fun x ↦ (x.1, some x.2))).behind
        [refilled base result (⟨kind, stamp p⟩, p)] :=
  passage_cons_ok h _

theorem passage_placedElements {target : ListType} {outer : List CastFrame} {noted : Bool} {i : Nat}
    (later : List (Event × Path)) {elements : List Value}
    (h : ∀ (j : Nat) (v : Value), elements[j]? = some v →
      Refills base result schema stamp target.element (p.index (i + j)) v) :
    passage ⟨schema, base, .list target noted :: outer⟩
        ((Value.placedElements stamp p i elements ++ later).map fun x ↦ (x.1, some x.2)) =
      (passage ⟨schema, base, .list target (noted || !elements.isEmpty) :: outer⟩
        (later.map fun x ↦ (x.1, some x.2))).behind
          ((Value.placedElements stamp p i elements).map (refilled base result)) := by
  induction elements generalizing noted i with
  | nil => simp [Passage.behind]
  | cons v elements ih =>
    have hv : Refills base result schema stamp target.element (p.index i) v := h 0 v rfl
    have helements := @ih true (i + 1) fun j u hu ↦ by
      have hu := h (j + 1) u (by simpa using hu)
      rwa [Nat.add_comm j 1, ← Nat.add_assoc] at hu
    rw [Value.placedElements_cons, List.append_assoc, hv _ rfl, noteElement, helements]
    simp

theorem passage_placedFields {fieldType : Option TypeRef} {typer : FieldTyper}
    {outer : List CastFrame} {slots : Identifier → TypeRef} (later : List (Event × Path))
    {fields : Fields}
    (types : ∀ f ∈ fields, typer f.1 (base ++ p.field f.1) = .ok (slots f.1))
    (h : ∀ f ∈ fields, Refills base result schema stamp (slots f.1) (p.field f.1) f.2) :
    passage ⟨schema, base, .map fieldType typer :: outer⟩
        ((Value.placedFields stamp p fields ++ ((⟨.close, stamp p⟩ : Event), p) :: later).map
          fun x ↦ (x.1, some x.2)) =
      (passage ⟨schema, base, noteElement outer⟩ (later.map fun x ↦ (x.1, some x.2))).behind
        ((Value.placedFields stamp p fields ++ [((⟨.close, stamp p⟩ : Event), p)]).map
          (refilled base result)) := by
  induction fields generalizing fieldType with
  | nil =>
    rw [Value.placedFields_nil, List.nil_append]
    have hclose : step ⟨schema, base, .map fieldType typer :: outer⟩ (base ++ p) .close =
        (⟨schema, base, noteElement outer⟩, .ok .close) := rfl
    exact passage_refilled result hclose later
  | cons f fields ih =>
    obtain ⟨name, v⟩ := f
    obtain ⟨htype, htypes⟩ := List.forall_mem_cons.1 types
    obtain ⟨hv, hfields⟩ := List.forall_mem_cons.1 h
    have hstart : step ⟨schema, base, .map fieldType typer :: outer⟩ (base ++ p.field name)
        (.fieldStart name) =
        (⟨schema, base, .map (some (slots name)) typer :: outer⟩, .ok (.fieldStart name)) := by
      simp [step, startField, htype]
    rw [Value.placedFields_cons, List.cons_append, List.append_assoc,
      passage_refilled result hstart, hv _ rfl, noteElement_map, ih htypes hfields]
    simp

/-- **A caster hands on the events of a value refilled**, if the parts of the value are cast to what
stands at their locations and keep their starts. -/
theorem passage_placed {v : Value} (h : PartsCast schema base result True slot p v) :
    Refills base result schema stamp slot p v := by
  induction h with
  | @scalar slot p s cast =>
    intro frames hslot later
    rw [Value.placed_scalar]
    exact passage_refilled result (by rw [step_value hslot, castValue, cast]; rfl) later
  | @list slot p given type target elements ws taken cast nonempty parts ih =>
    intro frames hslot later
    have hstart : step ⟨schema, base, frames⟩ (base ++ p) (.listStart given) =
        (⟨schema, base, .list target false :: frames⟩, .ok (.listStart type)) := by
      simp [step_listStart hslot, startList, taken, push]
    have hmore : (!elements.isEmpty || target.allowsEmpty) = true := by
      cases elements <;> simp_all
    have hend : step ⟨schema, base, .list target (!elements.isEmpty) :: frames⟩ (base ++ p) .close =
        (⟨schema, base, noteElement frames⟩, .ok .close) := by
      simp [step, close, hmore]
    have hinside := @passage_placedElements schema base p stamp result target frames false 0
      ((⟨.close, stamp p⟩, p) :: later) elements fun j v hv ↦ by
        rw [Nat.zero_add]
        exact ih j v hv
    rw [Bool.false_or, passage_refilled result hend] at hinside
    rw [Value.placed_list, List.cons_append, List.append_assoc,
      passage_refilled result (by rw [cast]; exact hstart), List.singleton_append, hinside]
    simp
  | @fields slot p v fs target typer hv taken typed tag slots types parts ih =>
    intro frames hslot later
    have hstart := step_start hslot (base ++ p) v.structType?
    rw [taken] at hstart
    simp only [typed] at hstart
    rw [← tag trivial, FieldsTarget.ofTag_type?] at hstart
    have hinside := @passage_placedFields schema base p stamp result none typer frames slots later
      fs types ih
    rw [Value.placed_of_fields hv, ← tag trivial, FieldsTarget.ofTag_type?, List.cons_append,
      List.append_assoc, passage_refilled result (by rw [target.refill_start]; exact hstart),
      List.singleton_append, hinside]
    simp

end Caster

end ValueStream
