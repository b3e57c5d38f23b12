import ValueStream.Cast.Caster

/-!
# The types of fields in a cast

A cast asks the schema for the types of the fields of a struct when the struct starts, and keeps
them in the frame of the struct; the fields of a map may be anything. So what all types of fields
that the schema answers with have in common, those in the frames have in common at any time
(`step_types`).
-/

namespace ValueStream

/-- The types of the fields of an open map or struct have the property. -/
def CastFrame.Types (P : FieldTyper → Prop) : CastFrame → Prop
  | .map _ typer => P typer
  | _ => True

namespace Caster

variable {P : FieldTyper → Prop}

/-- The types of fields that a caster comes by have the property. -/
structure Types (P : FieldTyper → Prop) (c : Caster) : Prop where
  /-- Those of the fields of maps. -/
  anyValue : P .anyValue
  /-- Those that the schema answers with. -/
  schema : ∀ type place typer, c.schema.typer type place = .ok (some typer) → P typer
  /-- Those in the frames. -/
  frames : ∀ frame ∈ c.frames, frame.Types P

theorem Types.new {schema : Schema} (hany : P .anyValue)
    (hschema : ∀ type place typer, schema.typer type place = .ok (some typer) → P typer)
    (type : TypeRef) (start : Path) : (new type schema start).Types P :=
  ⟨hany, hschema, List.forall_mem_cons.2 ⟨trivial, List.forall_mem_nil _⟩⟩

/-- The caster goes on from another one: it has the same schema and start, and the types of fields
that it comes by have the property. -/
structure GoesOn (P : FieldTyper → Prop) (c c' : Caster) : Prop where
  /-- The schema. -/
  schema : c'.schema = c.schema
  /-- The start. -/
  start : c'.start = c.start
  /-- The types of fields. -/
  types : c'.Types P

theorem GoesOn.trans {c c' c'' : Caster} (h : c.GoesOn P c') (h' : c'.GoesOn P c'') :
    c.GoesOn P c'' :=
  ⟨h'.schema.trans h.schema, h'.start.trans h.start, h'.types⟩

variable {c : Caster} (h : c.Types P)

include h

theorem Types.goesOn : c.GoesOn P c := ⟨rfl, rfl, h⟩

theorem Types.frames_goesOn {frames : List CastFrame} (hframes : ∀ frame ∈ frames, frame.Types P) :
    c.GoesOn P { c with frames := frames } :=
  ⟨rfl, rfl, h.anyValue, h.schema, hframes⟩

theorem Types.push_goesOn {frame : CastFrame} (hframe : frame.Types P) :
    c.GoesOn P (c.push frame) :=
  h.frames_goesOn (List.forall_mem_cons.2 ⟨hframe, h.frames⟩)

omit h in
theorem types_noteElement {frames : List CastFrame} (hframes : ∀ frame ∈ frames, frame.Types P) :
    ∀ frame ∈ noteElement frames, frame.Types P := by
  fun_cases noteElement frames with
  | case1 type _ rest => exact List.forall_mem_cons.2 ⟨trivial, (List.forall_mem_cons.1 hframes).2⟩
  | case2 => exact hframes

theorem castValue_goesOn (place : Path) (slot : TypeRef) (v : Value) :
    c.GoesOn P (c.castValue place slot v).1 := by
  rw [castValue]
  dsimp only
  split <;> exact h.frames_goesOn (types_noteElement h.frames)

theorem startList_goesOn (place : Path) (slot : TypeRef) (type : ListType) :
    c.GoesOn P (c.startList place slot type).1 := by
  rw [startList]
  split
  · next result target _ =>
      exact h.push_goesOn (show (CastFrame.list target false).Types P from trivial)
  · exact h.goesOn

theorem startStruct_goesOn (place : Path) (slot : TypeRef) (type : QualifiedName) :
    c.GoesOn P (c.startStruct place slot type).1 := by
  rw [startStruct]
  split
  · exact h.goesOn
  · split
    · exact h.goesOn
    · next typer htyper =>
      have htypes : (CastFrame.map none (typer.getD .anyValue)).Types P := by
        cases typer with
        | none => exact h.anyValue
        | some typer => exact h.schema type place typer htyper
      exact h.push_goesOn htypes

theorem startMap_goesOn (place : Path) (slot : TypeRef) :
    c.GoesOn P (c.startMap place slot).1 := by
  rw [startMap]
  split
  · exact h.push_goesOn (show (CastFrame.map none .anyValue).Types P from h.anyValue)
  · split
    · exact startStruct_goesOn h place slot _
    · exact h.goesOn

theorem startField_goesOn (place : Path) (name : Identifier) :
    c.GoesOn P (c.startField place name).1 := by
  rw [startField]
  split
  · next fieldType typer rest hframes =>
    have hall := h.frames
    rw [hframes, List.forall_mem_cons] at hall
    split
    · next type _ =>
      have hframe : (CastFrame.map (some type) typer).Types P := hall.1
      exact h.frames_goesOn (List.forall_mem_cons.2 ⟨hframe, hall.2⟩)
    · exact h.goesOn
  · exact h.goesOn

theorem close_goesOn (place : Path) : c.GoesOn P (c.close place).1 := by
  rw [close]
  split
  · exact h.goesOn
  · next frame rest hframes =>
    have hall := h.frames
    rw [hframes, List.forall_mem_cons] at hall
    have hrest := h.frames_goesOn (types_noteElement hall.2)
    dsimp only
    split
    · exact hrest
    · split <;> exact hrest
    · exact hrest

theorem intoSlot_goesOn {take : TypeRef → Outcome} (htake : ∀ slot, c.GoesOn P (take slot).1) :
    c.GoesOn P (c.intoSlot take).1 := by
  rw [intoSlot]
  split
  · exact htake _
  · exact h.goesOn

/-- **Whatever comes, a caster goes on** with its schema and its start, and with the types of fields
that the schema answers with. -/
theorem step_goesOn (place : Path) (kind : EventKind) : c.GoesOn P (c.step place kind).1 := by
  cases kind with
  | value v => exact intoSlot_goesOn h fun slot ↦ castValue_goesOn h place slot v
  | listStart type => exact intoSlot_goesOn h fun slot ↦ startList_goesOn h place slot type
  | mapStart => exact intoSlot_goesOn h fun slot ↦ startMap_goesOn h place slot
  | structStart type => exact intoSlot_goesOn h fun slot ↦ startStruct_goesOn h place slot type
  | fieldStart name => exact startField_goesOn h place name
  | close => exact close_goesOn h place

end Caster

end ValueStream
