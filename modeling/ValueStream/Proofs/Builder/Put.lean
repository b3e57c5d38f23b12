import ValueStream.Builder

/-!
# Where a builder puts values

A value goes into what is innermost: to the end of a list, to the field of a map or struct that
awaits one, and if nothing is open it is the value that is built. A builder is ready for a value if
there is such a place; then `Builder.plus` is the builder with the value put there, which an end
does for the part that it closes as well.
-/

namespace ValueStream

/-- The value that a part is, unless it awaits the value of a field. -/
def Part.whole? : Part → Option Value
  | .fields (some type) held none => some (.struct type held)
  | .fields none held none => some (.map held)
  | .fields _ _ (some _) => none
  | .elements type held => some (.list type held)

theorem Fields.insert_of_notMem {fields : Fields} {key : Identifier} (h : key ∉ fields.keys)
    (v : Value) : fields.insert key v = .ok (fields ++ [(key, v)]) :=
  insert_eq_ok_iff.2 ⟨h, rfl⟩

namespace Builder

/-! ## Where a value can be put -/

/-- Whether a value can be put in its place. -/
def Ready (b : Builder) : Prop :=
  match b.parts with
  | [] => b.built = none
  | .elements _ _ :: _ => True
  | .fields _ _ none :: _ => False
  | .fields _ fields (some name) :: _ => name ∉ Fields.keys fields

/-- The builder with a value put in its place. -/
def plus (b : Builder) (v : Value) : Builder := (b.put .root v).1

theorem put_of_ready {b : Builder} (h : b.Ready) (place : Path) (v : Value) :
    b.put place v = (b.plus v, none) := by
  rw [plus]
  rcases hparts : b.parts with _ | ⟨⟨type, fields, _ | name⟩ | ⟨type, elements⟩, rest⟩
  · have hbuilt : b.built = none := by simpa [Ready, hparts] using h
    simp [put, hparts, isDone, hbuilt]
  · simp [Ready, hparts] at h
  · have hname : name ∉ Fields.keys fields := by simpa [Ready, hparts] using h
    simp [put, hparts, Fields.insert_of_notMem hname]
  · simp [put, hparts]

theorem plus_elements {b : Builder} {type : ListType} {elements : List Value} {rest : List Part}
    (h : b.parts = .elements type elements :: rest) (v : Value) :
    b.plus v = { b with parts := .elements type (elements ++ [v]) :: rest } := by
  simp [plus, put, h]

theorem plus_fields {b : Builder} {type : Option QualifiedName} {fields : Fields}
    {name : Identifier} {rest : List Part} (h : b.parts = .fields type fields (some name) :: rest)
    (hname : name ∉ Fields.keys fields) (v : Value) :
    b.plus v = { b with parts := .fields type (fields ++ [(name, v)]) none :: rest } := by
  simp [plus, put, h, Fields.insert_of_notMem hname]

/-! ## One event -/

section
variable {b : Builder} (stamped : Option Path)

theorem accept_value (h : b.Ready) (v : Value) :
    b.accept ⟨.value v, stamped⟩ = (b.plus v, none) :=
  put_of_ready h _ v

theorem accept_fieldStart {type : Option QualifiedName} {fields : Fields} {rest : List Part}
    (h : b.parts = .fields type fields none :: rest) (name : Identifier) :
    b.accept ⟨.fieldStart name, stamped⟩ =
      ({ b with parts := .fields type fields (some name) :: rest }, none) := by
  simp [accept, startField, h]

/-- What ends is put in the place where it started. -/
theorem accept_close (h : b.Ready) {part : Part} {v : Value} (hpart : part.whole? = some v) :
    Builder.accept { b with parts := part :: b.parts } ⟨.close, stamped⟩ = (b.plus v, none) := by
  have hclose : Builder.accept { b with parts := part :: b.parts } ⟨.close, stamped⟩ =
      b.put (Event.place ⟨.close, stamped⟩) v := by
    rcases part with ⟨_ | type, fields, _ | pending⟩ | ⟨type, elements⟩ <;> cases hpart <;> rfl
  rw [hclose, put_of_ready h]

theorem run_cons {b' : Builder} {e : Event} (h : b.accept e = (b', none)) (more : List Event) :
    b.run (e :: more) = b'.run more := by
  rw [run, h]

end

end Builder

end ValueStream
