import ValueStream.Grammar
import ValueStream.Value.Events
import ValueStream.Value.Fields

/-!
# The events of a value and the grammar

The events of a well-formed value are a stream of the grammar: the keys of its maps and structs are
distinct, and this is all that the grammar asks beyond starts and ends. Conversely a stream in which
only scalars come as a whole is that of a well-formed value, which can be read off the derivation.
-/

namespace ValueStream

namespace Value

/-! ## Values have streams -/

mutual

theorem isValueStream_events : ∀ {v : Value}, v.WellFormed →
    IsValueStream (v.events.map (·.kind))
  | .scalar s, _ => by simpa [events] using IsValueStream.value (.scalar s)
  | .map fields, h => by
    simp only [WellFormed] at h
    simpa [events] using IsValueStream.map (isFieldStream_fieldEvents h.1 h.2)
  | .list type elements, h => by
    simp only [WellFormed] at h
    simpa [events] using IsValueStream.list type (isElementStream_elementEvents h)
  | .struct type fields, h => by
    simp only [WellFormed] at h
    simpa [events] using IsValueStream.struct type (isFieldStream_fieldEvents h.1 h.2)

theorem isElementStream_elementEvents : ∀ {elements : List Value}, ElementsWellFormed elements →
    IsElementStream ((elementEvents elements).map (·.kind))
  | [], _ => by simpa [elementEvents] using IsElementStream.nil
  | v :: rest, h => by
    simp only [ElementsWellFormed] at h
    simpa [elementEvents] using
      IsElementStream.cons (isValueStream_events h.1) (isElementStream_elementEvents h.2)

theorem isFieldStream_fieldEvents : ∀ {fields : List (Identifier × Value)},
    (Fields.keys fields).Nodup → FieldsWellFormed fields →
      IsFieldStream (Fields.keys fields) ((fieldEvents fields).map (·.kind))
  | [], _, _ => by simpa [fieldEvents, Fields.keys] using IsFieldStream.nil
  | (name, v) :: rest, hkeys, h => by
    simp only [FieldsWellFormed] at h
    obtain ⟨hname, hrest⟩ := List.nodup_cons.1 hkeys
    simpa [fieldEvents, Fields.keys] using
      IsFieldStream.cons hname (isValueStream_events h.1) (isFieldStream_fieldEvents hrest h.2)

end

end Value

/-! ## Streams of scalars are those of values -/

/-- What comes as a whole is a scalar. -/
def EventKind.IsPlain : EventKind → Prop
  | value v => v.isScalar = true
  | _ => True

/-- The parts of a stream are plain if the stream is. -/
private theorem EventKind.isPlain_between {start : EventKind} {kinds : List EventKind}
    (h : ∀ kind ∈ start :: (kinds ++ [.close]), kind.IsPlain) : ∀ kind ∈ kinds, kind.IsPlain :=
  fun kind hkind ↦ h kind (by simp [hkind])

mutual

theorem IsValueStream.exists_value {kinds : List EventKind} : IsValueStream kinds →
    (∀ kind ∈ kinds, kind.IsPlain) → ∃ v : Value, v.WellFormed ∧ v.events.map (·.kind) = kinds
  | .value (.scalar s), _ => ⟨.scalar s, by simp [Value.WellFormed], by simp [Value.events]⟩
  | .value (.map _), h | .value (.list _ _), h | .value (.struct _ _), h => by
    cases h _ List.mem_cons_self
  | .list type hs, h => by
    obtain ⟨elements, hwell, rfl⟩ := hs.exists_elements (EventKind.isPlain_between h)
    exact ⟨.list type elements, by simpa [Value.WellFormed], by simp [Value.events]⟩
  | .map hs, h => by
    obtain ⟨fields, rfl, hkeys, hwell, rfl⟩ := hs.exists_fields (EventKind.isPlain_between h)
    exact ⟨.map fields, by simp [Value.WellFormed, *], by simp [Value.events]⟩
  | .struct type hs, h => by
    obtain ⟨fields, rfl, hkeys, hwell, rfl⟩ := hs.exists_fields (EventKind.isPlain_between h)
    exact ⟨.struct type fields, by simp [Value.WellFormed, *], by simp [Value.events]⟩

theorem IsElementStream.exists_elements {kinds : List EventKind} : IsElementStream kinds →
    (∀ kind ∈ kinds, kind.IsPlain) → ∃ elements, Value.ElementsWellFormed elements ∧
      (Value.elementEvents elements).map (·.kind) = kinds
  | .nil, _ => ⟨[], by simp [Value.ElementsWellFormed], by simp [Value.elementEvents]⟩
  | .cons hv hs, h => by
    obtain ⟨v, hvwell, rfl⟩ :=
      hv.exists_value fun kind hkind ↦ h kind (List.mem_append_left _ hkind)
    obtain ⟨rest, hwell, rfl⟩ :=
      hs.exists_elements fun kind hkind ↦ h kind (List.mem_append_right _ hkind)
    exact ⟨v :: rest, by simp [Value.ElementsWellFormed, *], by simp [Value.elementEvents]⟩

theorem IsFieldStream.exists_fields {names : List Identifier} {kinds : List EventKind} :
    IsFieldStream names kinds → (∀ kind ∈ kinds, kind.IsPlain) →
      ∃ fields, Fields.keys fields = names ∧ names.Nodup ∧ Value.FieldsWellFormed fields ∧
        (Value.fieldEvents fields).map (·.kind) = kinds
  | .nil, _ => ⟨[], rfl, .nil, by simp [Value.FieldsWellFormed], by simp [Value.fieldEvents]⟩
  | @IsFieldStream.cons name names first others fresh hv hs, h => by
    obtain ⟨v, hvwell, rfl⟩ := hv.exists_value fun kind hkind ↦ h kind (by simp [hkind])
    obtain ⟨rest, rfl, hkeys, hwell, rfl⟩ :=
      hs.exists_fields fun kind hkind ↦ h kind (by simp [hkind])
    exact ⟨(name, v) :: rest, rfl, List.nodup_cons.2 ⟨fresh, hkeys⟩,
      by simp [Value.FieldsWellFormed, *], by simp [Value.fieldEvents]⟩

end

end ValueStream
