import ValueStream.Event

/-!
# The events of a value

A value is streamed depth first: a scalar is one event, a list is its start, its elements and an
end, and a map or struct is its start, its fields in order, each announced by its name, and an end.
`Value.locatedEvents` pairs every event with the location of the part it belongs to, where the
event that announces a field is located at the field already.
-/

namespace ValueStream

namespace Value

mutual

/-- The events of a value. -/
def events : Value → List Event
  | .scalar s => [⟨.value (.scalar s), none⟩]
  | .map fields => ⟨.mapStart, none⟩ :: (fieldEvents fields ++ [⟨.close, none⟩])
  | .list type elements => ⟨.listStart type, none⟩ :: (elementEvents elements ++ [⟨.close, none⟩])
  | .struct type fields => ⟨.structStart type, none⟩ :: (fieldEvents fields ++ [⟨.close, none⟩])

/-- The events of the elements of a list. -/
def elementEvents : List Value → List Event
  | [] => []
  | v :: rest => v.events ++ elementEvents rest

/-- The events of fields. -/
def fieldEvents : List (Identifier × Value) → List Event
  | [] => []
  | (name, v) :: rest => ⟨.fieldStart name, none⟩ :: (v.events ++ fieldEvents rest)

end

theorem elementEvents_eq_flatMap (elements : List Value) :
    elementEvents elements = elements.flatMap events := by
  induction elements with
  | nil => simp [elementEvents]
  | cons v rest ih => simp [elementEvents, ih]

theorem fieldEvents_eq_flatMap (fields : List (Identifier × Value)) :
    fieldEvents fields = fields.flatMap fun f ↦ ⟨.fieldStart f.1, none⟩ :: f.2.events := by
  induction fields with
  | nil => simp [fieldEvents]
  | cons f rest ih => simp [fieldEvents, ih]

mutual

/-- The events of a value at a path, each with the location of its part. -/
def locatedEvents (p : Path) : Value → List (EventKind × Path)
  | .scalar s => [(.value (.scalar s), p)]
  | .map fields => (.mapStart, p) :: (locatedFields p fields ++ [(.close, p)])
  | .list type elements => (.listStart type, p) :: (locatedElements p 0 elements ++ [(.close, p)])
  | .struct type fields => (.structStart type, p) :: (locatedFields p fields ++ [(.close, p)])

/-- The events of the elements of a list at a path, from a position on. -/
def locatedElements (p : Path) (position : Nat) : List Value → List (EventKind × Path)
  | [] => []
  | v :: rest => v.locatedEvents (p.index position) ++ locatedElements p (position + 1) rest

/-- The events of the fields of a map or struct at a path. -/
def locatedFields (p : Path) : List (Identifier × Value) → List (EventKind × Path)
  | [] => []
  | (name, v) :: rest =>
    (.fieldStart name, p.field name) :: (v.locatedEvents (p.field name) ++ locatedFields p rest)

end

end Value

end ValueStream
