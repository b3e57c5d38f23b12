import ValueStream.Nesting
import ValueStream.Value.Events

/-!
# Where the events of a value are handled

A stage that only follows the starts, fields and ends of a stream knows the path of each event while
it is handled. On the events of a value these paths are the locations of the parts of the value,
after the location at which the nesting expects it: `locate_placed`. The events may carry stamps, of
which the nesting knows nothing, and the nesting may itself lie inside a value at a start path.
-/

namespace ValueStream

namespace Value

theorem locatedFields_eq_flatMap (p : Path) (fields : List (Identifier × Value)) :
    locatedFields p fields = fields.flatMap fun f ↦
      (.fieldStart f.1, p.field f.1) :: f.2.locatedEvents (p.field f.1) := by
  induction fields with
  | nil => simp [locatedFields]
  | cons f rest ih => simp [locatedFields, ih]

variable (stamp : Path → Option Path)

/-- Events with their places, each stamped as its place says. -/
def stampAll (located : List (EventKind × Path)) : List (Event × Path) :=
  located.map fun (kind, p) ↦ (⟨kind, stamp p⟩, p)

/-- The events of a value at a path, with the locations of its parts. -/
def placed (p : Path) (v : Value) : List (Event × Path) := stampAll stamp (v.locatedEvents p)

/-- The events of the elements of a list at a path, from a position on. -/
def placedElements (p : Path) (position : Nat) (elements : List Value) : List (Event × Path) :=
  stampAll stamp (locatedElements p position elements)

/-- The events of the fields of a map or struct at a path. -/
def placedFields (p : Path) (fields : List (Identifier × Value)) : List (Event × Path) :=
  stampAll stamp (locatedFields p fields)

@[simp] theorem placed_scalar (p : Path) (s : Scalar) :
    (scalar s).placed stamp p = [(⟨.value (.scalar s), stamp p⟩, p)] := by
  simp [placed, locatedEvents, stampAll]

@[simp] theorem placed_map (p : Path) (fields : List (Identifier × Value)) :
    (map fields).placed stamp p =
      (⟨.mapStart, stamp p⟩, p) :: (placedFields stamp p fields ++ [(⟨.close, stamp p⟩, p)]) := by
  simp [placed, placedFields, locatedEvents, stampAll]

@[simp] theorem placed_list (p : Path) (type : ListType) (elements : List Value) :
    (list type elements).placed stamp p =
      (⟨.listStart type, stamp p⟩, p) ::
        (placedElements stamp p 0 elements ++ [(⟨.close, stamp p⟩, p)]) := by
  simp [placed, placedElements, locatedEvents, stampAll]

@[simp] theorem placed_struct (p : Path) (type : QualifiedName)
    (fields : List (Identifier × Value)) :
    (struct type fields).placed stamp p =
      (⟨.structStart type, stamp p⟩, p) ::
        (placedFields stamp p fields ++ [(⟨.close, stamp p⟩, p)]) := by
  simp [placed, placedFields, locatedEvents, stampAll]

@[simp] theorem placedElements_nil (p : Path) (position : Nat) :
    placedElements stamp p position [] = [] := by
  simp [placedElements, locatedElements, stampAll]

@[simp] theorem placedElements_cons (p : Path) (position : Nat) (v : Value) (rest : List Value) :
    placedElements stamp p position (v :: rest) =
      v.placed stamp (p.index position) ++ placedElements stamp p (position + 1) rest := by
  simp [placedElements, placed, locatedElements, stampAll]

@[simp] theorem placedFields_nil (p : Path) : placedFields stamp p [] = [] := by
  simp [placedFields, locatedFields, stampAll]

@[simp] theorem placedFields_cons (p : Path) (name : Identifier) (v : Value)
    (rest : List (Identifier × Value)) :
    placedFields stamp p ((name, v) :: rest) =
      (⟨.fieldStart name, stamp (p.field name)⟩, p.field name) ::
        (v.placed stamp (p.field name) ++ placedFields stamp p rest) := by
  simp [placedFields, placed, locatedFields, stampAll]

@[simp] theorem placedFields_append (p : Path) (fields more : List (Identifier × Value)) :
    placedFields stamp p (fields ++ more) =
      placedFields stamp p fields ++ placedFields stamp p more := by
  induction fields with
  | nil => simp
  | cons f fields ih =>
    obtain ⟨name, v⟩ := f
    simp [ih]

mutual

/-- Without stamps the events are those of the value. -/
theorem fst_placed (p : Path) : ∀ v : Value, (v.placed (fun _ ↦ none) p).map Prod.fst = v.events
  | scalar s => by simp [events]
  | map fields => by simp [events, fst_placedFields p fields]
  | list type elements => by simp [events, fst_placedElements p 0 elements]
  | struct type fields => by simp [events, fst_placedFields p fields]

theorem fst_placedElements (p : Path) (position : Nat) : ∀ elements : List Value,
    (placedElements (fun _ ↦ none) p position elements).map Prod.fst = elementEvents elements
  | [] => by simp [elementEvents]
  | v :: rest => by simp [elementEvents, fst_placed _ v, fst_placedElements p _ rest]

theorem fst_placedFields (p : Path) : ∀ fields : List (Identifier × Value),
    (placedFields (fun _ ↦ none) p fields).map Prod.fst = fieldEvents fields
  | [] => by simp [fieldEvents]
  | (name, v) :: rest => by simp [fieldEvents, fst_placed _ v, fst_placedFields p rest]

end

/-- The stamps change nothing of what the events say. -/
theorem kinds_placed (p : Path) (v : Value) :
    (v.placed stamp p).map (·.1.kind) = v.events.map (·.kind) := by
  rw [← fst_placed p v]
  simp [placed, stampAll]

end Value

namespace Nesting

/-- Events in a row, each with the path of the place where it is handled, after a start. -/
def locate (start : Path) (n : Nesting) : List Event → List (Event × Path)
  | [] => []
  | e :: rest =>
    (e, start ++ (n.enter e.kind).path) :: locate start ((n.enter e.kind).leave e.kind) rest

theorem fst_locate (start : Path) (n : Nesting) (es : List Event) :
    (n.locate start es).map Prod.fst = es := by
  induction es generalizing n with
  | nil => rfl
  | cons e es ih => rw [locate, List.map_cons, ih]

/-- A list in a nesting, before the element with a position. -/
def listAt (n : Nesting) : Nat → Nesting
  | 0 => .list none :: n
  | i + 1 => .list (some i) :: n

@[simp] theorem nextElement_listAt (n : Nesting) (i : Nat) :
    nextElement (listAt n i) = .list (some i) :: n := by
  cases i <;> rfl

theorem listAt_eq_cons (n : Nesting) (i : Nat) : ∃ f, listAt n i = f :: n := by
  cases i <;> exact ⟨_, rfl⟩

/-- The path of the value that the nesting expects next. -/
def nextPath (start : Path) (n : Nesting) : Path := start ++ (nextElement n).path

@[simp] theorem nextPath_listAt (start : Path) (n : Nesting) (i : Nat) :
    nextPath start (listAt n i) = (start ++ n.path).index i := by
  rw [nextPath, nextElement_listAt, path_list_some]
  exact Path.append_push start n.path _

@[simp] theorem nextPath_field (start : Path) (n : Nesting) (name : Identifier) :
    nextPath start (.field name :: n) = (start ++ n.path).field name := by
  rw [nextPath, nextElement, path_field]
  · exact Path.append_push start n.path _
  · simp
  · simp

variable {stamp : Path → Option Path} (start : Path)

/-! ## One event -/

section
variable (n : Nesting) (stamped : Option Path) (es : List Event)

theorem locate_value (v : Value) :
    locate start n (⟨.value v, stamped⟩ :: es) =
      (⟨.value v, stamped⟩, nextPath start n) ::
        locate start (closeField (nextElement n)) es := by
  simp [locate, enter, leave, EventKind.completesValue, nextPath]

theorem locate_listStart (type : ListType) :
    locate start n (⟨.listStart type, stamped⟩ :: es) =
      (⟨.listStart type, stamped⟩, nextPath start n) ::
        locate start (listAt (nextElement n) 0) es := by
  simp [locate, enter, leave, EventKind.completesValue, nextPath, listAt]

theorem locate_mapStart :
    locate start n (⟨.mapStart, stamped⟩ :: es) =
      (⟨.mapStart, stamped⟩, nextPath start n) ::
        locate start (.map none [] :: nextElement n) es := by
  simp [locate, enter, leave, EventKind.completesValue, nextPath]

theorem locate_structStart (type : QualifiedName) :
    locate start n (⟨.structStart type, stamped⟩ :: es) =
      (⟨.structStart type, stamped⟩, nextPath start n) ::
        locate start (.map none [] :: nextElement n) es := by
  simp [locate, enter, leave, EventKind.completesValue, nextPath]

theorem locate_fieldStart (name : Identifier) :
    locate start n (⟨.fieldStart name, stamped⟩ :: es) =
      (⟨.fieldStart name, stamped⟩, (start ++ n.path).field name) ::
        locate start (.field name :: n) es := by
  simp [locate, enter, leave, EventKind.completesValue, Path.field, Path.append_push]

/-- The end of a map, struct or list is at the place of its start. -/
theorem locate_close (f : Frame) :
    locate start (f :: n) (⟨.close, stamped⟩ :: es) =
      (⟨.close, stamped⟩, start ++ n.path) :: locate start (closeField n) es := by
  simp [locate, enter, leave, EventKind.completesValue]

end

/-! ## The events of a value -/

mutual

/-- **The places of the events of a value are the locations of its parts**, and after them the field
that the value belongs to is closed. -/
theorem locate_placed (n : Nesting) (es : List Event) : ∀ v : Value,
    locate start n ((v.placed stamp (nextPath start n)).map Prod.fst ++ es) =
      v.placed stamp (nextPath start n) ++ locate start (closeField (nextElement n)) es
  | .scalar s => by simp [locate_value]
  | .map fields => by
    have hfields := locate_placedFields (nextElement n)
      (⟨.close, stamp (nextPath start n)⟩ :: es) fields
    rw [locate_close, ← nextPath] at hfields
    simp [locate_mapStart, hfields]
  | .list type elements => by
    have helements := locate_placedElements (nextElement n) 0
      (⟨.close, stamp (nextPath start n)⟩ :: es) elements
    obtain ⟨f, hf⟩ := listAt_eq_cons (nextElement n) (0 + elements.length)
    rw [hf, locate_close, ← nextPath] at helements
    simp [locate_listStart, helements]
  | .struct type fields => by
    have hfields := locate_placedFields (nextElement n)
      (⟨.close, stamp (nextPath start n)⟩ :: es) fields
    rw [locate_close, ← nextPath] at hfields
    simp [locate_structStart, hfields]

theorem locate_placedElements (n : Nesting) (i : Nat) (es : List Event) :
    ∀ elements : List Value,
      locate start (listAt n i)
          ((Value.placedElements stamp (start ++ n.path) i elements).map Prod.fst ++ es) =
        Value.placedElements stamp (start ++ n.path) i elements ++
          locate start (listAt n (i + elements.length)) es
  | [] => by simp
  | v :: rest => by
    have hv := locate_placed (listAt n i)
      ((Value.placedElements stamp (start ++ n.path) (i + 1) rest).map Prod.fst ++ es) v
    have hrest := locate_placedElements n (i + 1) es rest
    rw [nextPath_listAt, nextElement_listAt] at hv
    -- After the element with a position the list is before the one with the next position.
    change _ = _ ++ locate start (listAt n (i + 1)) _ at hv
    rw [hrest] at hv
    simpa [Nat.add_comm, Nat.add_left_comm] using hv

theorem locate_placedFields (n : Nesting) (es : List Event) :
    ∀ fields : List (Identifier × Value),
      locate start (.map none [] :: n)
          ((Value.placedFields stamp (start ++ n.path) fields).map Prod.fst ++ es) =
        Value.placedFields stamp (start ++ n.path) fields ++
          locate start (.map none [] :: n) es
  | [] => by simp
  | (name, v) :: rest => by
    have hv := locate_placed (.field name :: .map none [] :: n)
      ((Value.placedFields stamp (start ++ n.path) rest).map Prod.fst ++ es) v
    have hrest := locate_placedFields n es rest
    rw [nextPath_field, path_map] at hv
    simp only [nextElement, closeField, hrest] at hv
    simp [locate_fieldStart, hv]

end

end Nesting

end ValueStream
