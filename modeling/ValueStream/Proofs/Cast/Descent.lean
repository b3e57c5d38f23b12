import ValueStream.Cast.Whole
import ValueStream.Proofs.Builder.Put
import ValueStream.Proofs.Cast.Slot
import ValueStream.Proofs.Checker.Passage

/-!
# Casting a stream is casting by descent

A caster that feeds a builder is one machine, with the frames of the one and the parts of the other
on its stack. Where the caster expects a value of a type and the builder has a place for one, the
events of a value take the machine past that value: it goes on with the cast value in its place, or
it ends in the error of the cast by descent (`castInto_placed`, by recursion on the value). The
paths in errors are those reported by the checker ahead, which on a well-formed value are the
locations of its parts, and so the whole cast is the cast by descent.

An error ends the run for good, wherever the recursion stands. So each statement is about the run to
its very end, with the events to come as a parameter, and `goOn` says how it goes on with a result.
-/

namespace ValueStream

/-! ## Going on with a result -/

/-- What a run comes to that goes on with a result, unless there is an error. -/
def goOn {α γ : Type} (r : Except StreamError α) (next : α → Except Fault γ) : Except Fault γ :=
  match r with
  | .ok a => next a
  | .error e => .error (.error e)

section
variable {α β γ : Type}

@[simp] theorem goOn_ok (a : α) (next : α → Except Fault γ) : goOn (.ok a) next = next a := rfl

@[simp] theorem goOn_bind (r : Except StreamError α) (f : α → Except StreamError β)
    (next : β → Except Fault γ) : goOn (r >>= f) next = goOn r fun a ↦ goOn (f a) next := by
  cases r <;> rfl

@[simp] theorem goOn_map (r : Except StreamError α) (f : α → β) (next : β → Except Fault γ) :
    goOn (f <$> r) next = goOn r fun a ↦ next (f a) := by
  cases r <;> rfl

@[simp] theorem goOn_pure (a : α) (next : α → Except Fault γ) : goOn (pure a) next = next a :=
  rfl

end

/-! ## One event -/

/-- The type of the struct that is the target, if it is one. -/
def FieldsTarget.type? : FieldsTarget → Option QualifiedName
  | map => none
  | struct type => some type

theorem FieldsTarget.accept_start (target : FieldsTarget) (b : Builder) (stamped : Option Path) :
    b.accept ⟨target.start, stamped⟩ =
      ({ b with parts := .fields target.type? [] none :: b.parts }, none) := by
  cases target <;> rfl

theorem FieldsTarget.whole?_part (target : FieldsTarget) (fields : Fields) :
    (Part.fields target.type? fields none).whole? = some (target.ofFields fields) := by
  cases target <;> rfl

theorem Caster.step_value {c : Caster} {slot : TypeRef} (h : c.slot = .ok slot) (place : Path)
    (v : Value) : c.step place (.value v) = c.castValue place slot v := by
  simp [step, intoSlot, h]

theorem Caster.step_listStart {c : Caster} {slot : TypeRef} (h : c.slot = .ok slot) (place : Path)
    (type : ListType) : c.step place (.listStart type) = c.startList place slot type := by
  simp [step, intoSlot, h]

theorem Caster.step_mapStart {c : Caster} {slot : TypeRef} (h : c.slot = .ok slot)
    (place : Path) : c.step place .mapStart = c.startMap place slot := by
  simp [step, intoSlot, h]

theorem Caster.step_structStart {c : Caster} {slot : TypeRef} (h : c.slot = .ok slot)
    (place : Path) (type : QualifiedName) :
    c.step place (.structStart type) = c.startStruct place slot type := by
  simp [step, intoSlot, h]

/-- What a caster that feeds a builder comes to. -/
def castInto (id : String) (c : Caster) (b : Builder) (inputs : List (Event × Path)) :
    Except Fault Value :=
  (sendRow [.cast c, .observer (.builder id b)] (inputs.map fun x ↦ (x.1, some x.2))).built

section
variable {id : String} {c c' : Caster} {b b' : Builder} {e : Event} {p : Path}

theorem castInto_cons {kind : EventKind} (hc : c.step (c.start ++ p) e.kind = (c', .ok kind))
    (hb : b.accept (e.withKind kind) = (b', none)) (later : List (Event × Path)) :
    castInto id c b ((e, p) :: later) = castInto id c' b' later := by
  have hstep : Element.castStep c (some p) e =
      .forward (e.withKind kind) (some (c.start ++ p)) c' c' := by
    simp [Element.castStep, hc]
  have hdispatch : dispatch 2 [.cast c, .observer (.builder id b)] (some p) e =
      { elements := [.cast c', .observer (.builder id b')] } := by
    simp [dispatch, Element.step, hstep, Element.observerStep, Observer.accept, hb, Step.forward,
      Step.map, Delivery.map, handOn, Run.after]
  rw [castInto, List.map_cons, sendRow]
  simp [hdispatch, Run.after, castInto]

theorem castInto_refused {fault : Fault}
    (hc : (c.step (c.start ++ p) e.kind).2 = .error fault) (later : List (Event × Path)) :
    castInto id c b ((e, p) :: later) = .error fault := by
  obtain ⟨c', hc⟩ : ∃ c', c.step (c.start ++ p) e.kind = (c', .error fault) := ⟨_, Prod.ext rfl hc⟩
  have hstep : Element.castStep c (some p) e = .stop (some fault) c' := by
    simp [Element.castStep, hc]
  have hdispatch : dispatch 2 [.cast c, .observer (.builder id b)] (some p) e =
      { elements := [.cast c', .observer (.builder id b)], fault := some fault } := by
    simp [dispatch, Element.step, hstep, Step.stop, Step.map, handOn, Run.after]
  rw [castInto, List.map_cons, sendRow]
  simp [hdispatch, Run.built]

/-- A struct starts with the schema's types of its fields, if the schema has an answer. -/
theorem castInto_startStruct {slot : TypeRef} {type : QualifiedName} {target : FieldsTarget}
    (hc : c.step (c.start ++ p) e.kind = c.startStruct (c.start ++ p) slot type)
    (htarget : slot.structTarget type = some target) (later : List (Event × Path)) :
    castInto id c b ((e, p) :: later) =
      goOn (c.schema.typer type (c.start ++ p)) fun typer ↦
        castInto id (c.push (.map none (typer.getD .anyValue)))
          { b with parts := .fields target.type? [] none :: b.parts } later := by
  cases htyper : c.schema.typer type (c.start ++ p) with
  | error error =>
    exact castInto_refused (by rw [hc]; simp [Caster.startStruct, htarget, htyper, Caster.refuse]) _
  | ok typer =>
    exact castInto_cons (by rw [hc]; simp [Caster.startStruct, htarget, htyper])
      (target.accept_start b e.path) _

/-- A list ends and is put in its place, unless it has no elements and must have some. -/
theorem castInto_endList (hb : b.Ready) (result target : ListType) (ws : List Value)
    (stamped : Option Path) (later : List (Event × Path)) :
    castInto id { c with frames := .list target (!ws.isEmpty) :: c.frames }
        { b with parts := .elements result ws :: b.parts } ((⟨.close, stamped⟩, p) :: later) =
      goOn (if ws.isEmpty && !target.allowsEmpty then .error (.value (c.start ++ p) .emptyList)
        else .ok (.list result ws)) fun w ↦
          castInto id { c with frames := Caster.noteElement c.frames } (b.plus w) later := by
  have hwhole : (Part.elements result ws).whole? = some (.list result ws) := rfl
  cases hempty : ws.isEmpty && !target.allowsEmpty with
  | true =>
    obtain ⟨hws, hallows⟩ : ws.isEmpty = true ∧ target.allowsEmpty = false := by
      simpa using hempty
    exact castInto_refused (by simp [Caster.step, Caster.close, hws, hallows, Caster.refuse]) _
  | false =>
    have hmore : (!ws.isEmpty || target.allowsEmpty) = true := by
      cases hws : ws.isEmpty <;> simp_all
    have hclose : Caster.step { c with frames := .list target (!ws.isEmpty) :: c.frames }
        (c.start ++ p) .close =
        ({ c with frames := Caster.noteElement c.frames }, .ok .close) := by
      simp [Caster.step, Caster.close, hmore]
    exact castInto_cons hclose (b.accept_close _ hb hwhole) _

end

/-! ## The events of a value -/

variable {id : String} {stamp : Path → Option Path}

mutual

/-- **Where a value of a type is expected, the events of a value come to its cast**: the cast value
is put in its place, or the first error ends the run. -/
theorem castInto_placed {c : Caster} {b : Builder} {slot : TypeRef} (hslot : c.slot = .ok slot)
    (hb : b.Ready) (p : Path) (later : List (Event × Path)) : ∀ v : Value, v.WellFormed →
      castInto id c b (v.placed stamp p ++ later) =
        goOn (v.castAt c.schema slot (c.start ++ p)) fun w ↦
          castInto id { c with frames := Caster.noteElement c.frames } (b.plus w) later
  | .scalar s, _ => by
    rw [Value.placed_scalar, Value.castAt, List.singleton_append]
    cases hw : Cast.scalar c.schema (.scalar s) slot (c.start ++ p) slot with
    | error error =>
      exact castInto_refused (by simp [c.step_value hslot, Caster.castValue, hw, Caster.refuse]) _
    | ok w =>
      exact castInto_cons (by simp [c.step_value hslot, Caster.castValue, hw])
        (b.accept_value _ hb w) _
  | .list type elements, h => by
    simp only [Value.WellFormed] at h
    rw [Value.placed_list, Value.castAt, List.cons_append, List.append_assoc]
    cases ht : slot.listTarget type with
    | none =>
      exact castInto_refused
        (by simp [c.step_listStart hslot, Caster.startList, ht, Caster.refuse]) _
    | some t =>
      -- The list is built with one type and its elements are cast by another.
      obtain ⟨result, target⟩ := t
      have hstart : c.step (c.start ++ p) (.listStart type) =
          (c.push (.list target false), .ok (.listStart result)) := by
        simp [c.step_listStart hslot, Caster.startList, ht]
      rw [castInto_cons hstart rfl, castInto_placedElements rfl rfl p 0 _ elements h]
      simp only [goOn_bind]
      refine congrArg (goOn _) (funext fun ws ↦ ?_)
      have hend := @castInto_endList id c b p hb result target ws (stamp p) later
      rw [← Bool.false_or (!ws.isEmpty)] at hend
      refine hend.trans ?_
      cases ws.isEmpty && !target.allowsEmpty <;> rfl
  | .map fields, h => by
    simp only [Value.WellFormed] at h
    rw [Value.placed_map, Value.castAt, List.cons_append, List.append_assoc]
    cases hmaps : slot.takesMaps with
    | true =>
      have hstart : c.step (c.start ++ p) .mapStart =
          (c.push (.map none .anyValue), .ok .mapStart) := by
        simp [c.step_mapStart hslot, Caster.startMap, hmaps]
      rw [castInto_cons hstart rfl]
      simp only [goOn_map, if_true]
      exact castInto_placedFields hb .map none .anyValue [] p later fields h.1 h.2
    | false =>
      cases hinferred : slot.inferredStruct c.schema with
      | none =>
        exact castInto_refused
          (by simp [c.step_mapStart hslot, Caster.startMap, hmaps, hinferred, Caster.refuse]) _
      | some type =>
        have hstart : c.step (c.start ++ p) .mapStart =
            c.startStruct (c.start ++ p) slot type := by
          simp [c.step_mapStart hslot, Caster.startMap, hmaps, hinferred]
        rw [castInto_startStruct hstart (TypeRef.structTarget_of_inferred hinferred)]
        simp only [goOn_bind, goOn_map, Bool.false_eq_true, if_false]
        refine congrArg (goOn _) (funext fun typer ↦ ?_)
        exact castInto_placedFields hb (.struct type) none _ [] p later fields h.1 h.2
  | .struct type fields, h => by
    simp only [Value.WellFormed] at h
    rw [Value.placed_struct, Value.castAt, List.cons_append, List.append_assoc]
    cases htarget : slot.structTarget type with
    | none =>
      exact castInto_refused
        (by simp [c.step_structStart hslot, Caster.startStruct, htarget, Caster.refuse]) _
    | some target =>
      rw [castInto_startStruct (c.step_structStart hslot _ type) htarget]
      simp only [goOn_bind, goOn_map]
      refine congrArg (goOn _) (funext fun typer ↦ ?_)
      exact castInto_placedFields hb target none _ [] p later fields h.1 h.2
termination_by structural v => v

theorem castInto_placedElements {c : Caster} {b : Builder} {result target : ListType}
    {noted : Bool} {outer : List CastFrame} {past : List Value} {rest : List Part}
    (hc : c.frames = .list target noted :: outer) (hb : b.parts = .elements result past :: rest)
    (p : Path) (i : Nat) (later : List (Event × Path)) : ∀ elements : List Value,
      Value.ElementsWellFormed elements →
        castInto id c b (Value.placedElements stamp p i elements ++ later) =
          goOn (Value.castElements c.schema target.element (c.start ++ p) i elements) fun ws ↦
            castInto id { c with frames := .list target (noted || !ws.isEmpty) :: outer }
              { b with parts := .elements result (past ++ ws) :: rest } later
  | [], _ => by simp [Value.castElements, ← hc, ← hb]
  | v :: elements, h => by
    simp only [Value.ElementsWellFormed] at h
    have hslot : c.slot = .ok target.element := by simp [Caster.slot, hc]
    have hready : b.Ready := by simp [Builder.Ready, hb]
    rw [Value.placedElements_cons, List.append_assoc, castInto_placed hslot hready _ _ v h.1,
      Value.castElements]
    simp only [goOn_bind, goOn_pure, hc, Caster.noteElement]
    have hplace : c.start ++ p.index i = (c.start ++ p).index i := Path.append_push ..
    rw [hplace]
    refine congrArg (goOn _) (funext fun w ↦ ?_)
    rw [b.plus_elements hb, castInto_placedElements rfl rfl p (i + 1) later elements h.2]
    simp
termination_by structural elements => elements

theorem castInto_placedFields {c : Caster} {b : Builder} (hb : b.Ready) (target : FieldsTarget)
    (fieldType : Option TypeRef) (typer : FieldTyper) (past : Fields) (p : Path)
    (later : List (Event × Path)) : ∀ fields : List (Identifier × Value),
      (Fields.keys past ++ Fields.keys fields).Nodup → Value.FieldsWellFormed fields →
        castInto id { c with frames := .map fieldType typer :: c.frames }
            { b with parts := .fields target.type? past none :: b.parts }
            (Value.placedFields stamp p fields ++ (⟨.close, stamp p⟩, p) :: later) =
          goOn (Value.castFields c.schema typer (c.start ++ p) fields) fun ws ↦
            castInto id { c with frames := Caster.noteElement c.frames }
              (b.plus (target.ofFields (past ++ ws))) later
  | [], _, _ => by
    have hclose : Caster.step { c with frames := .map fieldType typer :: c.frames } (c.start ++ p)
        .close = ({ c with frames := Caster.noteElement c.frames }, .ok .close) := rfl
    simpa [Value.castFields] using
      castInto_cons hclose (b.accept_close _ hb (target.whole?_part past)) later
  | (name, v) :: fields, hkeys, h => by
    simp only [Value.FieldsWellFormed] at h
    have hplace : c.start ++ p.field name = (c.start ++ p).field name := Path.append_push ..
    -- Keys are distinct, so that the builder takes the field.
    have hname : name ∉ Fields.keys past := fun hmem ↦
      (List.nodup_append.1 hkeys).2.2 name hmem name List.mem_cons_self rfl
    rw [Value.placedFields_cons, Value.castFields, List.cons_append, ← hplace]
    cases htype : typer name (c.start ++ p.field name) with
    | error error =>
      exact castInto_refused (by simp [Caster.step, Caster.startField, htype, Caster.refuse]) _
    | ok slot =>
      have hstart : Caster.step { c with frames := .map fieldType typer :: c.frames }
          (c.start ++ p.field name) (.fieldStart name) =
          ({ c with frames := .map (some slot) typer :: c.frames }, .ok (.fieldStart name)) := by
        simp [Caster.step, Caster.startField, htype]
      have hready : Builder.Ready
          { b with parts := .fields target.type? past (some name) :: b.parts } := hname
      rw [castInto_cons hstart (Builder.accept_fieldStart _ rfl name), List.append_assoc,
        castInto_placed rfl hready _ _ v h.1]
      simp only [goOn_bind, goOn_pure, goOn_ok]
      refine congrArg (goOn _) (funext fun w ↦ ?_)
      have hplus := Builder.plus_fields (b := { b with
        parts := .fields target.type? past (some name) :: b.parts }) rfl hname w
      have hmore : (Fields.keys (past ++ [(name, w)]) ++ Fields.keys fields).Nodup := by
        simpa [Fields.keys] using hkeys
      have hlater := castInto_placedFields (c := c) hb target (some slot) typer
        (past ++ [(name, w)]) p later fields hmore h.2
      rw [hplus]
      simpa [Caster.noteElement] using hlater
termination_by structural fields => fields

end

/-! ## Whole casts -/

namespace Value

/-- A cast behind a checker comes to what it comes to by itself. -/
private theorem cast_eq_castInto {v : Value} (h : v.WellFormed) (type : TypeRef) (schema : Schema)
    (start : Path) :
    v.cast type schema start =
      castInto "" (.new type schema start) {} (v.placed (fun _ ↦ none) .root) := by
  have hrow : Pipeline.ofElements [.cast (.new type schema start), .observer (.builder "" {})] =
      ⟨[.checker { top := .value }, .cast (.new type schema start),
        .observer (.builder "" {})]⟩ := rfl
  obtain ⟨last, hlast, hrun⟩ := @sendRow_cons (.checker { top := .value }) rfl
    [.cast (.new type schema start), .observer (.builder "" {})] (v.events.map fun e ↦ (e, none))
  rw [Element.passAll_checker_events h] at hlast hrun
  rw [cast, hrow, Pipeline.visit_eq_sendRow, hrun, castInto]
  simp only at hlast ⊢
  rw [Run.built, Run.built]
  split
  · next fault hfault => simp_all
  · next hfault =>
    have hnone := Option.or_eq_none_iff.1 hfault
    simp [hnone.1, hlast hnone.1, Pipeline.builders]

/-- **A cast of the stream is the cast by descent.** -/
theorem cast_eq_castAt {v : Value} (h : v.WellFormed) (type : TypeRef) (schema : Schema)
    (start : Path) :
    v.cast type schema start = (v.castAt schema type start).mapError .error := by
  have hplaced := @castInto_placed "" (fun _ ↦ none) (.new type schema start) {} type rfl rfl .root
    [] v h
  rw [List.append_nil] at hplaced
  rw [cast_eq_castInto h, hplaced]
  simp only [Caster.new, Path.append_root]
  cases v.castAt schema type start <;> rfl

theorem cast_eq_ok_iff {v w : Value} (h : v.WellFormed) {type : TypeRef} {schema : Schema}
    {start : Path} :
    v.cast type schema start = .ok w ↔ v.castAt schema type start = .ok w := by
  rw [cast_eq_castAt h]
  cases v.castAt schema type start <;> simp [Except.mapError]

/-- **Casting a stream refines casting by descent**: it ends in the same value or in the same first
error, at the same path, and in no broken invariant. -/
theorem cast_refines_descent {v : Value} (h : v.WellFormed) (type : TypeRef) (schema : Schema)
    (start : Path) :
    (∀ w, v.cast type schema start = .ok w ↔ v.castAt schema type start = .ok w) ∧
      (∀ e, v.cast type schema start = .error (.error e) ↔
        v.castAt schema type start = .error e) ∧
      ∀ i, v.cast type schema start ≠ .error (.broken i) := by
  rw [cast_eq_castAt h]
  cases v.castAt schema type start <;> simp [Except.mapError]

/-- In a list of truth values in a struct null is found at its place, after the start path. -/
theorem cast_refines_descent_of_null :
    let a : Identifier := ⟨"a", by decide⟩
    let type : QualifiedName := ⟨"ns@v1", "T", by decide, by decide⟩
    let schema := SchemaTable.schema
      ⟨[(type, some ⟨[(a, .list ⟨.core .boolean, false⟩)], none⟩)], [type], false⟩
    let v : Value := .map [(a, .list .opaque_ [.scalar (.boolean true), .null])]
    v.cast (.named type) schema (Path.root.field a) =
      .error (.error (.nullValue (((Path.root.field a).field a).index 1))) := by
  intro a type schema v
  have h : v.WellFormed := by
    simp [v, Value.WellFormed, FieldsWellFormed, ElementsWellFormed, null, Fields.keys]
  exact ((cast_refines_descent h _ schema _).2.1 _).2 rfl

end Value

end ValueStream
