import ValueStream.Proofs.Cast.Places
import ValueStream.Proofs.Pipeline.Unbroken
import ValueStream.Proofs.Reorder.Arranged
import ValueStream.Proofs.Stream.Tracker
import ValueStream.Proofs.Value.Shuffled

/-!
# Stamped events behind a reorder

A stamper ahead of a reorder writes on each event where in the value it belongs, before the reorder
holds any of them back. What leaves the reorder are the events of the arranged value, stamped and
placed by their locations there. Fields are located by their names, whatever the order they stand
in, so that these are the events of the value that came with their locations in that value
(`Value.locatedEvents_arranged_perm`). So a cast behind the reorder finds each event at its own
place, also when the event was held back and the live stream is elsewhere by then.

Nothing but the arranged value counts for what leaves. Where the order names all fields of a struct,
it does not show in which order they came.
-/

namespace ValueStream

/-! ## Locations in the arranged value -/

namespace Value

variable {orders : QualifiedName → List Identifier}

mutual

/-- Arranging moves the events of a value and changes neither what they say nor where they belong.
-/
theorem locatedEvents_arranged_perm (p : Path) : ∀ {v : Value}, v.WellFormed →
    ((v.arranged orders).locatedEvents p).Perm (v.locatedEvents p)
  | .scalar s, _ => .refl _
  | .map fields, h => by
    simp only [WellFormed] at h
    simp only [arranged, locatedEvents]
    exact ((locatedFields_arranged_perm p h.2).append_right _).cons _
  | .list type elements, h => by
    simp only [WellFormed] at h
    simp only [arranged, locatedEvents]
    exact ((locatedElements_arranged_perm p 0 h).append_right _).cons _
  | .struct type fields, h => by
    simp only [WellFormed] at h
    simp only [arranged, locatedEvents]
    have hkeys : (Fields.keys (arrangedFields orders fields)).Nodup :=
      keys_arrangedFields fields ▸ h.1
    -- The fields as they leave, then the fields as they came, each with its value arranged.
    have hleave :
        (locatedFields p (Fields.arrange (orders type) (arrangedFields orders fields))).Perm
          (locatedFields p (arrangedFields orders fields)) := by
      simp only [locatedFields_eq_flatMap]
      exact (Fields.arrange_perm (orders type) hkeys).flatMap_right _
    exact ((hleave.trans (locatedFields_arranged_perm p h.2)).append_right _).cons _

theorem locatedElements_arranged_perm (p : Path) (position : Nat) : ∀ {elements : List Value},
    ElementsWellFormed elements →
      (locatedElements p position (arrangedElements orders elements)).Perm
        (locatedElements p position elements)
  | [], _ => .refl _
  | v :: rest, h => by
    simp only [ElementsWellFormed] at h
    simp only [arrangedElements, locatedElements]
    exact (locatedEvents_arranged_perm _ h.1).append (locatedElements_arranged_perm p _ h.2)

theorem locatedFields_arranged_perm (p : Path) : ∀ {fields : List (Identifier × Value)},
    FieldsWellFormed fields →
      (locatedFields p (arrangedFields orders fields)).Perm (locatedFields p fields)
  | [], _ => .refl _
  | (name, v) :: rest, h => by
    simp only [FieldsWellFormed] at h
    simp only [arrangedFields, locatedFields]
    exact ((locatedEvents_arranged_perm _ h.1).append (locatedFields_arranged_perm p h.2)).cons _

end

end Value

/-! ## A stamper ahead of the reorder -/

namespace Pipeline

variable (orders : QualifiedName → List Identifier) (start : Path) {v : Value}

/-- A checker and a stamper, then a reorder: what is behind them. -/
theorem visit_stamper_reorder (h : v.WellFormed) (rest : List Element) :
    let r := sendRow rest (((v.arranged orders).placed some start).map fun x ↦ (x.1, some x.2))
    ∃ ahead, (r.fault = none → ahead =
        [.checker { top := .value, done := true }, .stamper start [],
          .reorder { orders := orders }]) ∧
      visit ⟨.checker { top := .value } :: .stamper start [] :: .reorder { orders := orders } ::
        rest⟩ v = { r with elements := ahead ++ r.elements } := by
  have hchecker := Element.passAll_checker_events h
  have hinputs : ((v.placed (fun _ ↦ none) .root).map fun x ↦ (x.1, some x.2)).map (·.1.kind) =
      v.events.map (·.kind) := by
    rw [List.map_map, ← v.kinds_placed (fun _ ↦ none) .root]
    rfl
  have hstamper := Element.passAll_stamper_events h start hinputs
  have hreorder := Element.passAll_reorder (@Reorder.passes_value some orders v h start)
  -- Nothing stops the three, so that what stops the row is behind them.
  obtain ⟨third, hthird, hbehind⟩ := sendRow_cons_of_passes rfl hreorder rest
  obtain ⟨second, hsecond, hmiddle⟩ :=
    sendRow_cons_of_passes rfl hstamper (.reorder { orders := orders } :: rest)
  obtain ⟨first, hfirst, hrow⟩ := sendRow_cons_of_passes rfl hchecker
    (.stamper start [] :: .reorder { orders := orders } :: rest)
  rw [hbehind] at hsecond hmiddle
  rw [hmiddle] at hfirst hrow
  refine ⟨[first, second, third], fun hnone ↦ ?_, ?_⟩
  · rw [hfirst hnone, hsecond hnone, hthird hnone]
  · rw [visit_eq_sendRow, hrow]
    rfl

/-- What stops a cast behind the reorder is what stops the run, and a note-taker behind the cast
takes a note for each event that the cast hands on. -/
theorem visit_stamper_reorder_cast (h : v.WellFormed) (c : Caster) (id : String) :
    let r := visit ⟨[.checker { top := .value }, .stamper start [], .reorder { orders := orders },
      .cast c, .record id]⟩ v
    let p := c.passage (((v.arranged orders).placed some start).map fun x ↦ (x.1, some x.2))
    r.fault = p.fault ∧ r.notes.length = p.handed.length := by
  intro r p
  obtain ⟨ahead, -, hrow⟩ := visit_stamper_reorder orders start h [.cast c, .record id]
  obtain ⟨last, -, hcast⟩ := @sendRow_cons (.cast c) rfl [.record id]
    (((v.arranged orders).placed some start).map fun x ↦ (x.1, some x.2))
  rw [sendRow_record, Element.passAll_cast_eq_passage] at hcast
  rw [hcast] at hrow
  have hr : r = _ := hrow
  rw [hr]
  exact ⟨rfl, List.length_map _⟩

/-- **What leaves a reorder reports its own location.** Behind a checker, a stamper and a reorder
the events of the value come by, each exactly once. For each of them the path that the reorder
reports meanwhile is the one that the event was stamped with, the location of its part of the value
after the start. A cast that comes next hands on one event for each, up to one that it refuses, and
the error is at the location of that one. -/
theorem reorder_reports_locations (id : String) (h : v.WellFormed) :
    let out := (v.arranged orders).locatedEvents .root
    out.Perm (v.locatedEvents .root) ∧
      visit (.ofElements [.checker { top := .value }, .stamper start [],
          .reorder { orders := orders }, .record id]) v =
        { elements := [.checker { top := .value, done := true }, .stamper start [],
            .reorder { orders := orders }, .record id]
          notes := out.map fun x ↦
            .seen id ⟨x.1, some (start ++ x.2)⟩ (some (start ++ x.2)) } ∧
      ∀ (type : TypeRef) (schema : Schema) (base : Path), schema.ReportsPlaces →
        let r := visit (.ofElements [.checker { top := .value }, .stamper start [],
          .reorder { orders := orders }, .cast (.new type schema base), .record id]) v
        ∀ fault, r.fault = some fault → ∃ kind location e,
          out[r.notes.length]? = some (kind, location) ∧ fault = .error e ∧
            e.path = base ++ (start ++ location) := by
  intro out
  refine ⟨Value.locatedEvents_arranged_perm .root h, ?_, ?_⟩
  · obtain ⟨ahead, hahead, hrow⟩ := visit_stamper_reorder orders start h [.record id]
    rw [sendRow_record, Value.placed_some, List.map_map, List.map_map] at hahead hrow
    rw [hahead rfl] at hrow
    exact hrow
  · intro type schema base hschema r fault hfault
    let c := Caster.new type schema base
    have hr := visit_stamper_reorder_cast orders start h c id
    have hnew : ∀ element ∈ [.checker { top := .value }, .stamper start [],
        .reorder { orders := orders }, .cast c, .record id], Element.IsNew element := by
      simp [Element.IsNew, c, Caster.new]
    have hunbroken := unbroken_sendAll hnew v.events
    rw [← visit_eq_sendAll, show (visit _ v).fault = some fault from hfault] at hunbroken
    obtain ⟨e, rfl⟩ := hunbroken.exists_error
    obtain ⟨x, hx, hpath⟩ := Caster.passage_error (Caster.new_reportsPlaces type hschema base)
      (hr.1 ▸ hfault)
    rw [← hr.2] at hx
    simp only [Value.placed_some, List.map_map, List.getElem?_map, Option.map_eq_some_iff] at hx
    obtain ⟨⟨kind, location⟩, hlocation, rfl⟩ := hx
    exact ⟨kind, location, e, hlocation, rfl, hpath⟩

/-- The field that comes first waits for the other one, and the cast refuses it at its own place. -/
theorem reorder_reports_locations_of_late :
    let a : Identifier := ⟨"a", by decide⟩
    let b : Identifier := ⟨"b", by decide⟩
    let t : QualifiedName := ⟨"m@v1", "T", by decide, by decide⟩
    let orders : QualifiedName → List Identifier := fun _ ↦ [a, b]
    let start := Path.root.field a
    let schema := SchemaTable.schema
      ⟨[(t, some ⟨[(a, .nullable (.core .boolean))], some (.core .boolean)⟩)], [], false⟩
    let v : Value := .struct t [(b, .scalar (.string "x")), (a, .null)]
    let out : List (EventKind × Path) := [(.structStart t, .root),
      (.fieldStart a, Path.root.field a), (.value .null, Path.root.field a),
      (.fieldStart b, Path.root.field b), (.value (.scalar (.string "x")), Path.root.field b),
      (.close, .root)]
    v.WellFormed ∧ schema.ReportsPlaces ∧ out.Perm (v.locatedEvents .root) ∧
      visit (.ofElements [.checker { top := .value }, .stamper start [],
          .reorder { orders := orders }, .record "n"]) v =
        { elements := [.checker { top := .value, done := true }, .stamper start [],
            .reorder { orders := orders }, .record "n"]
          notes := out.map fun x ↦
            .seen "n" ⟨x.1, some (start ++ x.2)⟩ (some (start ++ x.2)) } ∧
      ∃ e, (visit (.ofElements [.checker { top := .value }, .stamper start [],
          .reorder { orders := orders }, .cast (.new (.named t) schema .root), .record "n"])
            v).fault = some (.error e) ∧ e.path = start.field b := by
  intro a b t orders start schema v out
  have h : v.WellFormed := by
    simp [v, Value.WellFormed, Value.FieldsWellFormed, Value.null, Fields.keys, a, b]
  have hschema : schema.ReportsPlaces := SchemaTable.reportsPlaces _
  have hout : (v.arranged orders).locatedEvents .root = out := rfl
  obtain ⟨hperm, hvisit, herror⟩ := reorder_reports_locations orders start "n" h
  rw [hout] at hperm hvisit
  let r := visit (.ofElements [.checker { top := .value }, .stamper start [],
    .reorder { orders := orders }, .cast (.new (.named t) schema .root), .record "n"]) v
  have hsome : r.fault.isSome = true := by decide +kernel
  have hlength : r.notes.length = 4 := by decide +kernel
  obtain ⟨fault, hfault⟩ := Option.isSome_iff_exists.1 hsome
  obtain ⟨kind, location, e, hlocation, rfl, hpath⟩ :=
    herror (.named t) schema .root hschema fault hfault
  rw [hout, show (visit _ v).notes.length = 4 from hlength] at hlocation
  obtain ⟨-, rfl⟩ : _ ∧ Path.root.field b = location := Prod.mk.inj (Option.some.inj hlocation)
  exact ⟨h, hschema, hperm, hvisit, e, hfault, hpath⟩

/-! ## A stamper ahead of the checker -/

/-- A stamper, then a checker and a reorder: the events of the arranged value come to a note-taker,
each stamped with its location after the start. -/
theorem visit_stamper_reorder_note (id : String) (h : v.WellFormed) :
    (ofElements [.stamper start [], .reorder { orders := orders },
        .observer (.note id)]).visit v =
      { elements := [.stamper start [], .checker { top := .value, done := true },
          .reorder { orders := orders }, .observer (.note id)]
        notes := ((v.arranged orders).locatedEvents .root).map fun x ↦
          .seen id ⟨x.1, some (start ++ x.2)⟩ none } := by
  let stamp : Path → Option Path := fun q ↦ some (start ++ q)
  have hevents : (v.events.map fun e ↦ (e, (none : Option Path))).map (·.1.kind) =
      v.events.map (·.kind) := by
    rw [List.map_map]
    rfl
  have hinputs : ((v.placed some start).map fun x ↦ (x.1, some x.2)).map Prod.fst =
      (v.placed stamp .root).map Prod.fst := by
    rw [List.map_map, ← v.fst_placed_start start some]
    rfl
  have hstamper := Element.passAll_stamper_events h start hevents
  have hchecker := Element.passAll_checker_placed h stamp hinputs
  have hreorder := Element.passAll_reorder (@Reorder.passes_value stamp orders v h .root)
  have hsetUp : ofElements [.stamper start [], .reorder { orders := orders },
      .observer (.note id)] = ⟨[.stamper start [], .checker { top := .value },
        .reorder { orders := orders }, .observer (.note id)]⟩ := rfl
  rw [hsetUp, visit_eq_sendRow]
  refine sendRow_cons_of_passes_all rfl hstamper (sendRow_cons_of_passes_all rfl hchecker
    (sendRow_cons_of_passes_all rfl hreorder ?_))
  rw [sendRow_note]
  simp [Value.placed, Value.stampAll, stamp]

/-- **Reordering erases the order of arrival.** Two values that differ in the order of the fields of
structs, all of whose fields the order for their type names, are the same behind a stamper and a
reorder: event for event, stamps included. What comes there are the events of the arranged value,
each stamped with its location after the start. -/
theorem reorder_forgets_arrival (id : String) {w : Value} (hvw : Value.Shuffled orders v w)
    (h : v.WellFormed) :
    let p := ofElements [.stamper start [], .reorder { orders := orders }, .observer (.note id)]
    p.visit v = p.visit w ∧ p.visit v =
      { elements := [.stamper start [], .checker { top := .value, done := true },
          .reorder { orders := orders }, .observer (.note id)]
        notes := ((v.arranged orders).locatedEvents .root).map fun x ↦
          .seen id ⟨x.1, some (start ++ x.2)⟩ none } := by
  intro p
  have hvisit : p.visit v = _ := visit_stamper_reorder_note orders start id h
  have hvisit' : p.visit w = _ := visit_stamper_reorder_note orders start id (hvw.wellFormed h)
  rw [← hvw.arranged_eq h, ← hvisit] at hvisit'
  exact ⟨hvisit'.symm, hvisit⟩

/-- The fields of a struct and of another one deep inside it come in the other order. -/
theorem reorder_forgets_arrival_of_nested :
    let a : Identifier := ⟨"a", by decide⟩
    let b : Identifier := ⟨"b", by decide⟩
    let t : QualifiedName := ⟨"m@v1", "T", by decide, by decide⟩
    let orders : QualifiedName → List Identifier := fun _ ↦ [a, b]
    let start := Path.root.field a
    let around (inner : Value) : Value := .list .opaque_ [.map [(b, inner)]]
    let v : Value := .struct t [(a, around (.struct t [(b, .null), (a, .null)])), (b, .null)]
    let w : Value := .struct t [(b, .null), (a, around (.struct t [(a, .null), (b, .null)]))]
    let p := ofElements
      [.stamper start [], .reorder { orders := orders }, .observer (.note "n")]
    Value.Shuffled orders v w ∧ v.WellFormed ∧ p.visit v = p.visit w ∧
      (p.visit v).notes = ((v.arranged orders).locatedEvents .root).map fun x ↦
        .seen "n" ⟨x.1, some (start ++ x.2)⟩ none := by
  intro a b t orders start around v w p
  have hnamed : ∀ name ∈ [a, b], name ∈ orders t := fun _ h ↦ h
  have hnamed' : ∀ name ∈ [b, a], name ∈ orders t := by simp [orders]
  -- The struct inside first, then the outer one.
  have hinner : Value.Shuffled orders (.struct t [(b, .null), (a, .null)])
      (.struct t [(a, .null), (b, .null)]) := .fields hnamed' (.swap _ _ _)
  have haround := Value.Shuffled.element .opaque_ [] [] (.mapField b [] [] hinner)
  have hvw : Value.Shuffled orders v w :=
    .trans (.structField t a [] [(b, .null)] haround) (.fields hnamed (.swap _ _ _))
  have h : v.WellFormed := by
    simp [v, around, Value.WellFormed, Value.FieldsWellFormed, Value.ElementsWellFormed,
      Value.null, Fields.keys, a, b]
  obtain ⟨hvisit, hnotes⟩ := reorder_forgets_arrival orders start "n" hvw h
  exact ⟨hvw, h, hvisit, congrArg Run.notes hnotes⟩

end Pipeline

end ValueStream
