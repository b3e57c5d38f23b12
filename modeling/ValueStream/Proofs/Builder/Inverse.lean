import ValueStream.Proofs.Builder.Put
import ValueStream.Proofs.Checker.Passage

/-!
# Building is the inverse of visiting

A builder that is ready for a value takes in the events of a value and puts the value in its place:
`run_placed`, by recursion on the value. That nothing but the events of values makes a builder
complete is an invariant of its runs. What it has built and what is open, read from the outside in,
spell the events it has taken in (`Builder.taken`), so that a builder with a value and nothing open
has taken in the events of that value and no others.
-/

namespace ValueStream

/-! ## Values are built -/

namespace Builder

variable {stamp : Path → Option Path}

mutual

/-- **A builder that is ready for a value builds it** from its events, whatever their stamps. -/
theorem run_placed {b : Builder} (hb : b.Ready) (p : Path) (more : List Event) : ∀ {v : Value},
    v.WellFormed → b.run ((v.placed stamp p).map Prod.fst ++ more) = (b.plus v).run more
  | .scalar s, _ => by
    simpa using run_cons (accept_value _ hb _) more
  | .map fields, h => by
    simp only [Value.WellFormed] at h
    have hfields := run_placedFields (b := { b with parts := .fields none [] none :: b.parts })
      rfl p (⟨.close, stamp p⟩ :: more) h.1 h.2
    rw [run_cons (accept_close (stamp p) hb rfl)] at hfields
    rw [Value.placed_map, List.map_cons, List.cons_append, run_cons rfl]
    simpa using hfields
  | .list type elements, h => by
    simp only [Value.WellFormed] at h
    have helements := run_placedElements (b := { b with parts := .elements type [] :: b.parts })
      rfl p 0 (⟨.close, stamp p⟩ :: more) h
    rw [run_cons (accept_close (stamp p) hb rfl)] at helements
    rw [Value.placed_list, List.map_cons, List.cons_append, run_cons rfl]
    simpa using helements
  | .struct type fields, h => by
    simp only [Value.WellFormed] at h
    have hfields :=
      run_placedFields (b := { b with parts := .fields (some type) [] none :: b.parts })
        rfl p (⟨.close, stamp p⟩ :: more) h.1 h.2
    rw [run_cons (accept_close (stamp p) hb rfl)] at hfields
    rw [Value.placed_struct, List.map_cons, List.cons_append, run_cons rfl]
    simpa using hfields

theorem run_placedElements {b : Builder} {type : ListType} {past : List Value}
    {rest : List Part} (hb : b.parts = .elements type past :: rest) (p : Path) (i : Nat)
    (more : List Event) : ∀ {elements : List Value}, Value.ElementsWellFormed elements →
      b.run ((Value.placedElements stamp p i elements).map Prod.fst ++ more) =
        Builder.run { b with parts := .elements type (past ++ elements) :: rest } more
  | [], _ => by simp [← hb]
  | v :: elements, h => by
    simp only [Value.ElementsWellFormed] at h
    have hready : b.Ready := by simp [Ready, hb]
    have hplus := plus_elements hb v
    have helements := run_placedElements (b := b.plus v) (congrArg parts hplus) p (i + 1) more h.2
    rw [Value.placedElements_cons, List.map_append, List.append_assoc,
      run_placed hready _ _ h.1, helements, hplus, List.append_assoc]
    rfl

theorem run_placedFields {b : Builder} {type : Option QualifiedName} {past : Fields}
    {rest : List Part} (hb : b.parts = .fields type past none :: rest) (p : Path)
    (more : List Event) : ∀ {fields : List (Identifier × Value)},
      (Fields.keys (past ++ fields)).Nodup → Value.FieldsWellFormed fields →
        b.run ((Value.placedFields stamp p fields).map Prod.fst ++ more) =
          Builder.run { b with parts := .fields type (past ++ fields) none :: rest } more
  | [], _, _ => by simp [← hb]
  | (name, v) :: fields, hkeys, h => by
    simp only [Value.FieldsWellFormed] at h
    have hname : name ∉ Fields.keys past := by
      simp only [Fields.keys, List.map_append, List.map_cons, List.nodup_append] at hkeys
      exact fun hmem ↦ hkeys.2.2 name hmem name List.mem_cons_self rfl
    have hready : Builder.Ready { b with parts := .fields type past (some name) :: rest } := hname
    have hplus := plus_fields (b := { b with parts := .fields type past (some name) :: rest })
      rfl hname v
    have hmore : (Fields.keys (past ++ [(name, v)] ++ fields)).Nodup := by simpa using hkeys
    have hfields := run_placedFields
      (b := { b with parts := .fields type (past ++ [(name, v)]) none :: rest })
      rfl p more hmore h.2
    rw [Value.placedFields_cons, List.map_cons, List.cons_append, List.map_append,
      List.append_assoc, run_cons (accept_fieldStart _ hb name), run_placed hready _ _ h.1, hplus,
      hfields, List.append_assoc]
    rfl

end

end Builder

/-! ## What has been taken in -/

/-- The events that have come for a part. -/
def Part.taken : Part → List EventKind
  | .fields type held pending =>
    type.elim .mapStart .structStart ::
      ((Value.fieldEvents held).map (·.kind) ++ (pending.map .fieldStart).toList)
  | .elements type held => .listStart type :: (Value.elementEvents held).map (·.kind)

/-- Whether the values of a part are well formed and its keys distinct. -/
def Part.WellFormed : Part → Prop
  | .fields _ held _ => (Fields.keys held).Nodup ∧ Value.FieldsWellFormed held
  | .elements _ held => Value.ElementsWellFormed held

theorem Part.events_of_whole {part : Part} {v : Value} (h : part.whole? = some v) :
    v.events.map (·.kind) = part.taken ++ [.close] := by
  rcases part with ⟨_ | type, held, _ | pending⟩ | ⟨type, held⟩ <;> cases h <;>
    simp [taken, Value.events]

theorem Part.WellFormed.of_whole {part : Part} (hpart : part.WellFormed) {v : Value}
    (h : part.whole? = some v) : v.WellFormed := by
  rcases part with ⟨_ | type, held, _ | pending⟩ | ⟨type, held⟩ <;> cases h <;>
    simpa [Value.WellFormed, Part.WellFormed] using hpart

namespace Builder

/-- The builder has taken in the events, which what it has built and what is open spell. -/
structure HasTaken (b : Builder) (past : List EventKind) : Prop where
  /-- The events, from the outside in. -/
  spells : (b.built.elim [] fun v ↦ v.events.map (·.kind)) ++
    b.parts.reverse.flatMap Part.taken = past
  /-- What is open is well formed. -/
  parts : ∀ part ∈ b.parts, part.WellFormed
  /-- What is built is well formed. -/
  built : ∀ v ∈ b.built, v.WellFormed

theorem hasTaken_nil : HasTaken {} [] := ⟨rfl, by simp, by simp⟩

namespace HasTaken

variable {b b' : Builder} {past : List EventKind}

theorem cons_iff {part : Part} {rest : List Part} {built : Option Value} :
    HasTaken ⟨part :: rest, built⟩ past ↔
      ∃ before, HasTaken ⟨rest, built⟩ before ∧ part.WellFormed ∧ past = before ++ part.taken := by
  constructor
  · rintro ⟨rfl, hparts, hbuilt⟩
    exact ⟨_, ⟨rfl, fun part h ↦ hparts part (List.mem_cons_of_mem _ h), hbuilt⟩,
      hparts part List.mem_cons_self, by simp⟩
  · rintro ⟨before, ⟨rfl, hparts, hbuilt⟩, hpart, rfl⟩
    exact ⟨by simp, by simpa using ⟨hpart, hparts⟩, hbuilt⟩

/-- A value that is put in its place has been taken in there. -/
theorem put (h : b.HasTaken past) {place : Path} {v : Value} (hv : v.WellFormed)
    (hput : b.put place v = (b', none)) : b'.HasTaken (past ++ v.events.map (·.kind)) := by
  obtain ⟨parts, built⟩ := b
  rcases parts with _ | ⟨⟨type, held, _ | name⟩ | ⟨type, held⟩, rest⟩
  · -- Nothing is open: this is the value that is built, unless there is one.
    cases built with
    | some w => simp [Builder.put, isDone, refuse] at hput
    | none =>
      obtain rfl : _ = b' := by simpa [Builder.put, isDone] using hput
      obtain rfl : [] = past := h.spells
      exact ⟨by simp, by simp, by simpa using hv⟩
  · simp [Builder.put, refuse] at hput
  · obtain ⟨before, hrest, ⟨hkeys, hheld⟩, rfl⟩ := cons_iff.1 h
    by_cases hname : name ∈ Fields.keys held
    · have hcontains : Fields.contains held name = true := Fields.contains_iff.2 hname
      simp [Builder.put, Fields.insert, hcontains, refuse] at hput
    · obtain rfl : _ = b' := by simpa [Builder.put, Fields.insert_of_notMem hname] using hput
      refine cons_iff.2 ⟨before, hrest, ⟨?_, ?_⟩, ?_⟩
      · rw [Fields.keys, List.map_append]
        refine List.nodup_append.2 ⟨hkeys, by simp, fun key hkey other hother heq ↦ hname ?_⟩
        obtain rfl := List.mem_singleton.1 hother
        exact heq ▸ hkey
      · simpa [Value.fieldsWellFormed_iff, or_imp, forall_and, hv] using hheld
      · simp [Part.taken, Value.fieldEvents_eq_flatMap]
  · obtain ⟨before, hrest, hheld, rfl⟩ := cons_iff.1 h
    obtain rfl : _ = b' := by simpa [Builder.put] using hput
    refine cons_iff.2 ⟨before, hrest, ?_, ?_⟩
    · simpa [Part.WellFormed, Value.elementsWellFormed_iff, or_imp, forall_and, hv] using hheld
    · simp [Part.taken, Value.elementEvents_eq_flatMap]

theorem openPart (h : b.HasTaken past) {part : Part} (hpart : part.WellFormed)
    (hopen : b.openPart part = (b', none)) : b'.HasTaken (past ++ part.taken) := by
  obtain rfl : _ = b' := by simpa [Builder.openPart] using hopen
  exact cons_iff.2 ⟨past, h, hpart, rfl⟩

theorem startField (h : b.HasTaken past) {place : Path} {name : Identifier}
    (hstart : b.startField place name = (b', none)) :
    b'.HasTaken (past ++ [.fieldStart name]) := by
  obtain ⟨_ | ⟨⟨type, held, _ | pending⟩ | ⟨type, held⟩, rest⟩, built⟩ := b
  · simp [Builder.startField, refuse] at hstart
  · obtain rfl : _ = b' := by simpa [Builder.startField] using hstart
    obtain ⟨before, hrest, hheld, rfl⟩ := cons_iff.1 h
    exact cons_iff.2 ⟨before, hrest, hheld, by simp [Part.taken]⟩
  · simp [Builder.startField, refuse] at hstart
  · simp [Builder.startField, refuse] at hstart

theorem close (h : b.HasTaken past) {place : Path} (hclose : b.close place = (b', none)) :
    b'.HasTaken (past ++ [.close]) := by
  obtain ⟨_ | ⟨part, rest⟩, built⟩ := b
  · simp [Builder.close, refuse] at hclose
  · obtain ⟨before, hrest, hpart, rfl⟩ := cons_iff.1 h
    cases hwhole : part.whole? with
    | none =>
      rcases part with ⟨_ | type, held, _ | pending⟩ | ⟨type, held⟩ <;> cases hwhole <;>
        simp [Builder.close, refuse] at hclose
    | some v =>
      -- The events of the part and its end are those of the value that it is.
      have hput : Builder.put ⟨rest, built⟩ place v = (b', none) := by
        rw [← hclose]
        rcases part with ⟨_ | type, held, _ | pending⟩ | ⟨type, held⟩ <;> cases hwhole <;> rfl
      rw [List.append_assoc, ← Part.events_of_whole hwhole]
      exact hrest.put (hpart.of_whole hwhole) hput

theorem accept (h : b.HasTaken past) {e : Event} (he : e.kind.IsPlain)
    (haccept : b.accept e = (b', none)) : b'.HasTaken (past ++ [e.kind]) := by
  obtain ⟨kind, stamped⟩ := e
  cases kind with
  | value v =>
    cases v with
    | scalar s => exact h.put (v := .scalar s) (by simp [Value.WellFormed]) haccept
    | map _ | list _ _ | struct _ _ => cases he
  | listStart type => exact h.openPart (by simp [Part.WellFormed, Value.ElementsWellFormed]) haccept
  | mapStart | structStart type =>
    exact h.openPart (by simp [Part.WellFormed, Fields.keys, Value.FieldsWellFormed]) haccept
  | fieldStart name => exact h.startField haccept
  | close => exact h.close haccept

theorem run (h : b.HasTaken past) {es : List Event} (hes : ∀ e ∈ es, e.kind.IsPlain)
    (hrun : b.run es = (b', none)) : b'.HasTaken (past ++ es.map (·.kind)) := by
  induction es generalizing b past with
  | nil =>
    obtain rfl : b = b' := by simpa [Builder.run] using hrun
    simpa using h
  | cons e es ih =>
    rcases haccept : b.accept e with ⟨d, _ | error⟩
    · rw [run_cons haccept] at hrun
      have hd := h.accept (hes e List.mem_cons_self) haccept
      simpa using ih hd (fun x hx ↦ hes x (List.mem_cons_of_mem _ hx)) hrun
    · simp [Builder.run, haccept] at hrun

end HasTaken

/-! ## Builder and checker -/

/-- A builder that ends with a value and nothing open has taken in the events of the value. -/
theorem exists_of_run {es : List Event} (hes : ∀ e ∈ es, e.kind.IsPlain) {v : Value}
    (hrun : Builder.run {} es = ({ built := some v }, none)) :
    v.WellFormed ∧ v.events.map (·.kind) = es.map (·.kind) := by
  have h := hasTaken_nil.run hes hrun
  exact ⟨h.built v rfl, by simpa using h.spells⟩

private theorem put_congr {b b' : Builder} {place : Path} {v : Value}
    (h : b.put place v = (b', none)) (other : Path) : b.put other v = (b', none) := by
  obtain ⟨_ | ⟨⟨type, held, _ | name⟩ | ⟨type, held⟩, rest⟩, _ | built⟩ := b <;>
    simp only [put] at h ⊢ <;> first | exact h | cases h | skip
  all_goals
    cases hinsert : Fields.insert held name v <;> simp_all [refuse]

/-- Stamps matter only for the errors of a builder. -/
theorem accept_congr {b b' : Builder} {d e : Event} (hkind : d.kind = e.kind)
    (h : b.accept d = (b', none)) : b.accept e = (b', none) := by
  obtain ⟨kind, p⟩ := d
  obtain ⟨_, q⟩ := e
  obtain rfl : kind = _ := hkind
  cases kind with
  | value v => exact put_congr h _
  | listStart type | mapStart | structStart type => exact h
  | fieldStart name =>
    obtain ⟨_ | ⟨⟨type, held, _ | pending⟩ | ⟨type, held⟩, rest⟩, built⟩ := b <;>
      simp_all [accept, startField, refuse]
  | close =>
    obtain ⟨_ | ⟨⟨_ | type, held, _ | pending⟩ | ⟨type, held⟩, rest⟩, built⟩ := b <;>
      first | exact put_congr h _ | cases h

theorem run_congr {b b' : Builder} {ds es : List Event}
    (hkinds : ds.map (·.kind) = es.map (·.kind)) (h : b.run ds = (b', none)) :
    b.run es = (b', none) := by
  induction ds generalizing b es with
  | nil =>
    obtain rfl : es = [] := by simpa using hkinds.symm
    exact h
  | cons d ds ih =>
    obtain _ | ⟨e, es⟩ := es
    · simp at hkinds
    · obtain ⟨hkind, hkinds⟩ := List.cons.inj hkinds
      rcases haccept : b.accept d with ⟨c, _ | error⟩
      · rw [run_cons haccept] at h
        rw [run_cons (accept_congr hkind haccept)]
        exact ih hkinds h
      · simp [run, haccept] at h

end Builder

/-- A pipeline of a builder runs as the builder does. -/
theorem Pipeline.sendAll_builder (id : String) (b : Builder) (es : List Event) :
    Pipeline.sendAll ⟨[.observer (.builder id b)]⟩ es =
      { elements := [.observer (.builder id (b.run es).1)]
        fault := (b.run es).2.map .error } := by
  induction es generalizing b with
  | nil => rfl
  | cons e es ih =>
    have hsend : Pipeline.send ⟨[.observer (.builder id b)]⟩ e =
        { elements := [.observer (.builder id (b.accept e).1)]
          fault := (b.accept e).2.map .error } := by
      rcases haccept : b.accept e with ⟨c, _ | error⟩ <;>
        simp [Pipeline.send, Pipeline.length, dispatch, Element.step, Element.observerStep,
          Observer.accept, haccept, Step.stop, Step.forward, Step.map, Delivery.map, handOn,
          Run.after]
    rw [Pipeline.sendAll, hsend, Builder.run]
    rcases b.accept e with ⟨c, _ | error⟩
    · simp [ih, Run.after]
    · rfl

/-- The events of a well-formed value make a fresh builder that value, whatever their stamps. -/
theorem Builder.run_of_kinds {v : Value} (h : v.WellFormed) {es : List Event}
    (hes : v.events.map (·.kind) = es.map (·.kind)) :
    Builder.run {} es = ({ built := some v }, none) := by
  have hrun := @Builder.run_placed (fun _ ↦ none) {} rfl .root [] v h
  rw [Value.fst_placed, List.append_nil] at hrun
  exact Builder.run_congr hes hrun

/-- What the pipeline of a builder comes to is the value if the builder makes one. -/
theorem Pipeline.sendAll_builder_of_kinds (id : String) {v : Value} (h : v.WellFormed)
    {es : List Event} (hes : v.events.map (·.kind) = es.map (·.kind)) :
    Pipeline.sendAll ⟨[.observer (.builder id {})]⟩ es =
      { elements := [.observer (.builder id { built := some v })] } := by
  rw [Pipeline.sendAll_builder, Builder.run_of_kinds h hes]
  rfl

/-- A builder with a value and nothing open has seen the events of a value. -/
theorem Pipeline.sendAll_builder_iff (id : String) {es : List Event}
    (hes : ∀ e ∈ es, e.kind.IsPlain) :
    (∃ b v, Pipeline.sendAll ⟨[.observer (.builder id {})]⟩ es =
        { elements := [.observer (.builder id b)] } ∧ b.parts = [] ∧ b.built = some v) ↔
      ∃ v : Value, v.WellFormed ∧ v.events.map (·.kind) = es.map (·.kind) := by
  constructor
  · rintro ⟨⟨parts, built⟩, v, hsend, rfl, rfl⟩
    rw [Pipeline.sendAll_builder] at hsend
    have hrun : Builder.run {} es = ({ built := some v }, none) := by
      ext1 <;> simp_all
    exact ⟨v, Builder.exists_of_run hes hrun⟩
  · rintro ⟨v, h, hkinds⟩
    exact ⟨{ built := some v }, v, Pipeline.sendAll_builder_of_kinds id h hkinds, rfl, rfl⟩

/-- A checker that is done has seen the events of a value. -/
theorem Pipeline.sendAll_checker_iff {es : List Event} (hes : ∀ e ∈ es, e.kind.IsPlain) :
    (∃ c, Pipeline.sendAll ⟨[.checker { top := .value }]⟩ es = { elements := [.checker c] } ∧
        c.done = true) ↔
      ∃ v : Value, v.WellFormed ∧ v.events.map (·.kind) = es.map (·.kind) := by
  rw [Pipeline.sendAll_checker]
  constructor
  · rintro ⟨c, hsend, hdone⟩
    obtain ⟨rfl, hfault⟩ : (Checker.run { top := .value } (es.map (·.kind))).1 = c ∧
        (Checker.run { top := .value } (es.map (·.kind))).2 = none := by simpa using hsend
    have hrun := Checker.run_complete_iff.1 (Prod.ext (Checker.run_eq_of_done hdone) hfault)
    exact hrun.1.exists_value (by simpa using hes)
  · rintro ⟨v, h, hkinds⟩
    refine ⟨{ top := .value, done := true }, ?_, rfl⟩
    rw [← hkinds, Checker.run_complete_iff.2 ⟨Value.isValueStream_events h, fun _ _ ↦ rfl⟩]

/-- **Building is the inverse of visiting, and builder and checker agree.** A builder makes of the
events of a value that value. And on events of which those that bring a value as a whole bring a
scalar, a builder is complete with nothing open just where a checker is done, which is where the
events are those of a value, the one that is built. -/
theorem Pipeline.builder_inverts_visit (id : String) :
    (∀ v : Value, v.WellFormed → Pipeline.visit ⟨[.observer (.builder id {})]⟩ v =
      { elements := [.observer (.builder id { built := some v })] }) ∧
    ∀ es : List Event, (∀ e ∈ es, e.kind.IsPlain) →
      ((∃ b v, Pipeline.sendAll ⟨[.observer (.builder id {})]⟩ es =
          { elements := [.observer (.builder id b)] } ∧ b.parts = [] ∧ b.built = some v) ↔
        ∃ c, Pipeline.sendAll ⟨[.checker { top := .value }]⟩ es =
          { elements := [.checker c] } ∧ c.done = true) ∧
      ((∃ c, Pipeline.sendAll ⟨[.checker { top := .value }]⟩ es =
          { elements := [.checker c] } ∧ c.done = true) ↔
        ∃ v : Value, v.WellFormed ∧ v.events.map (·.kind) = es.map (·.kind)) ∧
      ∀ v : Value, v.WellFormed → v.events.map (·.kind) = es.map (·.kind) →
        Pipeline.sendAll ⟨[.observer (.builder id {})]⟩ es =
          { elements := [.observer (.builder id { built := some v })] } ∧
        ∀ w : Value, w.WellFormed → w.events.map (·.kind) = es.map (·.kind) → w = v := by
  refine ⟨fun v h ↦ ?_, fun es hes ↦
    ⟨(Pipeline.sendAll_builder_iff id hes).trans (Pipeline.sendAll_checker_iff hes).symm,
      Pipeline.sendAll_checker_iff hes, fun v h hkinds ↦
        ⟨Pipeline.sendAll_builder_of_kinds id h hkinds, fun w hw hkinds' ↦ ?_⟩⟩⟩
  · rw [Pipeline.visit_eq_sendAll]
    exact Pipeline.sendAll_builder_of_kinds id h rfl
  · have hrun := Builder.run_of_kinds h hkinds
    rw [Builder.run_of_kinds hw hkinds'] at hrun
    simpa using hrun

/-- A list in a map is rebuilt, and no other value has its events. -/
theorem Pipeline.builder_inverts_visit_of_list_in_map :
    let v := Value.map [(⟨"a", by decide⟩, .list .opaque_ [.null, .null])]
    Pipeline.visit ⟨[.observer (.builder "b" {})]⟩ v =
        { elements := [.observer (.builder "b" { built := some v })] } ∧
      ∀ w : Value, w.WellFormed → w.events.map (·.kind) = v.events.map (·.kind) → w = v := by
  have h : Value.WellFormed (.map [(⟨"a", by decide⟩, .list .opaque_ [.null, .null])]) := by
    simp [Value.WellFormed, Value.FieldsWellFormed, Value.ElementsWellFormed, Value.null,
      Fields.keys]
  refine ⟨(Pipeline.builder_inverts_visit "b").1 _ h, ?_⟩
  refine (((Pipeline.builder_inverts_visit "b").2 _ ?_).2.2 _ h rfl).2
  simp [Value.events, Value.fieldEvents, Value.elementEvents, Value.null, EventKind.IsPlain,
    Value.isScalar]

end ValueStream
