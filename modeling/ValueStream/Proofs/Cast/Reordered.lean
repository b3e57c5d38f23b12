import ValueStream.Proofs.Cast.Passage
import ValueStream.Proofs.Reorder.Begun

/-!
# Reordering and casting

A reorder ahead of a cast hands on the arranged value, which the cast takes in. A reorder behind a
cast takes in what the cast has made of each event, and holds it back as it would have held back the
event itself, since it overlooks what stands in it (`Reorder.passage_through`). So both rows come to
the same events, in the order of the arranged value and with what stands at their places in the
result, and build the same value (`reorder_cast_commute`).

That takes casts that keep maps and structs: a struct that the cast infers is one for the reorder
behind it alone, and one that becomes a map is one for the reorder ahead of it alone.
-/

namespace ValueStream

/-! ## What a row builds -/

section
variable {inputs : List (Event × Option Path)} {w : Value}

/-- A row builds what the elements behind its first one build, if nothing stops that one and it is
no builder itself. -/
theorem built_sendRow_cons {first : Element} (h : first.isQuiet = true) {p : Passage Element}
    (hfirst : first.passAll inputs = p) (hstate : (Pipeline.mk [p.state]).builders = [])
    (rest : List Element) :
    (sendRow (first :: rest) inputs).built = .ok w ↔
      p.fault = none ∧ (sendRow rest p.handed).built = .ok w := by
  obtain ⟨last, hlast, hrow⟩ := sendRow_cons h rest inputs
  rw [hfirst] at hlast hrow
  have hbuilders : ∀ elements : List Element,
      (Pipeline.mk (p.state :: elements)).builders = (Pipeline.mk elements).builders := by
    intro elements
    have happend : (Pipeline.mk ([p.state] ++ elements)).builders =
      (Pipeline.mk [p.state]).builders ++ (Pipeline.mk elements).builders := List.filterMap_append
    rwa [hstate] at happend
  rw [hrow, Run.built, Run.built]
  rcases hr : (sendRow rest p.handed).fault with _ | fault
  · simp only [hlast hr, hbuilders, Option.none_or]
    cases p.fault <;> simp
  · simp

/-- An observer by itself does not ask which paths are reported. -/
theorem sendRow_observer_congr (o : Observer) {xs ys : List (Event × Option Path)}
    (h : xs.map Prod.fst = ys.map Prod.fst) :
    sendRow [.observer o] xs = sendRow [.observer o] ys := by
  have hdispatch : ∀ (o : Observer) (e : Event), ∃ o' notes fault, ∀ ahead,
      dispatch 1 [.observer o] ahead e =
        { elements := [.observer o'], notes := notes, fault := fault } := by
    intro o e
    rcases haccept : o.accept e with ⟨notes, o', _ | error⟩ <;>
      simp [dispatch, Element.step, Element.observerStep, haccept, Step.forward, Step.stop,
        Step.map, Delivery.map, handOn, Run.after]
  induction xs generalizing o ys with
  | nil =>
    obtain rfl : ys = [] := by simpa using h.symm
    rfl
  | cons x xs ih =>
    obtain ⟨e, ahead⟩ := x
    obtain ⟨⟨e, ahead'⟩, ys, rfl, rfl, hlater⟩ := List.map_eq_cons_iff.1 h.symm
    obtain ⟨o', notes, fault, hnow⟩ := hdispatch o e
    rw [sendRow, sendRow]
    simp only [List.length_singleton, hnow, ih o' hlater.symm]

end

@[simp] theorem EventKind.form_refill (kind : EventKind) (w : Value) :
    (kind.refill w).form = kind.form := by
  cases kind <;> cases w <;> rfl

/-! ## A reorder ahead of a cast -/

namespace Pipeline

variable {v w : Value} {type : TypeRef} {schema : Schema} {start : Path}

/-- A cast and a builder come to the cast by descent. -/
theorem built_cast (h : v.WellFormed) (id : String) :
    (sendRow [.cast (.new type schema start), .observer (.builder id {})]
        ((v.placed (fun _ ↦ none) .root).map fun x ↦ (x.1, some x.2))).built = .ok w ↔
      v.castAt schema type start = .ok w := by
  have hcast := @castInto_placed id (fun _ ↦ none) (.new type schema start) {} type rfl rfl .root
    [] v h
  rw [List.append_nil, castInto] at hcast
  rw [hcast, Caster.new, Path.append_root]
  rcases hu : v.castAt schema type start with e | u
  · simp [goOn]
  · have hbuilt : castInto id ⟨schema, start, [.expected type]⟩ (Builder.plus {} u) [] = .ok u :=
      rfl
    simp [goOn, Caster.noteElement, hbuilt]

variable (orders : QualifiedName → List Identifier)

/-- Behind a reorder the arranged value is cast. -/
theorem built_reorder_cast (h : v.WellFormed) (id : String) :
    ((ofElements [.reorder { orders := orders }, .cast (.new type schema start),
        .observer (.builder id {})]).visit v).built = .ok w ↔
      (v.arranged orders).castAt schema type start = .ok w := by
  have hchecker := Element.passAll_checker_events h
  have hreorder := Element.passAll_reorder (@Reorder.passes_value (fun _ ↦ none) orders v h .root)
  have hrow : ofElements [.reorder { orders := orders }, .cast (.new type schema start),
      .observer (.builder id {})] = ⟨[.checker { top := .value }, .reorder { orders := orders },
        .cast (.new type schema start), .observer (.builder id {})]⟩ := rfl
  rw [hrow, visit_eq_sendRow, built_sendRow_cons rfl hchecker rfl,
    built_sendRow_cons rfl hreorder rfl]
  simp only [true_and]
  exact built_cast h.arranged id

/-! ## A reorder behind a cast -/

/-- An event, unstamped, with what stands at the place that its stamp gives. -/
def refillStamped (result : Path → Value) (e : Event) : Event :=
  ⟨e.kind.refill (result (e.path.getD .root)), none⟩

theorem overlooked_refillStamped (result : Path → Value) : Overlooked (refillStamped result) :=
  fun e ↦ e.kind.form_refill _

/-- What a reorder hands on of refilled events are the refilled events of the arranged value. -/
theorem passage_refilled_events (base : Path) (result : Path → Value) (h : v.WellFormed) :
    let p := Reorder.passage { orders := orders }
      ((v.placed (fun _ ↦ none) .root).map (Caster.refilled base result))
    p.fault = none ∧ p.handed.map Prod.fst =
      (((v.arranged orders).placed (fun _ ↦ none) .root).map
        (Caster.refilled base result)).map Prod.fst := by
  -- Refilled events are events stamped with their places, after a change that a reorder overlooks.
  have hevents : ∀ u : Value,
      inputsThrough (refillStamped result) ((u.placed some .root).map fun x ↦ (x.1, some x.2)) =
        ((u.placed (fun _ ↦ none) .root).map (Caster.refilled base result)).map Prod.fst := by
    intro u
    simp [inputsThrough, Value.placed, Value.stampAll, refillStamped, Caster.refilled,
      Event.withKind]
  have hpasses : Reorder.passage { orders := orders } _ = _ :=
    @Reorder.passes_value some orders v h .root
  obtain ⟨hhanded, -, hstops⟩ := @Reorder.passage_through (refillStamped result) id
    (overlooked_refillStamped result) (fun _ ↦ rfl) { orders := orders } { orders := orders } rfl
    ((v.placed some .root).map fun x ↦ (x.1, some x.2))
    ((v.placed (fun _ ↦ none) .root).map (Caster.refilled base result)) (hevents v)
  rw [hpasses] at hhanded hstops
  refine ⟨by simpa using hstops.symm, ?_⟩
  rw [← hevents]
  exact hhanded.symm

/-- A cast that keeps maps and structs hands on the events of the value, refilled from the result.
-/
theorem passAll_cast_refilled {u : Value} {result : Path → Value}
    (h : PartsCast schema start result True type .root u) :
    (Element.cast (.new type schema start)).passAll
        ((u.placed (fun _ ↦ none) .root).map fun x ↦ (x.1, some x.2)) =
      { handed := (u.placed (fun _ ↦ none) .root).map (Caster.refilled start result)
        state := .cast (.new type schema start) } := by
  have hpasses := @Caster.passage_placed schema start .root type (fun _ ↦ none) result u h
    [.expected type] rfl []
  rw [List.append_nil] at hpasses
  rw [Element.passAll_cast_eq_passage, Caster.new, hpasses]
  simp [Caster.passage, Passage.behind, Passage.map, Caster.noteElement]

/-- A cast is stopped if the value cannot be cast. -/
theorem fault_passage_cast :
    ((Caster.new type schema start).passage
        ((v.placed (fun _ ↦ none) .root).map fun x ↦ (x.1, some x.2))).fault = none ↔
      ∃ u, v.castAt schema type start = .ok u := by
  have hverdict := @Caster.verdict_placed schema start (fun _ ↦ none) v [.expected type] type rfl
    .root []
  rw [List.append_nil, Path.append_root, Caster.verdict] at hverdict
  rw [Caster.new]
  rcases hu : v.castAt schema type start with e | u
  · rw [hu] at hverdict
    simp only [reduceCtorEq, exists_false, iff_false]
    intro hnone
    simp [hnone, goOn] at hverdict
  · rw [hu, goOn_ok] at hverdict
    simp only [Except.ok.injEq, exists_eq', iff_true]
    split at hverdict
    · assumption
    · cases hverdict

/-- Ahead of a reorder a value is cast if the arranged one can be cast, and what is built is the
result of that. -/
theorem built_cast_reorder (h : v.WellFormed)
    (hkeeps : ∀ u, v.castAt schema type start = .ok u → v.KeepsTags u) (id : String) :
    ((ofElements [.cast (.new type schema start), .reorder { orders := orders },
        .observer (.builder id {})]).visit v).built = .ok w ↔
      (v.arranged orders).castAt schema type start = .ok w := by
  have hchecker := Element.passAll_checker_events h
  have hrow : ofElements [.cast (.new type schema start), .reorder { orders := orders },
      .observer (.builder id {})] = ⟨[.checker { top := .value },
        .cast (.new type schema start), .reorder { orders := orders },
        .observer (.builder id {})]⟩ := rfl
  rw [hrow, visit_eq_sendRow, built_sendRow_cons rfl hchecker rfl]
  simp only [true_and]
  rcases hu : v.castAt schema type start with e | u
  · have hfault := @fault_passage_cast v type schema start
    have harranged := @Value.exists_castAt_arranged_iff schema type start v orders h
    rw [built_sendRow_cons rfl (Element.passAll_cast_eq_passage _ _) rfl]
    simp only [hu, reduceCtorEq, exists_false, iff_false, not_exists] at hfault harranged
    exact ⟨fun hbuilt ↦ absurd hbuilt.1 hfault, fun hcast ↦ absurd hcast (harranged w)⟩
  · have hparts : PartsCast schema start u.at_ True type .root v :=
      .of_castAt h (fun _ ↦ hkeeps u hu) u.part?_nil (by rw [Path.append_root]; exact hu)
    have hparts' := (PartsCast.arranged_iff orders h).2 hparts
    obtain ⟨hnone, hhanded⟩ := @passage_refilled_events v orders start u.at_ h
    have hreorder := Element.passAll_reorder_eq_passage { orders := orders }
      ((v.placed (fun _ ↦ none) .root).map (Caster.refilled start u.at_))
    rw [← built_cast h.arranged id, built_sendRow_cons rfl (passAll_cast_refilled hparts) rfl,
      built_sendRow_cons rfl (passAll_cast_refilled hparts') rfl,
      built_sendRow_cons rfl hreorder rfl]
    simp only [Passage.map, hnone, true_and]
    rw [sendRow_observer_congr _ hhanded]

/-! ## Either way -/

/-- **Reordering and casting commute** where the cast neither infers structs nor turns any into
maps: a value is built behind a reorder and a cast if and only if the same value is built behind the
cast and the reorder. -/
theorem reorder_cast_commute (h : v.WellFormed) (type : TypeRef) (schema : Schema) (start : Path)
    (hkeeps : ∀ u, v.cast type schema start = .ok u → v.KeepsTags u) (id : String) (w : Value) :
    ((ofElements [.reorder { orders := orders }, .cast (.new type schema start),
        .observer (.builder id {})]).visit v).built = .ok w ↔
      ((ofElements [.cast (.new type schema start), .reorder { orders := orders },
        .observer (.builder id {})]).visit v).built = .ok w := by
  rw [built_reorder_cast orders h id, built_cast_reorder orders h _ id]
  intro u hu
  exact hkeeps u ((Value.cast_eq_ok_iff h).2 hu)

/-- Of a struct and of another one in a list inside it the fields come in the other order, and a
text becomes a truth value. -/
theorem reorder_cast_commute_of_nested :
    let a : Identifier := ⟨"a", by decide⟩
    let b : Identifier := ⟨"b", by decide⟩
    let t : QualifiedName := ⟨"m@v1", "T", by decide, by decide⟩
    let ts : ListType := ⟨.named t, true⟩
    let orders : QualifiedName → List Identifier := fun _ ↦ [a, b]
    let schema := SchemaTable.schema
      ⟨[(t, some ⟨[(a, .core .boolean), (b, .list ts)], none⟩)], [], false⟩
    let v : Value := .struct t
      [(b, .list .opaque_ [.struct t [(b, .list .opaque_ []), (a, .scalar (.string "true"))]]),
        (a, .scalar (.boolean false))]
    let u : Value := .struct t
      [(b, .list ts [.struct t [(b, .list ts []), (a, .scalar (.boolean true))]]),
        (a, .scalar (.boolean false))]
    let w : Value := .struct t [(a, .scalar (.boolean false)),
      (b, .list ts [.struct t [(a, .scalar (.boolean true)), (b, .list ts [])]])]
    v.WellFormed ∧ v.cast (.named t) schema .root = .ok u ∧ v.KeepsTags u ∧
      ((ofElements [.reorder { orders := orders }, .cast (.new (.named t) schema .root),
        .observer (.builder "b" {})]).visit v).built = .ok w ∧
      ((ofElements [.cast (.new (.named t) schema .root), .reorder { orders := orders },
        .observer (.builder "b" {})]).visit v).built = .ok w := by
  intro a b t ts orders schema v u w
  have h : v.WellFormed := by
    simp [v, Value.WellFormed, Value.FieldsWellFormed, Value.ElementsWellFormed, Fields.keys, a, b]
  have hcast : v.cast (.named t) schema .root = .ok u := (Value.cast_eq_ok_iff h).2 rfl
  -- Fields of two names are kept if each of the two is.
  have htwo : ∀ {x x' y y' : Value}, x.KeepsTags x' → y.KeepsTags y' →
      (Value.struct t [(b, x), (a, y)]).KeepsTags (.struct t [(b, x'), (a, y')]) := by
    intro x x' y y' hx hy
    refine .fields rfl rfl rfl fun name z z' hz hz' ↦ ?_
    simp only [List.mem_cons, List.not_mem_nil, or_false, Prod.mk.injEq] at hz hz'
    rcases hz with ⟨rfl, rfl⟩ | ⟨rfl, rfl⟩ <;> rcases hz' with ⟨hname, rfl⟩ | ⟨hname, rfl⟩
    · exact hx
    · exact absurd hname (by decide)
    · exact absurd hname (by decide)
    · exact hy
  have hinner : (Value.struct t
      [(b, .list .opaque_ []), (a, .scalar (.string "true"))]).KeepsTags
      (.struct t [(b, .list ts []), (a, .scalar (.boolean true))]) :=
    htwo (.list (by simp)) (.scalar _ _)
  have hkeeps : v.KeepsTags u := by
    refine htwo (.list fun i x y hx hy ↦ ?_) (.scalar _ _)
    simp only [List.getElem?_singleton, Option.ite_none_right_eq_some, Option.some.injEq] at hx hy
    rw [← hx.2, ← hy.2]
    exact hinner
  have hbuilt := (@built_reorder_cast v w (.named t) schema .root orders h "b").2 rfl
  refine ⟨h, hcast, hkeeps, hbuilt, ?_⟩
  refine (reorder_cast_commute orders h (.named t) schema .root (fun u' hu' ↦ ?_) "b" w).1 hbuilt
  obtain rfl : u = u' := Except.ok.inj (hcast.symm.trans hu')
  exact hkeeps

end Pipeline

end ValueStream
