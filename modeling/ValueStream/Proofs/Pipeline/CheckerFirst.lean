import ValueStream.Proofs.Cast.Elsewhere
import ValueStream.Proofs.Pipeline.Outcome
import ValueStream.Proofs.Pipeline.Unbroken
import ValueStream.Proofs.Stream.Tracker

/-!
# A checker that is set up first

A pipeline sets up a checker right ahead of the first stage that needs one. If it is set up ahead of
all stages instead, the stages ahead of that stage stand behind it, and the paths that they report
are those that the stage and the others behind it go by. So it makes a difference only for paths: a
stamper with a start reports paths after its start, and a checker between it and the stage hides the
start (`hiddenStart`) from those who ask for the path (`asksPath`). If it hides none, the two
pipelines show the same, event for event and path for path, and end in the same error
(`checker_first`). Otherwise the same still holds but for paths, if the schemas of the casts make
nothing of them.
-/

namespace ValueStream

/-! ## Stages -/

/-- A stage other than a checker, before any event. -/
inductive PlainStage
  /-- Tracks the path. -/
  | tracker
  /-- Stamps events with their paths after a start. -/
  | stamper (start : Path)
  /-- Writes lines with a label to the log. -/
  | debug (label : String)
  /-- Puts the fields of structs in order. -/
  | reorder (orders : QualifiedName → List Identifier)
  /-- Casts the value at a path to a type. -/
  | cast (type : TypeRef) (schema : Schema) (start : Path)

namespace PlainStage

/-- The element of the stage. -/
def element : PlainStage → Element
  | tracker => .tracker []
  | stamper start => .stamper start []
  | debug label => .debug label
  | reorder orders => .reorder { orders := orders }
  | cast type schema start => .cast (.new type schema start)

/-- Whether the stage reports a path. -/
def reportsPath : PlainStage → Bool
  | debug _ => false
  | _ => true

/-- Whether the schema of the stage, if it casts, answers the same wherever it is asked. -/
def IgnoresPlaces : PlainStage → Prop
  | cast _ schema _ => schema.IgnoresPlaces
  | _ => True

/-- Whether somebody asks for the path that is reported ahead, before another stage reports paths of
its own: a cast does, and the user behind all stages. -/
def asksPath : List PlainStage → Bool
  | [] => true
  | cast .. :: _ => true
  | tracker :: _ => false
  | stamper _ :: _ => false
  | debug _ :: rest => asksPath rest
  | reorder _ :: rest => asksPath rest

/-- The start of the paths that are reported right ahead of the first stage that needs a checker, if
one does and somebody asks for them. A checker that is set up there hides it, and one that is set up
first does not. -/
def hiddenStart (start : Path) : List PlainStage → Path
  | [] => .root
  | tracker :: rest => hiddenStart .root rest
  | stamper start :: rest => hiddenStart start rest
  | debug _ :: rest => hiddenStart start rest
  | reorder _ :: rest => if asksPath rest then start else .root
  | cast .. :: _ => start

theorem element_isNew (s : PlainStage) : s.element.IsNew := by
  cases s <;> simp [element, Element.IsNew, Caster.new]

end PlainStage

/-! ## Where the checker is set up -/

/-- The elements with a checker right ahead of the first that needs one. -/
def withChecker : List Element → List Element
  | [] => []
  | e :: rest =>
    if e.needsChecker then .checker { top := .value } :: e :: rest else e :: withChecker rest

namespace Pipeline

/-- The pipeline that elements have joined in order. -/
def joinAll (p : Pipeline) (elements : List Element) : Pipeline :=
  (Wish.meetAll p ((elements.map .ofElement).map .add)).1

theorem joinAll_cons (p : Pipeline) (e : Element) (rest : List Element) :
    p.joinAll (e :: rest) =
      ((if e.needsChecker then p.ensureChecker else p).add e).joinAll rest := by
  have hsetUp : (Blueprint.ofElement e).setUp p =
      ((if e.needsChecker then p.ensureChecker else p).add e, []) := by
    cases e <;> rfl
  simp only [joinAll, List.map_cons, Wish.meetAll, Wish.meet, hsetUp]

theorem hasChecker_add (p : Pipeline) (e : Element) :
    (p.add e).hasChecker = (p.hasChecker || e.isChecker) := by
  simp [hasChecker, add]

/-- Behind a checker elements join as they are. -/
theorem joinAll_of_hasChecker {p : Pipeline} (h : p.hasChecker = true) (elements : List Element) :
    p.joinAll elements = ⟨p.elements ++ elements⟩ := by
  induction elements generalizing p with
  | nil => rw [List.append_nil]; rfl
  | cons e rest ih =>
    have hadd : (p.add e).hasChecker = true := by rw [hasChecker_add, h, Bool.true_or]
    rw [joinAll_cons, ensureChecker, if_pos h, ite_self, ih hadd, add, List.append_assoc]
    rfl

theorem joinAll_of_not_hasChecker {p : Pipeline} (h : p.hasChecker = false)
    {elements : List Element} (helements : ∀ e ∈ elements, e.isChecker = false) :
    p.joinAll elements = ⟨p.elements ++ withChecker elements⟩ := by
  induction elements generalizing p with
  | nil => rw [withChecker, List.append_nil]; rfl
  | cons e rest ih =>
    obtain ⟨he, hrest⟩ := List.forall_mem_cons.1 helements
    rw [joinAll_cons, withChecker]
    cases e.needsChecker with
    | true =>
      have hensure : p.ensureChecker = p.add (.checker { top := .value }) := by
        rw [ensureChecker, h]
        rfl
      have hadd : (p.ensureChecker.add e).hasChecker = true := by
        rw [hensure, hasChecker_add, hasChecker_add, Element.isChecker, Bool.or_true,
          Bool.true_or]
      rw [if_pos rfl, if_pos rfl, joinAll_of_hasChecker hadd, hensure]
      simp [add]
    | false =>
      have hadd : (p.add e).hasChecker = false := by rw [hasChecker_add, h, he, Bool.or_false]
      rw [if_neg Bool.false_ne_true, if_neg Bool.false_ne_true, ih hadd hrest]
      simp [add]

/-- A checker joins where the first element needs one. -/
theorem ofElements_eq_withChecker {elements : List Element}
    (h : ∀ e ∈ elements, e.isChecker = false) : ofElements elements = ⟨withChecker elements⟩ :=
  joinAll_of_not_hasChecker rfl h

/-- If a checker is listed first, no other one joins. -/
theorem ofElements_checker_cons (c : Checker) (rest : List Element) :
    ofElements (.checker c :: rest) = ⟨.checker c :: rest⟩ :=
  @joinAll_of_hasChecker ⟨[.checker c]⟩ rfl rest

end Pipeline

/-! ## The stages ahead of it -/

/-- The events of a value, stamped, and the paths that are reported with them, as its locations
say. -/
def reported (stamp report : Path → Option Path) (v : Value) : List (Event × Option Path) :=
  (v.placed stamp .root).map fun x ↦ (x.1, report x.2)

/-- Places after a start. -/
def placesAfter (start : Path) : Path → Option Path := fun p ↦ some (start ++ p)

@[simp] theorem placesAfter_root : placesAfter .root = some := by
  funext p
  simp [placesAfter]

section
variable {v : Value} (stamp report : Path → Option Path)

theorem fst_reported :
    (reported stamp report v).map Prod.fst = (v.placed stamp .root).map Prod.fst := by
  rw [reported, List.map_map]
  rfl

theorem passAll_checker_reported (h : v.WellFormed) :
    (Element.checker { top := .value }).passAll (reported stamp report v) =
      { handed := reported stamp some v, state := .checker { top := .value, done := true } } :=
  Element.passAll_checker_placed h stamp (fst_reported stamp report)

theorem passAll_tracker_reported (h : v.WellFormed) :
    (Element.tracker []).passAll (reported stamp report v) =
      { handed := reported stamp some v, state := .tracker [] } :=
  Element.passAll_tracker_placed h stamp (fst_reported stamp report)

theorem passAll_stamper_reported (h : v.WellFormed) (start : Path) :
    (Element.stamper start []).passAll (reported stamp report v) =
      { handed := reported (placesAfter start) (placesAfter start) v
        state := .stamper start [] } := by
  have hkinds : (reported stamp report v).map (·.1.kind) = v.events.map (·.kind) := by
    rw [reported, List.map_map, ← v.kinds_placed stamp .root]
    rfl
  rw [Element.passAll_stamper_events h start hkinds, Value.placed_some]
  simp [reported, Value.placed, Value.stampAll, placesAfter]

theorem beginsStream_reported (h : v.WellFormed) :
    BeginsStream .value (kindsOf (reported stamp report v)) := by
  have hkinds : kindsOf (reported stamp report v) = v.events.map (·.kind) := by
    rw [← v.kinds_placed stamp .root, kindsOf, reported, List.map_map]
    rfl
  rw [hkinds]
  exact ⟨⟨[], by rw [List.append_nil]; exact Value.isValueStream_events h⟩, fun _ _ ↦ rfl⟩

end

/-! ## Stages behind other paths -/

/-- The runs show the same, but for paths. -/
structure Run.SameElsewhere (r r' : Run) : Prop where
  /-- The events that were noted. -/
  seen : r.seen.map Note.unplaced = r'.seen.map Note.unplaced
  /-- What ended them. -/
  fault : r.fault.map (Fault.foundAt .root) = r'.fault.map (Fault.foundAt .root)

theorem Run.SameElsewhere.of_outcome {r r' s s' : Run} (h : s.SameElsewhere s')
    (hr : r.outcome = s.outcome) (hr' : r'.outcome = s'.outcome) : r.SameElsewhere r' := by
  obtain ⟨hseen, hfault⟩ := Prod.mk.inj hr
  obtain ⟨hseen', hfault'⟩ := Prod.mk.inj hr'
  exact ⟨by rw [hseen, hseen', h.seen], by rw [hfault, hfault', h.fault]⟩

section
variable {xs ys : List (Event × Option Path)}

theorem PlainStage.notesEvents_element (s : PlainStage) : s.element.notesEvents = false := by
  cases s <;> rfl

/-- Nothing stops a reorder where a stream has begun. -/
theorem passAll_reorder_begun (orders : QualifiedName → List Identifier)
    (hbegins : BeginsStream .value (kindsOf xs)) :
    (Element.reorder { orders := orders }).passAll xs =
      { handed := (Reorder.passage { orders := orders } xs).handed
        state := .reorder (Reorder.passage { orders := orders } xs).state } := by
  obtain ⟨hnone, -⟩ := Reorder.passage_begun orders hbegins
  rw [Element.passAll_reorder_eq_passage, Passage.map, hnone]

/-- It hands on the same events whatever paths are reported ahead. -/
theorem handed_reorder_elsewhere (orders : QualifiedName → List Identifier)
    (hxs : xs.map Prod.fst = ys.map Prod.fst) :
    (Reorder.passage { orders := orders } xs).handed.map Prod.fst =
      (Reorder.passage { orders := orders } ys).handed.map Prod.fst :=
  (@Reorder.passage_through id id (fun _ ↦ rfl) (fun _ ↦ rfl) { orders := orders }
    { orders := orders } rfl xs ys hxs).handed

theorem kindsOf_congr (hxs : xs.map Prod.fst = ys.map Prod.fst) : kindsOf xs = kindsOf ys := by
  have hmap := congrArg (List.map Event.kind) hxs
  rwa [List.map_map, List.map_map] at hmap

/-- Events come through a stage alike whatever paths are reported ahead. -/
theorem PlainStage.passAll_elsewhere {s : PlainStage} (h : s.IgnoresPlaces)
    (hxs : xs.map Prod.fst = ys.map Prod.fst) (hbegins : BeginsStream .value (kindsOf xs)) :
    (s.element.passAll xs).handed.map Prod.fst = (s.element.passAll ys).handed.map Prod.fst ∧
      (s.element.passAll xs).fault.map (Fault.foundAt .root) =
        (s.element.passAll ys).fault.map (Fault.foundAt .root) := by
  cases s with
  | tracker => simp [element, Element.passAll_tracker, hxs]
  | stamper start => simp [element, Element.passAll_stamper, hxs]
  | debug label => simp [element, Element.passAll_debug, hxs]
  | cast type schema start =>
    simp only [element, Element.passAll_cast_eq_passage]
    exact Caster.passage_elsewhere (Caster.new_ignoresPlaces type h start) hxs
  | reorder orders =>
    rw [element, passAll_reorder_begun orders hbegins,
      passAll_reorder_begun orders (kindsOf_congr hxs ▸ hbegins)]
    exact ⟨handed_reorder_elsewhere orders hxs, rfl⟩

/-- Stages show the same whatever paths are reported ahead, but for paths. -/
theorem sendRow_elsewhere {stages : List PlainStage} (h : ∀ s ∈ stages, s.IgnoresPlaces)
    (hxs : xs.map Prod.fst = ys.map Prod.fst) (hbegins : BeginsStream .value (kindsOf xs))
    (id : String) (o : Observer) :
    (sendRow (stages.map (·.element) ++ [.record id, .observer o]) xs).SameElsewhere
      (sendRow (stages.map (·.element) ++ [.record id, .observer o]) ys) := by
  induction stages generalizing xs ys with
  | nil =>
    obtain ⟨hseen, hfault⟩ := outcome_sink id o hxs
    exact ⟨hseen, congrArg _ hfault⟩
  | cons s stages ih =>
    obtain ⟨hs, hstages⟩ := List.forall_mem_cons.1 h
    obtain ⟨hhanded, hfault⟩ := s.passAll_elsewhere hs hxs hbegins
    have hbegins' := (Element.passAll_isNew s.element_isNew fun _ ↦ hbegins).2 (.inr hbegins)
    obtain ⟨hseen, hfault'⟩ := ih hstages hhanded hbegins'
    have hrow := fun zs ↦ outcome_cons s.notesEvents_element
      (stages.map (·.element) ++ [.record id, .observer o]) zs
    have hxrow := Prod.mk.inj (hrow xs)
    have hyrow := Prod.mk.inj (hrow ys)
    refine ⟨?_, ?_⟩
    · rw [List.map_cons, List.cons_append, hxrow.1, hyrow.1]
      exact hseen
    · rw [List.map_cons, List.cons_append, hxrow.2, hyrow.2, Option.map_or, Option.map_or, hfault,
        hfault']

/-- Where nobody asks for the paths that are reported ahead, they do not show. -/
theorem outcome_of_asksPath_eq_false {stages : List PlainStage}
    (h : PlainStage.asksPath stages = false) (hxs : xs.map Prod.fst = ys.map Prod.fst)
    (hbegins : BeginsStream .value (kindsOf xs)) (rest : List Element) :
    (sendRow (stages.map (·.element) ++ rest) xs).outcome =
      (sendRow (stages.map (·.element) ++ rest) ys).outcome := by
  induction stages generalizing xs ys with
  | nil => cases h
  | cons s stages ih =>
    cases s with
    | tracker =>
      have hpasses := fun zs ↦ outcome_of_passes rfl (Element.passAll_tracker [] zs)
      refine (hpasses xs _).trans (.trans ?_ (hpasses ys _).symm)
      rw [hxs]
    | stamper start =>
      have hpasses := fun zs ↦ outcome_of_passes rfl (Element.passAll_stamper start [] zs)
      refine (hpasses xs _).trans (.trans ?_ (hpasses ys _).symm)
      rw [hxs]
    | debug label =>
      have hpasses := fun zs ↦ outcome_of_passes rfl (Element.passAll_debug label zs)
      exact (hpasses xs _).trans ((ih h hxs hbegins).trans (hpasses ys _).symm)
    | reorder orders =>
      have hpasses := outcome_of_passes rfl (passAll_reorder_begun orders hbegins)
      have hpasses' := outcome_of_passes rfl
        (passAll_reorder_begun orders (kindsOf_congr hxs ▸ hbegins))
      obtain ⟨-, hbegins'⟩ := Reorder.passage_begun orders hbegins
      exact (hpasses _).trans
        ((ih h (handed_reorder_elsewhere orders hxs) hbegins').trans (hpasses' _).symm)
    | cast type schema start => cases h

end

/-! ## Both pipelines -/

section
variable {v : Value} (h : v.WellFormed) {stamp report : Path → Option Path} (id : String)
  (o : Observer)

include h

/-- A stage that needs a checker is reported the locations in the value. -/
theorem outcome_needsChecker {s : PlainStage} (hneeds : s.element.needsChecker = true)
    (stages : List PlainStage) :
    (sendRow (withChecker ((s :: stages).map (·.element) ++ [.record id, .observer o]))
        (reported stamp report v)).outcome =
      (sendRow ((s :: stages).map (·.element) ++ [.record id, .observer o])
        (reported stamp some v)).outcome := by
  rw [List.map_cons, List.cons_append, withChecker, if_pos hneeds]
  exact outcome_of_passes rfl (passAll_checker_reported stamp report h) _

/-- A checker that hides no start does not show. -/
theorem outcome_withChecker {start : Path} {stages : List PlainStage}
    (hstart : PlainStage.hiddenStart start stages = .root)
    (hreport : report = placesAfter start ∨ stages.any (·.reportsPath) = true) :
    (sendRow (withChecker (stages.map (·.element) ++ [.record id, .observer o]))
        (reported stamp report v)).outcome =
      (sendRow (stages.map (·.element) ++ [.record id, .observer o])
        (reported stamp (placesAfter start) v)).outcome := by
  induction stages generalizing start stamp report with
  | nil =>
    obtain rfl := hreport.resolve_right nofun
    rfl
  | cons s stages ih =>
    cases s with
    | tracker =>
      have hpasses := fun report ↦ passAll_tracker_reported stamp report h
      refine (outcome_of_passes rfl (hpasses report) _).trans
        (.trans ?_ (outcome_of_passes rfl (hpasses (placesAfter start)) _).symm)
      have hlater := @ih stamp some .root hstart (.inl placesAfter_root.symm)
      rwa [placesAfter_root] at hlater
    | stamper start' =>
      have hpasses := fun report ↦ passAll_stamper_reported stamp report h start'
      refine (outcome_of_passes rfl (hpasses report) _).trans
        (.trans ?_ (outcome_of_passes rfl (hpasses (placesAfter start)) _).symm)
      exact @ih (placesAfter start') (placesAfter start') start' hstart (.inl rfl)
    | debug label =>
      have hpasses := fun report ↦ Element.passAll_debug label (reported stamp report v)
      refine (outcome_of_passes rfl (hpasses report) _).trans
        (.trans ?_ (outcome_of_passes rfl (hpasses (placesAfter start)) _).symm)
      exact @ih stamp report start hstart hreport
    | reorder orders =>
      have hchecked := @outcome_needsChecker v h stamp report id o (.reorder orders) rfl stages
      cases hasks : PlainStage.asksPath stages with
      | true =>
        obtain rfl : start = .root := by simpa [PlainStage.hiddenStart, hasks] using hstart
        rwa [placesAfter_root]
      | false =>
        have hasks' : PlainStage.asksPath (.reorder orders :: stages) = false := hasks
        refine hchecked.trans (outcome_of_asksPath_eq_false hasks' ?_ ?_ _)
        · rw [fst_reported, fst_reported]
        · exact beginsStream_reported stamp some h
    | cast type schema start' =>
      obtain rfl : start = .root := hstart
      rw [placesAfter_root]
      exact outcome_needsChecker h id o rfl stages

/-- A checker does not show but for paths. -/
theorem elsewhere_withChecker {report' : Path → Option Path} {stages : List PlainStage}
    (hstages : ∀ s ∈ stages, s.IgnoresPlaces) :
    (sendRow (withChecker (stages.map (·.element) ++ [.record id, .observer o]))
        (reported stamp report v)).SameElsewhere
      (sendRow (stages.map (·.element) ++ [.record id, .observer o])
        (reported stamp report' v)) := by
  have hrow : ∀ (stages : List PlainStage) (stamp report report' : Path → Option Path),
      (∀ s ∈ stages, s.IgnoresPlaces) →
      (sendRow (stages.map (·.element) ++ [.record id, .observer o])
        (reported stamp report v)).SameElsewhere
      (sendRow (stages.map (·.element) ++ [.record id, .observer o])
        (reported stamp report' v)) := fun stages stamp report report' hstages ↦
    sendRow_elsewhere hstages (by rw [fst_reported, fst_reported])
      (beginsStream_reported stamp report h) id o
  induction stages generalizing stamp report report' with
  | nil => exact hrow [] stamp report report' hstages
  | cons s stages ih =>
    obtain ⟨-, hlater⟩ := List.forall_mem_cons.1 hstages
    cases s with
    | tracker =>
      have hpasses := fun report ↦ passAll_tracker_reported stamp report h
      exact (@ih stamp some some hlater).of_outcome (outcome_of_passes rfl (hpasses report) _)
        (outcome_of_passes rfl (hpasses report') _)
    | stamper start =>
      have hpasses := fun report ↦ passAll_stamper_reported stamp report h start
      exact (@ih (placesAfter start) (placesAfter start) (placesAfter start) hlater).of_outcome
        (outcome_of_passes rfl (hpasses report) _) (outcome_of_passes rfl (hpasses report') _)
    | debug label =>
      have hpasses := fun report ↦ Element.passAll_debug label (reported stamp report v)
      exact (@ih stamp report report' hlater).of_outcome
        (outcome_of_passes rfl (hpasses report) _) (outcome_of_passes rfl (hpasses report') _)
    | reorder orders =>
      exact (hrow _ stamp some report' hstages).of_outcome (outcome_needsChecker h id o rfl stages)
        rfl
    | cast type schema start =>
      exact (hrow _ stamp some report' hstages).of_outcome (outcome_needsChecker h id o rfl stages)
        rfl

end

/-- Where no stage reports a path, none needs a checker, and paths end no run. -/
theorem fault_withChecker {stages : List PlainStage}
    (hstages : stages.any (·.reportsPath) = false) (id : String) (o : Observer)
    {xs ys : List (Event × Option Path)} (hxs : xs.map Prod.fst = ys.map Prod.fst) :
    (sendRow (withChecker (stages.map (·.element) ++ [.record id, .observer o])) xs).fault =
      (sendRow (stages.map (·.element) ++ [.record id, .observer o]) ys).fault := by
  induction stages with
  | nil => exact (outcome_sink id o hxs).2
  | cons s stages ih =>
    obtain ⟨hs, hlater⟩ := Bool.or_eq_false_iff.1 (List.any_cons ▸ hstages)
    cases s with
    | debug label =>
      have hpasses := fun xs ↦ outcome_of_passes rfl (Element.passAll_debug label xs)
      exact (congrArg Prod.snd (hpasses xs _)).trans
        ((ih hlater).trans (congrArg Prod.snd (hpasses ys _)).symm)
    | tracker | stamper | reorder | cast => cases hs

namespace Pipeline

variable {v : Value}

/-- The events of a value come to stages and a user behind them, with a checker where it is needed.
-/
theorem visit_plainStages (stages : List PlainStage) (id : String) (o : Observer) :
    (ofElements (stages.map (·.element) ++ [.record id, .observer o])).visit v =
      sendRow (withChecker (stages.map (·.element) ++ [.record id, .observer o]))
        (reported (fun _ ↦ none) (fun _ ↦ none) v) := by
  have hcheckers : ∀ e ∈ stages.map (·.element) ++ [.record id, .observer o],
      e.isChecker = false := by
    simp only [List.mem_append, List.mem_map, List.mem_cons, List.not_mem_nil, or_false]
    rintro e (⟨s, -, rfl⟩ | rfl | rfl)
    · cases s <;> rfl
    · rfl
    · rfl
  rw [ofElements_eq_withChecker hcheckers, visit_eq_sendRow, reported,
    ← v.fst_placed .root, List.map_map]
  rfl

/-- They come to the stages behind a checker with the locations in the value. -/
theorem outcome_visit_checker (h : v.WellFormed) (row : List Element) :
    ((ofElements (.checker { top := .value } :: row)).visit v).outcome =
      (sendRow row (reported (fun _ ↦ none) some v)).outcome := by
  have hinputs : v.events.map (fun e ↦ (e, none)) =
      reported (fun _ ↦ none) (fun _ ↦ none) v := by
    rw [reported, ← v.fst_placed .root, List.map_map]
    rfl
  rw [ofElements_checker_cons, visit_eq_sendRow, hinputs]
  exact outcome_of_passes rfl (passAll_checker_reported _ _ h) row

/-- **A checker that is set up first shows only where one that is set up as needed would hide the
start of a stamper.** Otherwise the same events come to the user behind the stages and the same
error ends the run, at the same path; and the same paths are reported, if a stage reports any. In
any case nothing but paths differs, if schemas answer the same wherever they are asked. -/
theorem checker_first (h : v.WellFormed) (stages : List PlainStage) (id : String)
    (user : Observer) :
    let row := stages.map (·.element) ++ [.record id, .observer user]
    let asNeeded := (ofElements row).visit v
    let first := (ofElements (.checker { top := .value } :: row)).visit v
    (PlainStage.hiddenStart .root stages = .root →
      asNeeded.fault = first.fault ∧
        asNeeded.seen.map Note.unplaced = first.seen.map Note.unplaced ∧
        (stages.any (·.reportsPath) = true → asNeeded.seen = first.seen)) ∧
      ((∀ s ∈ stages, s.IgnoresPlaces) → asNeeded.SameElsewhere first) := by
  intro row asNeeded first
  have hasNeeded : asNeeded = sendRow (withChecker row) _ := visit_plainStages stages id user
  have hfirst : first.outcome = _ := outcome_visit_checker h row
  have helsewhere : (∀ s ∈ stages, s.IgnoresPlaces) → asNeeded.SameElsewhere first :=
    fun hstages ↦ (elsewhere_withChecker h id user hstages).of_outcome (by rw [hasNeeded]) hfirst
  refine ⟨fun hhidden ↦ ?_, helsewhere⟩
  cases hreports : stages.any (·.reportsPath) with
  | true =>
    have hsame := @outcome_withChecker v h (fun _ ↦ none) (fun _ ↦ none) id user .root stages
      hhidden (.inr hreports)
    rw [placesAfter_root, ← hasNeeded, ← hfirst] at hsame
    obtain ⟨hseen, hfault⟩ := Prod.mk.inj hsame
    exact ⟨hfault, congrArg _ hseen, fun _ ↦ hseen⟩
  | false =>
    have hstages : ∀ s ∈ stages, s.IgnoresPlaces := by
      intro s hs
      have hs := List.any_eq_false.1 hreports s hs
      cases s with
      | cast => exact absurd rfl hs
      | tracker | stamper | debug | reorder => trivial
    have hfault := fault_withChecker hreports id user
      ((fst_reported (fun _ ↦ none) (fun _ ↦ none)).trans (@fst_reported v _ some).symm)
    rw [← hasNeeded] at hfault
    exact ⟨hfault.trans (congrArg Prod.snd hfirst).symm, (helsewhere hstages).seen, nofun⟩

/-- Behind a stamper without a start, which hides nothing, and behind one with a start. -/
theorem checker_first_of_stamper :
    let a : Identifier := ⟨"a", by decide⟩
    let b : Identifier := ⟨"b", by decide⟩
    let t : QualifiedName := ⟨"m@v1", "T", by decide, by decide⟩
    let schema := SchemaTable.schema
      ⟨[(t, some ⟨[(a, .nullable (.core .boolean))], some (.core .boolean)⟩)], [], false⟩
    let v : Value := .struct t [(b, .scalar (.string "x")), (a, .null)]
    let row (start : Path) : List Element := [.stamper start [], .debug "d",
      .reorder { orders := fun _ ↦ [a, b] }, .cast (.new (.named t) schema .root), .record "n",
      .observer .discard]
    let asNeeded (start : Path) := (ofElements (row start)).visit v
    let first (start : Path) := (ofElements (.checker { top := .value } :: row start)).visit v
    v.WellFormed ∧
      ((asNeeded .root).fault = (first .root).fault ∧ (asNeeded .root).seen = (first .root).seen ∧
        (first .root).fault.isSome = true) ∧
      schema.IgnoresPlaces ∧
      ((asNeeded (Path.root.field a)).fault.map (Fault.foundAt .root) =
        (first (Path.root.field a)).fault.map (Fault.foundAt .root)) := by
  intro a b t schema v row asNeeded first
  have h : v.WellFormed := by
    simp [v, Value.WellFormed, Value.FieldsWellFormed, Value.null, Fields.keys, a, b]
  have hschema : schema.IgnoresPlaces := SchemaTable.ignoresPlaces _
  let stages (start : Path) : List PlainStage := [.stamper start, .debug "d",
    .reorder fun _ ↦ [a, b], .cast (.named t) schema .root]
  have hstages : ∀ s ∈ stages (Path.root.field a), s.IgnoresPlaces := by
    simp [stages, PlainStage.IgnoresPlaces, hschema]
  obtain ⟨hfault, -, hseen⟩ := (checker_first h (stages .root) "n" .discard).1 rfl
  obtain ⟨-, hkind⟩ := (checker_first h (stages (Path.root.field a)) "n" .discard).2 hstages
  exact ⟨h, ⟨hfault, hseen rfl, by decide +kernel⟩, hschema, hkind⟩

/-- **A checker that is set up where it is needed hides the start of a stamper**, so that a cast
behind it finds an error elsewhere; and where no stage needs one nobody reports a path. -/
theorem checker_first_shows_start :
    let s : Path := Path.root.field ⟨"s", by decide⟩
    let x : Value := .scalar (.string "x")
    let row : List Element := [.stamper s [],
      .cast (.new (.core (.integer .int32)) .empty .root), .record "n", .observer .discard]
    let asNeeded := (ofElements row).visit x
    let first := (ofElements (.checker { top := .value } :: row)).visit x
    let user : List Element := [.record "n", .observer .discard]
    let kind := ErrorKind.value (.notNumber (.integer .int32) "x")
    x.WellFormed ∧
      (asNeeded.fault = some (.error ⟨.root, kind⟩) ∧ first.fault = some (.error ⟨s, kind⟩) ∧
        asNeeded.fault ≠ first.fault) ∧
      ((ofElements user).visit x).seen = [.seen "n" ⟨.value x, none⟩ none] ∧
      ((ofElements (.checker { top := .value } :: user)).visit x).seen =
        [.seen "n" ⟨.value x, none⟩ (some .root)] := by
  intro s x row asNeeded first user kind
  have hasNeeded : asNeeded.fault = some (.error ⟨.root, kind⟩) :=
    (congrArg Run.fault (visit_eq_sendAll _ x)).trans rfl
  have hfirst : first.fault = some (.error ⟨s, kind⟩) :=
    (congrArg Run.fault (visit_eq_sendAll _ x)).trans rfl
  refine ⟨by simp [x, Value.WellFormed], ⟨hasNeeded, hfirst, fun hsame ↦ ?_⟩,
    (congrArg Run.seen (visit_eq_sendAll _ x)).trans rfl,
    (congrArg Run.seen (visit_eq_sendAll _ x)).trans rfl⟩
  rw [hasNeeded, hfirst, Option.some.injEq, Fault.error.injEq, StreamError.mk.injEq] at hsame
  exact absurd hsame.1 (by decide)

end Pipeline

end ValueStream
