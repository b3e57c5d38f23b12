import ValueStream.Proofs.Checker.Outline
import ValueStream.Proofs.Checker.Passage

/-!
# Stages that follow a stream

A tracker and a stamper take in whatever comes and keep nothing but the nesting, so that they hand
every event on at the place where `Nesting.locate` finds it; a stamper writes the place, after its
start, on the event. A value leaves the nesting as it found it: the checker says so of its own
nesting, and without what that keeps for checks it is the same nesting.

The places behind a stamper follow its start, and a checker behind it reports the places from the
root on. So the events of a value after a start are compared with those from the root on, which are
stamped as after the start.
-/

namespace ValueStream

open Nesting

/-! ## From the root or after a start -/

namespace Value

variable (p : Path)

mutual

/-- The locations of the parts of a value in a larger one follow the location of the value. -/
theorem locatedEvents_append (q : Path) : ∀ v : Value,
    v.locatedEvents (p ++ q) = (v.locatedEvents q).map fun x ↦ (x.1, p ++ x.2)
  | scalar s => by simp [locatedEvents]
  | map fields => by simp [locatedEvents, locatedFields_append q fields]
  | list type elements => by simp [locatedEvents, locatedElements_append q 0 elements]
  | struct type fields => by simp [locatedEvents, locatedFields_append q fields]

theorem locatedElements_append (q : Path) (position : Nat) : ∀ elements : List Value,
    locatedElements (p ++ q) position elements =
      (locatedElements q position elements).map fun x ↦ (x.1, p ++ x.2)
  | [] => by simp [locatedElements]
  | v :: rest => by
    have hindex : (p ++ q).index position = p ++ q.index position := (Path.append_push ..).symm
    simp [locatedElements, hindex, locatedEvents_append _ v, locatedElements_append q _ rest]

theorem locatedFields_append (q : Path) : ∀ fields : List (Identifier × Value),
    locatedFields (p ++ q) fields = (locatedFields q fields).map fun x ↦ (x.1, p ++ x.2)
  | [] => by simp [locatedFields]
  | (name, v) :: rest => by
    have hfield : (p ++ q).field name = p ++ q.field name := (Path.append_push ..).symm
    simp [locatedFields, hfield, locatedEvents_append _ v, locatedFields_append q rest]

end

/-- The events of a value after a start are those from the root on, stamped as after the start. -/
theorem fst_placed_start (stamp : Path → Option Path) (v : Value) :
    (v.placed stamp p).map Prod.fst = (v.placed (fun q ↦ stamp (p ++ q)) .root).map Prod.fst := by
  have hlocated := v.locatedEvents_append p .root
  rw [Path.append_root] at hlocated
  simp [placed, stampAll, hlocated]

/-- The events of a value after a start, stamped with their places. -/
theorem placed_some (start : Path) (v : Value) :
    v.placed some start =
      (v.locatedEvents .root).map fun x ↦ (⟨x.1, some (start ++ x.2)⟩, start ++ x.2) := by
  have hlocated := v.locatedEvents_append start .root
  rw [Path.append_root] at hlocated
  simp [placed, stampAll, hlocated]

end Value

/-! ## The nesting after events -/

/-- The nesting after events in a row. -/
def Nesting.follow (n : Nesting) (es : List Event) : Nesting :=
  es.foldl (fun n e ↦ (n.enter e.kind).leave e.kind) n

/-- A checker follows what it accepts. -/
theorem Checker.bare_run {c d : Checker} {es : List Event}
    (h : c.run (es.map (·.kind)) = (d, none)) : d.nesting.bare = c.nesting.bare.follow es := by
  induction es generalizing c with
  | nil =>
    obtain rfl : c = d := congrArg Prod.fst h
    rfl
  | cons e es ih =>
    obtain ⟨haccepted, -⟩ := run_cons_eq_none_iff.1 (congrArg Prod.snd h)
    rw [List.map_cons, run_cons haccepted] at h
    rw [ih h, bare_leave, bare_enter_of_accepted haccepted]
    rfl

/-- Between values nothing is open. -/
theorem Nesting.follow_events {v : Value} (h : v.WellFormed) : follow [] v.events = [] :=
  (Checker.bare_run (Checker.run_events h)).symm

/-- Stamps do not matter to the nesting. -/
theorem Nesting.follow_congr {es es' : List Event} (h : es.map (·.kind) = es'.map (·.kind))
    {n : Nesting} : n.follow es = n.follow es' := by
  have hkinds : ∀ es : List Event, n.follow es =
      (es.map (·.kind)).foldl (fun n kind ↦ (n.enter kind).leave kind) n := fun es ↦ by
    rw [follow, List.foldl_map]
  rw [hkinds, hkinds, h]

/-- What is stamped on events does not depend on what was. -/
theorem Nesting.locate_stamp_congr (start : Path) {es es' : List Event}
    (h : es.map (·.kind) = es'.map (·.kind)) {n : Nesting} :
    (n.locate start es).map (fun x ↦ (x.1.stamp x.2, some x.2)) =
      (n.locate start es').map (fun x ↦ (x.1.stamp x.2, some x.2)) := by
  induction es generalizing n es' with
  | nil =>
    obtain rfl : es' = [] := by simpa using h.symm
    rfl
  | cons e es ih =>
    obtain ⟨e', es', rfl, hkind, hlater⟩ := List.map_eq_cons_iff.1 h.symm
    simp only [locate, List.map_cons, hkind, ih hlater.symm]
    simp [Event.stamp, hkind]

/-! ## Passages -/

/-- The passage through a stage that tracks the nesting and may change the events. -/
theorem passAll_nestingStep (start : Path) (change : Path → Event → Event) (n : Nesting)
    (inputs : List (Event × Option Path)) :
    passAll (fun n _ e ↦ Element.nestingStep n start e change) n inputs =
      { handed := (n.locate start (inputs.map Prod.fst)).map fun x ↦ (change x.2 x.1, some x.2)
        state := n.follow (inputs.map Prod.fst) } := by
  induction inputs generalizing n with
  | nil => rfl
  | cons input later ih =>
    obtain ⟨e, ahead⟩ := input
    rw [passAll_cons rfl, Element.nestingStep]
    simp only [Step.forward, ih]
    rfl

theorem Element.passAll_tracker (n : Nesting) (inputs : List (Event × Option Path)) :
    (Element.tracker n).passAll inputs =
      { handed := (n.locate .root (inputs.map Prod.fst)).map fun x ↦ (x.1, some x.2)
        state := .tracker (n.follow (inputs.map Prod.fst)) } := by
  rw [Element.passAll, passAll_map (fun _ _ _ ↦ rfl), passAll_nestingStep]
  rfl

theorem Element.passAll_stamper (start : Path) (n : Nesting)
    (inputs : List (Event × Option Path)) :
    (Element.stamper start n).passAll inputs =
      { handed := (n.locate start (inputs.map Prod.fst)).map fun x ↦ (x.1.stamp x.2, some x.2)
        state := .stamper start (n.follow (inputs.map Prod.fst)) } := by
  rw [Element.passAll, passAll_map (f := Element.stamper start) (fun _ _ _ ↦ rfl),
    passAll_nestingStep]
  rfl

/-- A stamper stamps the events of a value with the locations of its parts after the start, whatever
they are stamped with. -/
theorem Element.passAll_stamper_events {v : Value} (h : v.WellFormed) (start : Path)
    {inputs : List (Event × Option Path)}
    (hinputs : inputs.map (·.1.kind) = v.events.map (·.kind)) :
    (Element.stamper start []).passAll inputs =
      { handed := (v.placed some start).map fun x ↦ (x.1, some x.2)
        state := .stamper start [] } := by
  have hlocated := @locate_placed (fun _ ↦ none) start [] [] v
  have hnext : nextPath start [] = start := by simp [nextPath, nextElement]
  rw [hnext, List.append_nil, Value.fst_placed] at hlocated
  have hkinds : (inputs.map Prod.fst).map (·.kind) = v.events.map (·.kind) := by
    rwa [List.map_map]
  rw [passAll_stamper, follow_congr hkinds, follow_events h, locate_stamp_congr start hkinds,
    hlocated]
  simp [Value.placed, Value.stampAll, locate, Event.stamp]

/-- A tracker hands on the events of a value with the locations of its parts. -/
theorem Element.passAll_tracker_placed {v : Value} (h : v.WellFormed)
    (stamp : Path → Option Path) {inputs : List (Event × Option Path)}
    (hinputs : inputs.map Prod.fst = (v.placed stamp .root).map Prod.fst) :
    (Element.tracker []).passAll inputs =
      { handed := (v.placed stamp .root).map fun x ↦ (x.1, some x.2), state := .tracker [] } := by
  have hlocated := @locate_placed stamp .root [] [] v
  have hnext : nextPath .root [] = .root := by simp [nextPath, nextElement]
  rw [hnext, List.append_nil] at hlocated
  have hkinds : ((v.placed stamp .root).map Prod.fst).map (·.kind) = v.events.map (·.kind) := by
    rw [List.map_map, ← v.kinds_placed stamp .root]
    rfl
  rw [passAll_tracker, hinputs, follow_congr hkinds, follow_events h, hlocated, locate,
    List.append_nil]

end ValueStream
