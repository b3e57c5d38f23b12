import ValueStream.Pipeline.Blueprint
import ValueStream.Proofs.Stream.Tracker

/-!
# A checker and a tracker follow a stream alike

A checker and a tracker keep a nesting each, and the checker keeps more in its own: the fields of
each map so far and the field whose value is awaited. The two could come to differ, since the tracker
also follows what no checker accepts. What the checker accepts they follow alike. The relation that
every step keeps is that the tracker's nesting is the bare nesting of the checker: before an event,
while it is handed on, and after it (`dispatch_trackers`). So whoever asks for the path may ask
either of the two (`checker_agrees_with_tracker`).
-/

namespace ValueStream

open Nesting

variable (start : Path) (a b z : String)

/-- A checker, a tracker and a stamper, each with somebody behind it who notes the path that it
reports. -/
def trackers (c : Checker) (n m : Nesting) : List Element :=
  [.checker c, .record a, .tracker n, .record b, .stamper start m, .record z]

/-- What is noted of an event at a path if all report that path, the stamper after its start. -/
def agreement (x : Event × Path) : List Note :=
  [.seen a x.1 (some x.2), .seen b x.1 (some x.2),
    .seen z (x.1.stamp (start ++ x.2)) (some (start ++ x.2))]

/-- One event that the checker accepts: all three report the same path while it is handed on, and
the tracker and the stamper still have the checker's nesting when it has been handled. -/
theorem dispatch_trackers {c : Checker} {e : Event} (h : (c.enter e.kind).2 = none)
    (ahead : Option Path) :
    let d := (c.enter e.kind).1.leave e.kind
    dispatch 6 (trackers start a b z c c.nesting.bare c.nesting.bare) ahead e =
      { elements := trackers start a b z d d.nesting.bare d.nesting.bare
        notes := agreement start a b z (e, (c.nesting.bare.enter e.kind).path) } := by
  intro d
  have hpath : (c.enter e.kind).1.path = (c.nesting.bare.enter e.kind).path := by
    rw [← Checker.bare_enter_of_accepted h, path_bare]
    rfl
  have hafter : d.nesting.bare = (c.nesting.bare.enter e.kind).leave e.kind := by
    rw [Checker.bare_leave, Checker.bare_enter_of_accepted h]
  have hchecker : Element.checkerStep c e =
      .forward e (some (c.nesting.bare.enter e.kind).path) (c.enter e.kind).1 d := by
    rw [← hpath, Element.checkerStep]
    split <;> simp_all [d]
  rw [hafter]
  simp [trackers, agreement, dispatch, Element.step, hchecker, Element.nestingStep, Step.forward,
    Step.map, Delivery.map, handOn, Run.after, Event.stamp]

/-- Events in a row that the checker accepts. -/
theorem sendRow_trackers {c : Checker} {events : List Event}
    (h : (c.run (events.map (·.kind))).2 = none) :
    let d := (c.run (events.map (·.kind))).1
    sendRow (trackers start a b z c c.nesting.bare c.nesting.bare)
        (events.map fun e ↦ (e, none)) =
      { elements := trackers start a b z d d.nesting.bare d.nesting.bare
        notes := (c.nesting.bare.locate .root events).flatMap (agreement start a b z) } := by
  induction events generalizing c with
  | nil => rfl
  | cons e events ih =>
    obtain ⟨haccepted, hlater⟩ := Checker.run_cons_eq_none_iff.1 h
    have hnow := dispatch_trackers start a b z haccepted none
    have hsoon := ih hlater
    have hlength : ∀ c n m, (trackers start a b z c n m).length = 6 := fun _ _ _ ↦ rfl
    dsimp only at hnow hsoon ⊢
    rw [List.map_cons, List.map_cons, Checker.run_cons haccepted, sendRow, hlength, hnow]
    dsimp only
    rw [hsoon, Checker.bare_leave, Checker.bare_enter_of_accepted haccepted, locate,
      Path.root_append]
    rfl

namespace Pipeline

/-- **A checker and a tracker behind it report the same paths**, as long as the checker accepts what
comes. After any number of events, each of them has been handed on at a path that the checker and
the tracker both reported, stamped with the start of the stamper and then that path; and the paths
that the two report between events are the same as well. -/
theorem checker_agrees_with_tracker {top : TopType} {events : List Event}
    (h : (Checker.run { top := top } (events.map (·.kind))).2 = none) :
    ∀ past, past <+: events →
      let c := (Checker.run { top := top } (past.map (·.kind))).1
      let n := follow [] past
      (ofElements (trackers start a b z { top := top } [] [])).sendAll past =
          { elements := trackers start a b z c n n
            notes := (locate .root [] past).flatMap (agreement start a b z) } ∧
        c.path = n.path := by
  rintro past ⟨later, rfl⟩
  intro c n
  have hpast : (Checker.run { top := top } (past.map (·.kind))).2 = none := by
    rw [Checker.run_eq_none_iff, List.map_append] at h
    rw [Checker.run_eq_none_iff]
    exact h.of_isPrefix (List.prefix_append _ _)
  have hn : c.nesting.bare = n := Checker.bare_run (Prod.ext rfl hpast)
  have hrow := sendRow_trackers start a b z hpast
  have hsetUp : ofElements (trackers start a b z { top := top } [] []) =
      ⟨trackers start a b z { top := top } [] []⟩ := rfl
  constructor
  · rw [hsetUp, sendAll_eq_sendRow, ← hn]
    exact hrow
  · rw [← hn, path_bare]
    rfl

/-- The events of a list in a struct and of what follows it. -/
theorem checker_agrees_with_tracker_of_struct :
    let f : Identifier := ⟨"f", by decide⟩
    let g : Identifier := ⟨"g", by decide⟩
    let t : QualifiedName := ⟨"m@v1", "T", by decide, by decide⟩
    let events : List Event := [⟨.structStart t, none⟩, ⟨.fieldStart f, none⟩,
      ⟨.listStart .opaque_, none⟩, ⟨.value .null, none⟩, ⟨.value .null, none⟩, ⟨.close, none⟩,
      ⟨.fieldStart g, none⟩]
    let s : Path := Path.root.index 7
    let at_f : Path := Path.root.field f
    (Checker.run { top := .struct } (events.map (·.kind))).2 = none ∧
      ((ofElements (trackers s "a" "b" "z" { top := .struct } [] [])).sendAll events).notes =
        ([(⟨.structStart t, none⟩, .root), (⟨.fieldStart f, none⟩, at_f),
          (⟨.listStart .opaque_, none⟩, at_f), (⟨.value .null, none⟩, at_f.index 0),
          (⟨.value .null, none⟩, at_f.index 1), (⟨.close, none⟩, at_f),
          (⟨.fieldStart g, none⟩, Path.root.field g)] : List (Event × Path)).flatMap
            (agreement s "a" "b" "z") ∧
      (Checker.run { top := .struct } (events.map (·.kind))).1.path = Path.root.field g := by
  intro f g t events s at_f
  have h : (Checker.run { top := .struct } (events.map (·.kind))).2 = none := by decide +kernel
  obtain ⟨hrun, hpath⟩ := checker_agrees_with_tracker s "a" "b" "z" h events List.prefix_rfl
  exact ⟨h, congrArg Run.notes hrun, hpath⟩

end Pipeline

end ValueStream
