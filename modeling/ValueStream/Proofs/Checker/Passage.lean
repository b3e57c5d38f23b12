import ValueStream.Proofs.Checker.Language
import ValueStream.Proofs.Pipeline.Row
import ValueStream.Proofs.Stream.Grammar
import ValueStream.Proofs.Stream.Located

/-!
# What passes a checker

In a pipeline a checker hands on what it accepts, each event at its place, and stops at the event
that it refuses. What it keeps for its checks, the fields seen and the field whose value is awaited,
is of no account for the places: without it (`Nesting.bare`) the checker follows the stream like any
other stage. So the events of a well-formed value pass with the locations of its parts.
-/

namespace ValueStream

open Nesting

/-! ## Places -/

/-- The frame without what a map keeps for checks. -/
def Frame.bare : Frame → Frame
  | map _ _ => map none []
  | f => f

/-- The nesting without what maps keep for checks. -/
def Nesting.bare (n : Nesting) : Nesting := n.map Frame.bare

namespace Nesting

@[simp] theorem path_bare (n : Nesting) : n.bare.path = n.path := by
  induction n with
  | nil => rfl
  | cons f n ih =>
    have hcons : bare (f :: n) = f.bare :: bare n := rfl
    rw [hcons, path_cons, path_cons, ih]
    cases f <;> rfl

theorem bare_nextElement (n : Nesting) : bare n.nextElement = n.bare.nextElement := by
  rcases n with _ | ⟨_ | (_ | _) | _, n⟩ <;> rfl

theorem bare_closeField (n : Nesting) : bare n.closeField = n.bare.closeField := by
  rcases n with _ | ⟨_ | _ | _, n⟩ <;> rfl

theorem bare_enter (n : Nesting) (kind : EventKind) : bare (n.enter kind) = n.bare.enter kind := by
  cases kind with
  | close => rcases n with _ | ⟨f, n⟩ <;> rfl
  | fieldStart name => rfl
  | value v => exact bare_nextElement n
  | listStart type | mapStart | structStart type =>
    exact congrArg (List.cons _) (bare_nextElement n)

theorem bare_settle (n : Nesting) : bare (Checker.settle n) = n.bare := by
  rcases n with _ | ⟨_ | _ | _, n⟩ <;> rfl

end Nesting

namespace Checker

/-- An accepted event is followed as a stage follows it that does not check. -/
theorem bare_enter_of_accepted {c : Checker} {kind : EventKind} (h : (c.enter kind).2 = none) :
    (c.enter kind).1.nesting.bare = c.nesting.bare.enter kind := by
  cases kind with
  | fieldStart name =>
    obtain ⟨seen, n, -, hn, -, henter⟩ := enter_fieldStart_inv h
    rw [henter, hn]
    rfl
  | close =>
    obtain ⟨f, n, -, hn, -, henter⟩ := enter_close_inv h
    rw [henter, hn]
    rfl
  | value v | listStart type | mapStart | structStart type =>
    rw [enter_eq_of_awaits (awaits_of_enter h (by simp) (by simp)) (by simp) (by simp)]
    simp only [bare_enter]

theorem bare_leave (c : Checker) (kind : EventKind) :
    (c.leave kind).nesting.bare = c.nesting.bare.leave kind := by
  cases hkind : kind.completesValue <;>
    simp [Checker.leave, Nesting.leave, hkind, bare_settle, bare_closeField]

/-! ## Passages -/

/-- The passage of events through a checker. -/
def passage (c : Checker) (inputs : List (Event × Option Path)) : Passage Checker :=
  passAll (fun c _ e ↦ Element.checkerStep c e) c inputs

theorem passage_cons_accepted {c : Checker} {e : Event} (h : (c.enter e.kind).2 = none)
    (ahead : Option Path) (later : List (Event × Option Path)) :
    c.passage ((e, ahead) :: later) =
      (((c.enter e.kind).1.leave e.kind).passage later).behind
        [(e, some (c.enter e.kind).1.path)] := by
  have hstep : Element.checkerStep c e = .forward e (some (c.enter e.kind).1.path)
      (c.enter e.kind).1 ((c.enter e.kind).1.leave e.kind) := by
    rw [Element.checkerStep]
    split <;> simp_all
  rw [passage, passAll_cons (by rw [hstep]; rfl)]
  simp only [hstep]
  rfl

/-- Whether a checker in a pipeline stops, and in which state, is what it decides by itself. -/
theorem passage_state_fault (c : Checker) (inputs : List (Event × Option Path)) :
    ((c.passage inputs).state, (c.passage inputs).fault) =
      c.run (inputs.map fun input ↦ input.1.kind) := by
  induction inputs generalizing c with
  | nil => rfl
  | cons input later ih =>
    obtain ⟨e, ahead⟩ := input
    rcases henter : c.enter e.kind with ⟨d, _ | fault⟩
    · rw [passage_cons_accepted (by rw [henter]), List.map_cons, run_cons (by rw [henter]), ← ih]
      rfl
    · simp [passage, passAll, Element.checkerStep, henter, Step.stop, run]

/-- What a checker accepts it hands on, each event with its place. -/
theorem handed_passage {c : Checker} {inputs : List (Event × Option Path)}
    (h : (c.passage inputs).fault = none) :
    (c.passage inputs).handed =
      (c.nesting.bare.locate .root (inputs.map Prod.fst)).map fun x ↦ (x.1, some x.2) := by
  induction inputs generalizing c with
  | nil => rfl
  | cons input later ih =>
    obtain ⟨e, ahead⟩ := input
    have haccepted : (c.enter e.kind).2 = none := by
      have hrun := congrArg Prod.snd (passage_state_fault c ((e, ahead) :: later))
      rw [h, List.map_cons, run] at hrun
      split at hrun <;> simp_all
    rw [passage_cons_accepted haccepted] at h ⊢
    simp only [Passage.behind, ih h, List.map_cons, locate, ← bare_enter_of_accepted haccepted,
      ← bare_leave, path_bare, Path.root_append]
    rfl

theorem fst_handed_passage {c : Checker} {inputs : List (Event × Option Path)}
    (h : (c.passage inputs).fault = none) :
    (c.passage inputs).handed.map Prod.fst = inputs.map Prod.fst := by
  rw [handed_passage h, List.map_map]
  exact fst_locate .root c.nesting.bare _

/-- The events of a well-formed value are accepted, and with the last of them the check is done. -/
theorem run_events {v : Value} (h : v.WellFormed) :
    Checker.run { top := .value } (v.events.map (·.kind)) =
      ({ top := .value, done := true }, none) := by
  rw [← List.append_nil (List.map _ _)]
  exact run_of_isValueStream (Value.isValueStream_events h) (fun _ _ ↦ rfl) []

/-- They pass with the locations of the parts of the value, whatever they are stamped with. -/
theorem passage_placed {v : Value} (h : v.WellFormed) (stamp : Path → Option Path)
    {inputs : List (Event × Option Path)}
    (hinputs : inputs.map Prod.fst = (v.placed stamp .root).map Prod.fst) :
    Checker.passage { top := .value } inputs =
      { handed := (v.placed stamp .root).map fun x ↦ (x.1, some x.2)
        state := { top := .value, done := true } } := by
  -- The grammar gives the state, and the places come from the nesting without what it checks.
  have hkinds : inputs.map (·.1.kind) = v.events.map (·.kind) := by
    have hmap := congrArg (List.map Event.kind) hinputs
    rw [List.map_map, List.map_map] at hmap
    rw [← v.kinds_placed stamp .root]
    exact hmap
  have hpassage := passage_state_fault { top := .value } inputs
  rw [hkinds, run_events h] at hpassage
  obtain ⟨hstate, hfault⟩ := Prod.mk.inj hpassage
  have hlocated := @locate_placed stamp .root [] [] v
  have hnext : nextPath .root [] = .root := by simp [nextPath, nextElement]
  rw [hnext, List.append_nil] at hlocated
  have hhanded := handed_passage hfault
  rw [hinputs] at hhanded
  change _ = (locate .root [] _).map _ at hhanded
  rw [hlocated, locate, List.append_nil] at hhanded
  rw [← hhanded, ← hstate, ← hfault]

end Checker

/-- A checker in a pipeline does what it does by itself. -/
theorem Element.passAll_checker (c : Checker) (inputs : List (Event × Option Path)) :
    (Element.checker c).passAll inputs = (c.passage inputs).map .checker :=
  passAll_map (fun _ _ _ ↦ rfl) c inputs

/-- The events of a value pass a checker in a pipeline with the locations of its parts. -/
theorem Element.passAll_checker_placed {v : Value} (h : v.WellFormed)
    (stamp : Path → Option Path) {inputs : List (Event × Option Path)}
    (hinputs : inputs.map Prod.fst = (v.placed stamp .root).map Prod.fst) :
    (Element.checker { top := .value }).passAll inputs =
      { handed := (v.placed stamp .root).map fun x ↦ (x.1, some x.2)
        state := .checker { top := .value, done := true } } := by
  rw [passAll_checker, Checker.passage_placed h stamp hinputs]
  rfl

theorem Element.passAll_checker_events {v : Value} (h : v.WellFormed) :
    (Element.checker { top := .value }).passAll (v.events.map fun e ↦ (e, none)) =
      { handed := (v.placed (fun _ ↦ none) .root).map fun x ↦ (x.1, some x.2)
        state := .checker { top := .value, done := true } } :=
  passAll_checker_placed h _
    (by rw [Value.fst_placed, List.map_map, Function.comp_def, List.map_id'])

/-! ## Acceptance -/

/-- A pipeline with nothing behind a checker runs as the checker does. -/
theorem Pipeline.sendAll_checker (c : Checker) (es : List Event) :
    Pipeline.sendAll ⟨[.checker c]⟩ es =
      { elements := [.checker (c.run (es.map (·.kind))).1]
        fault := (c.run (es.map (·.kind))).2 } := by
  have hpassage := c.passage_state_fault (es.map fun e ↦ (e, none))
  rw [List.map_map, Function.comp_def] at hpassage
  obtain ⟨last, hlast, hrow⟩ :=
    @sendRow_cons (.checker c) rfl [] (es.map fun e ↦ (e, none))
  rw [sendRow_nil, Element.passAll_checker] at hlast hrow
  rw [Pipeline.sendAll_eq_sendRow, hrow, hlast rfl, ← hpassage]
  rfl

/-- **A checker accepts exactly the grammar.** In front of stages that accept everything it accepts
the events that a stream of its shape begins with; it is done from the event on that completes the
value, and then refuses whatever comes; and a field never finds it with another one pending. -/
theorem Pipeline.checker_accepts_grammar (top : TopType) (es : List Event) :
    ∃ c : Checker, (Pipeline.sendAll ⟨[.checker { top := top }]⟩ es).elements = [.checker c] ∧
      ((Pipeline.sendAll ⟨[.checker { top := top }]⟩ es).fault = none ↔
        BeginsStream top (es.map (·.kind))) ∧
      (c.done = true ↔ ∃ complete rest, es.map (·.kind) = complete ++ rest ∧
        IsValueStream complete ∧ ∀ first ∈ complete.head?, top.admits first = true) ∧
      (∀ e, c.done = true → Pipeline.sendAll ⟨[.checker c]⟩ [e] =
        { elements := [.checker c]
          fault := some (.error (.structural .root (.afterEnd (Checker.callName e.kind)))) }) ∧
      ∀ i, (Pipeline.sendAll ⟨[.checker { top := top }]⟩ es).fault ≠ some (.broken i) := by
  simp only [Pipeline.sendAll_checker]
  refine ⟨_, rfl, Checker.run_eq_none_iff top _, Checker.done_run_iff top _, ?_,
    Checker.run_ne_broken top _⟩
  intro e hdone
  rw [List.map_singleton, Checker.run_cons_of_done hdone, Checker.run_eq_of_done hdone]
  rfl

end ValueStream
