import ValueStream.Proofs.Pipeline.Row

/-!
# What a run shows

To its user a run shows the events that come to those who take notes, with the paths that are
reported to them, and what ended it; lines of the log are no part of this. What is shown behind an
element that notes no events is what the elements behind it show of what it hands on
(`outcome_cons`).
-/

namespace ValueStream

/-- Whether the note is of an event, and no line of the log. -/
def Note.isSeen : Note → Bool
  | seen .. => true
  | line _ => false

/-- The note without the path that was reported. -/
def Note.unplaced : Note → Note
  | seen id e _ => seen id e none
  | line text => line text

@[simp] theorem Note.isSeen_seen (id : String) (e : Event) (path : Option Path) :
    (seen id e path).isSeen = true := rfl

@[simp] theorem Note.isSeen_line (text : String) : (line text).isSeen = false := rfl

@[simp] theorem Note.unplaced_seen (id : String) (e : Event) (path : Option Path) :
    (seen id e path).unplaced = seen id e none := rfl

namespace Run

/-- The events that were noted. -/
def seen (r : Run) : List Note := r.notes.filter Note.isSeen

/-- The events that were noted, and what ended the run. -/
def outcome (r : Run) : List Note × Option Fault := (r.seen, r.fault)

@[simp] theorem seen_after (notes : List Note) (r : Run) :
    (r.after notes).seen = notes.filter Note.isSeen ++ r.seen := by
  simp [seen, after]

@[simp] theorem fault_after (notes : List Note) (r : Run) : (r.after notes).fault = r.fault := rfl

end Run

/-! ## Elements ahead -/

/-- Whether the element notes events. -/
def Element.notesEvents : Element → Bool
  | record _ | observer (.note _) => true
  | _ => false

theorem Element.passAll_debug (label : String) (inputs : List (Event × Option Path)) :
    (Element.debug label).passAll inputs = { handed := inputs, state := .debug label } := by
  induction inputs with
  | nil => rfl
  | cons input later ih =>
    obtain ⟨e, ahead⟩ := input
    rw [passAll] at ih
    rw [passAll, passAll_cons rfl]
    change Passage.behind _ (ValueStream.passAll _ (debug label) later) = _
    rw [ih]
    rfl

private theorem outcome_debug (label : String) (rest : List Element)
    (inputs : List (Event × Option Path)) :
    (sendRow (.debug label :: rest) inputs).outcome = (sendRow rest inputs).outcome := by
  induction inputs generalizing rest with
  | nil => rfl
  | cons input later ih =>
    obtain ⟨e, ahead⟩ := input
    have hdispatch : ∃ text, dispatch (rest.length + 1) (.debug label :: rest) ahead e =
        { elements := .debug label :: (dispatch rest.length rest ahead e).elements
          notes := .line text :: (dispatch rest.length rest ahead e).notes
          fault := (dispatch rest.length rest ahead e).fault } := by
      refine ⟨LogLine.text label ahead e.kind, ?_⟩
      rw [dispatch]
      rcases hrest : (dispatch rest.length rest ahead e).fault <;>
        simp [Element.step, Step.forward, handOn, hrest, Run.after]
    obtain ⟨text, hdispatch⟩ := hdispatch
    rw [sendRow, sendRow, List.length_cons, hdispatch]
    rcases hrest : (dispatch rest.length rest ahead e).fault with _ | fault
    · have hlater := ih (dispatch rest.length rest ahead e).elements
      simpa [Run.outcome] using hlater
    · simp [Run.outcome, Run.seen, hrest]

/-- Behind an element that notes no events is shown what the others show of what it hands on. -/
theorem outcome_cons {first : Element} (h : first.notesEvents = false) (rest : List Element)
    (inputs : List (Event × Option Path)) :
    let p := first.passAll inputs
    (sendRow (first :: rest) inputs).outcome =
      ((sendRow rest p.handed).seen, (sendRow rest p.handed).fault.or p.fault) := by
  have hquiet : first.isQuiet = true ∨ ∃ label, first = .debug label := by
    cases first with
    | debug label => exact .inr ⟨label, rfl⟩
    | record id => cases h
    | observer o => cases o <;> first | exact .inl rfl | cases h
    | _ => exact .inl rfl
  dsimp only
  obtain hquiet | ⟨label, rfl⟩ := hquiet
  · obtain ⟨last, -, hrow⟩ := sendRow_cons hquiet rest inputs
    rw [hrow]
    rfl
  · rw [outcome_debug, Element.passAll_debug, Option.or_none]
    rfl

/-- If nothing stops that element, it does not show. -/
theorem outcome_of_passes {first state : Element} (h : first.notesEvents = false)
    {inputs handed : List (Event × Option Path)}
    (hfirst : first.passAll inputs = { handed := handed, state := state }) (rest : List Element) :
    (sendRow (first :: rest) inputs).outcome = (sendRow rest handed).outcome := by
  rw [outcome_cons h, hfirst, Option.or_none]
  rfl

/-! ## The end of a row -/

/-- A note-taker and an observer behind it show events alike, but for the paths that are reported to
the note-taker. -/
theorem outcome_sink (id : String) (o : Observer) {xs ys : List (Event × Option Path)}
    (h : xs.map Prod.fst = ys.map Prod.fst) :
    (sendRow [.record id, .observer o] xs).seen.map Note.unplaced =
        (sendRow [.record id, .observer o] ys).seen.map Note.unplaced ∧
      (sendRow [.record id, .observer o] xs).fault =
        (sendRow [.record id, .observer o] ys).fault := by
  have hdispatch : ∀ (o : Observer) (e : Event), ∃ o' notes fault, ∀ ahead,
      dispatch 2 [.record id, .observer o] ahead e =
        { elements := [.record id, .observer o'], notes := .seen id e ahead :: notes
          fault := fault } := by
    intro o e
    rcases haccept : o.accept e with ⟨notes, o', _ | error⟩ <;>
      simp [dispatch, Element.step, Element.observerStep, haccept, Step.forward, Step.stop,
        Step.map, Delivery.map, handOn, Run.after]
  induction xs generalizing o ys with
  | nil =>
    obtain rfl : ys = [] := by simpa using h.symm
    exact ⟨rfl, rfl⟩
  | cons x xs ih =>
    obtain ⟨e, ahead⟩ := x
    obtain ⟨⟨e, ahead'⟩, ys, rfl, rfl, hlater⟩ := List.map_eq_cons_iff.1 h.symm
    obtain ⟨o', notes, fault, hnow⟩ := hdispatch o e
    rw [sendRow, sendRow]
    simp only [List.length_cons, List.length_nil, Nat.zero_add, Nat.reduceAdd, hnow]
    cases fault with
    | some fault => simp [Run.seen, List.filter_cons]
    | none =>
      obtain ⟨hseen, hfault⟩ := ih o' hlater.symm
      simp [List.filter_cons, hseen, hfault]

end ValueStream
