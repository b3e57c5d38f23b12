import ValueStream.Proofs.Pipeline.CheckerFirst

/-!
# The first refusal ends a run

Whoever stands at the end of a row is shown what comes through the elements ahead, and may refuse an
event. What comes through does not depend on who is there: each element hands on what it makes of
its own inputs (`through`), and its inputs are what the one ahead of it hands on. So runs with
different users at the end are compared without looking into any element. A user that refuses an
event has been shown the events up to that one, of all that would have come, and the run returns its
error. A reorder that has many events to hand on at once is no exception: what would have followed
the one that is refused is shown to nobody.
-/

namespace ValueStream

variable {verdict : List Event → Option StreamError}

/-! ## What comes through a row -/

/-- What comes through elements in a row if nobody behind refuses it, and what stops one of them, if
something does. -/
def through : List Element → List (Event × Option Path) → List (Event × Option Path) × Option Fault
  | [], inputs => (inputs, none)
  | first :: rest, inputs =>
    let p := first.passAll inputs
    ((through rest p.handed).1, (through rest p.handed).2.or p.fault)

/-- A row runs like its later elements on what comes through the earlier ones. -/
theorem sendRow_append_row (row rest : List Element) (inputs : List (Event × Option Path)) :
    let r := sendRow rest (through row inputs).1
    ∃ ahead notes, sendRow (row ++ rest) inputs =
      { elements := ahead ++ r.elements, notes := notes
        fault := r.fault.or (through row inputs).2 } := by
  induction row generalizing inputs with
  | nil => exact ⟨[], _, by rw [through, Option.or_none]; rfl⟩
  | cons first row ih =>
    obtain ⟨ahead, notes, hbehind⟩ := ih (first.passAll inputs).handed
    obtain ⟨last, notes', -, -, hrow⟩ := sendRow_cons_notes first (row ++ rest) inputs
    rw [hbehind] at hrow
    refine ⟨last :: ahead, notes', ?_⟩
    rw [List.cons_append, hrow, through, List.cons_append, Option.or_assoc]

/-! ## A judge -/

/-- A judge, asked about events one after the other, refuses the one with a number, counted from
zero, and none before it. -/
structure RefusesFirst (verdict : List Event → Option StreamError) (events : List Event) (n : Nat)
    (error : StreamError) : Prop where
  /-- The event comes. -/
  comes : n < events.length
  /-- Those before it are accepted. -/
  accepts : ∀ m < n, verdict (events.take (m + 1)).reverse = none
  /-- It is refused. -/
  refuses : verdict (events.take (n + 1)).reverse = some error

theorem RefusesFirst.tail {e : Event} {events : List Event} {n : Nat} {error : StreamError}
    (h : RefusesFirst verdict (e :: events) (n + 1) error) :
    RefusesFirst (fun shown ↦ verdict (shown ++ [e])) events n error where
  comes := Nat.lt_of_succ_lt_succ h.comes
  accepts m hm := by simpa using h.accepts (m + 1) (Nat.succ_lt_succ hm)
  refuses := by simpa using h.refuses

theorem dispatch_judge (shown : List Event) (ahead : Option Path) (e : Event) :
    dispatch 1 [.observer (.judge verdict shown)] ahead e =
      { elements := [.observer (.judge verdict (e :: shown))]
        fault := (verdict (e :: shown)).map .error } := by
  cases h : verdict (e :: shown) <;>
    simp [dispatch, Element.step, Element.observerStep, Observer.accept, h, Step.forward,
      Step.stop, Step.map, Delivery.map, handOn, Run.after]

theorem sendRow_judge_cons (shown : List Event) (e : Event) (ahead : Option Path)
    (later : List (Event × Option Path)) :
    sendRow [.observer (.judge verdict shown)] ((e, ahead) :: later) =
      match verdict (e :: shown) with
      | some error =>
        { elements := [.observer (.judge verdict (e :: shown))], fault := some (.error error) }
      | none => sendRow [.observer (.judge verdict (e :: shown))] later := by
  rw [sendRow, List.length_singleton, dispatch_judge]
  cases verdict (e :: shown) <;> simp [Run.after]

/-- A judge that refuses an event has been shown that one last. -/
theorem sendRow_judge_of_refuses {shown : List Event} {inputs : List (Event × Option Path)}
    {n : Nat} {error : StreamError}
    (h : RefusesFirst (fun latest ↦ verdict (latest ++ shown)) (inputs.map Prod.fst) n error) :
    sendRow [.observer (.judge verdict shown)] inputs =
      { elements := [.observer (.judge verdict
          (((inputs.map Prod.fst).take (n + 1)).reverse ++ shown))]
        fault := some (.error error) } := by
  induction inputs generalizing shown n with
  | nil => exact absurd h.comes (Nat.not_lt_zero n)
  | cons input later ih =>
    obtain ⟨e, ahead⟩ := input
    rw [sendRow_judge_cons]
    cases n with
    | zero =>
      have hnow : verdict (e :: shown) = some error := by simpa using h.refuses
      simp [hnow]
    | succ n =>
      have hnow : verdict (e :: shown) = none := by simpa using h.accepts 0 n.succ_pos
      have hlater : RefusesFirst (fun latest ↦ verdict (latest ++ e :: shown))
          (later.map Prod.fst) n error := by simpa using h.tail
      simp [hnow, ih hlater]

/-- A judge that refuses nothing is shown everything. -/
theorem sendRow_judge_of_accepts {shown : List Event} {inputs : List (Event × Option Path)}
    (h : ∀ m < inputs.length,
      verdict (((inputs.map Prod.fst).take (m + 1)).reverse ++ shown) = none) :
    sendRow [.observer (.judge verdict shown)] inputs =
      { elements := [.observer (.judge verdict ((inputs.map Prod.fst).reverse ++ shown))] } := by
  induction inputs generalizing shown with
  | nil => rfl
  | cons input later ih =>
    obtain ⟨e, ahead⟩ := input
    have hnow : verdict (e :: shown) = none := by simpa using h 0 (Nat.succ_pos _)
    have hlater : ∀ m < later.length,
        verdict (((later.map Prod.fst).take (m + 1)).reverse ++ e :: shown) = none :=
      fun m hm ↦ by simpa using h (m + 1) (Nat.succ_lt_succ hm)
    rw [sendRow_judge_cons, hnow]
    simp [ih hlater]

/-! ## A judge behind stages -/

/-- The events that the judge at the end of the row was shown, in order. -/
def Run.shown (r : Run) : List Event :=
  match r.elements.getLast? with
  | some (.observer (.judge _ shown)) => shown.reverse
  | _ => []

namespace Pipeline

theorem joinAll_concat (p : Pipeline) (elements : List Element) {e : Element}
    (h : e.needsChecker = false) : p.joinAll (elements ++ [e]) = (p.joinAll elements).add e := by
  induction elements generalizing p with
  | nil =>
    rw [List.nil_append, joinAll_cons, if_neg (by simp [h])]
    rfl
  | cons first rest ih => rw [List.cons_append, joinAll_cons, joinAll_cons, ih]

variable (stages : List Element) (v : Value)

/-- What comes through the stages is shown to the judge behind them: of the run nothing else counts
for what the judge has been shown and what stops it. -/
theorem visit_judge {shown : List Event} {fault : Option Fault} :
    let came := through (ofElements stages).elements (v.events.map fun e ↦ (e, none))
    let r := (ofElements (stages ++ [.observer (.judge verdict [])])).visit v
    sendRow [.observer (.judge verdict [])] came.1 =
        { elements := [.observer (.judge verdict shown)], fault := fault } →
      r.shown = shown.reverse ∧ r.fault = fault.or came.2 := by
  intro came r hjudge
  have hsetUp : ofElements (stages ++ [.observer (.judge verdict [])]) =
      ⟨(ofElements stages).elements ++ [.observer (.judge verdict [])]⟩ :=
    joinAll_concat ⟨[]⟩ stages rfl
  obtain ⟨ahead, notes, hrow⟩ := sendRow_append_row (ofElements stages).elements
    [.observer (.judge verdict [])] (v.events.map fun e ↦ (e, none))
  have hr : r = { elements := ahead ++ [.observer (.judge verdict shown)], notes := notes
                  fault := fault.or came.2 } := by
    rw [hjudge] at hrow
    rw [← hrow, ← visit_eq_sendRow ⟨_⟩, ← hsetUp]
  rw [hr]
  exact ⟨by simp [Run.shown], rfl⟩

/-- **The first refusal ends a run.** Behind any stages, a user that refuses an event of a value has
been shown the events up to that one, of those that it would have been shown if it had refused none,
and no other event; and its error is what the run returns. -/
theorem refusal_ends_run (verdict : List Event → Option StreamError) :
    let run (verdict : List Event → Option StreamError) :=
      (ofElements (stages ++ [.observer (.judge verdict [])])).visit v
    let all := (run fun _ ↦ none).shown
    (∀ n error, RefusesFirst verdict all n error →
      (run verdict).fault = some (.error error) ∧ (run verdict).shown = all.take (n + 1)) ∧
      ((∀ m < all.length, verdict (all.take (m + 1)).reverse = none) →
        (run verdict).fault = (run fun _ ↦ none).fault ∧ (run verdict).shown = all) := by
  intro run all
  let came := through (ofElements stages).elements (v.events.map fun e ↦ (e, none))
  obtain ⟨hshownAll, hfaultAll⟩ := @visit_judge (fun _ ↦ none) stages v _ none
    (sendRow_judge_of_accepts fun _ _ ↦ rfl)
  have hall : all = came.1.map Prod.fst := by
    rw [List.append_nil, List.reverse_reverse] at hshownAll
    exact hshownAll
  rw [hall]
  constructor
  · intro n error h
    obtain ⟨hshown, hfault⟩ := @visit_judge verdict stages v _ _
      (@sendRow_judge_of_refuses verdict [] came.1 n error (by simpa using h))
    exact ⟨hfault, by simpa using hshown⟩
  · intro h
    obtain ⟨hshown, hfault⟩ := @visit_judge verdict stages v _ _
      (@sendRow_judge_of_accepts verdict [] came.1 (by simpa using h))
    exact ⟨hfault.trans hfaultAll.symm, by simpa using hshown⟩

/-- A user behind a reorder refuses the first event of a field that was held back, when the last
event of that field and the end of the struct have yet to come. -/
theorem refusal_ends_run_of_held :
    let a : Identifier := ⟨"a", by decide⟩
    let b : Identifier := ⟨"b", by decide⟩
    let t : QualifiedName := ⟨"m@v1", "T", by decide, by decide⟩
    let stages : List Element :=
      [.stamper .root [], .reorder { orders := fun _ ↦ [a, b] }, .debug "d"]
    let v : Value := .struct t [(b, .scalar (.string "x")), (a, .null)]
    let run (verdict : List Event → Option StreamError) :=
      (ofElements (stages ++ [.observer (.judge verdict [])])).visit v
    let all := (run fun _ ↦ none).shown
    let error : StreamError := .value .root (.refused 3)
    let verdict : List Event → Option StreamError :=
      fun shown ↦ if shown.length = 4 then some error else none
    all.map Event.text = ["struct-start m@v1/T", "field a @ a", "value null @ a", "field b @ b",
        "value \"x\" @ b", "end"] ∧
      RefusesFirst verdict all 3 error ∧ (run verdict).fault = some (.error error) ∧
      (run verdict).shown = all.take 4 := by
  intro a b t stages v run all error verdict
  have htexts : all.map Event.text = ["struct-start m@v1/T", "field a @ a", "value null @ a",
      "field b @ b", "value \"x\" @ b", "end"] := by
    decide +kernel
  have hlength : all.length = 6 := by simpa using congrArg List.length htexts
  have hrefuses : RefusesFirst verdict all 3 error := by
    constructor
    · omega
    · intro m hm
      simp only [verdict, List.length_reverse, List.length_take, hlength]
      exact if_neg (by omega)
    · simp [verdict, hlength]
  obtain ⟨hfault, hshown⟩ := (refusal_ends_run stages v verdict).1 3 error hrefuses
  exact ⟨htexts, hrefuses, hfault, hshown⟩

end Pipeline

end ValueStream
