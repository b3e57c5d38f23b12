import Mathlib.Tactic.SplitIfs
import ValueStream.Pipeline.Run

/-!
# Rows of elements

An element that stands in a row hands events on one at a time, and the elements behind it act on
each before the next one leaves. Nothing flows back but a refusal, which ends the run. So a row runs
like its first element alone and then the others on all that the first hands on: `sendRow_cons` says
so, and lets every statement about a pipeline be proved one element at a time.

What an element does alone is a `Passage`. It is defined for any machine of steps, so that a
passage through the machine is also one through the element that wraps it (`passAll_map`).
-/

namespace ValueStream

variable {σ τ : Type}

/-! ## Passages -/

/-- The events that a step hands on, each with the path that is reported meanwhile. -/
def Step.handed (s : Step σ) (ahead : Option Path) : List (Event × Option Path) :=
  s.deliveries.map fun d ↦ (d.event, d.path.or ahead)

/-- What a machine of steps makes of events in a row. -/
structure Passage (σ : Type) where
  /-- The events that it hands on, each with the path that is reported meanwhile. -/
  handed : List (Event × Option Path) := []
  /-- Its state in the end. -/
  state : σ
  /-- What stops it early, if something does. -/
  fault : Option Fault := none

/-- The passage after one that hands on the given events. -/
def Passage.behind (now : List (Event × Option Path)) (p : Passage σ) : Passage σ :=
  { p with handed := now ++ p.handed }

/-- The passage seen as one of a larger machine. -/
def Passage.map (f : σ → τ) (p : Passage σ) : Passage τ := ⟨p.handed, f p.state, p.fault⟩

/-- The passage of events, each with the path that is reported ahead, through a machine of steps. -/
def passAll (step : σ → Option Path → Event → Step σ) (s : σ) :
    List (Event × Option Path) → Passage σ
  | [] => { state := s }
  | (e, ahead) :: later =>
    let t := step s ahead e
    match t.fault with
    | some fault => ⟨t.handed ahead, t.state, some fault⟩
    | none => (passAll step t.state later).behind (t.handed ahead)

@[simp] theorem Passage.behind_behind (now soon : List (Event × Option Path)) (p : Passage σ) :
    (p.behind soon).behind now = p.behind (now ++ soon) := by
  simp [Passage.behind]

section
variable {step : σ → Option Path → Event → Step σ}

@[simp] theorem passAll_nil (s : σ) : passAll step s [] = { state := s } := rfl

theorem passAll_cons {s : σ} {ahead : Option Path} {e : Event}
    (h : (step s ahead e).fault = none) (later : List (Event × Option Path)) :
    passAll step s ((e, ahead) :: later)
      = (passAll step (step s ahead e).state later).behind ((step s ahead e).handed ahead) := by
  rw [passAll]
  simp only [h]

/-- A passage that nothing stops goes on from where it ends. -/
theorem passAll_append {s t : σ} {xs out : List (Event × Option Path)}
    (h : passAll step s xs = { handed := out, state := t })
    (ys : List (Event × Option Path)) :
    passAll step s (xs ++ ys) = (passAll step t ys).behind out := by
  induction xs generalizing s out with
  | nil =>
    obtain ⟨rfl, rfl⟩ : [] = out ∧ s = t := by simpa using h
    rfl
  | cons x xs ih =>
    obtain ⟨e, ahead⟩ := x
    cases hf : (step s ahead e).fault with
    | some fault => simp [passAll, hf] at h
    | none =>
      rw [passAll_cons hf] at h
      rw [List.cons_append, passAll_cons hf]
      obtain ⟨hout, hstate, hfault⟩ := Passage.mk.inj h
      have hxs : passAll step (step s ahead e).state xs
          = { handed := (passAll step (step s ahead e).state xs).handed, state := t } := by
        rw [← hstate, ← hfault]
      rw [ih hxs, Passage.behind_behind, hout]

/-- A machine inside a larger one passes events on as the larger one does. -/
theorem passAll_map {big : τ → Option Path → Event → Step τ} {f : σ → τ}
    (h : ∀ s ahead e, big (f s) ahead e = (step s ahead e).map f) (s : σ)
    (inputs : List (Event × Option Path)) :
    passAll big (f s) inputs = (passAll step s inputs).map f := by
  induction inputs generalizing s with
  | nil => rfl
  | cons x inputs ih =>
    obtain ⟨e, ahead⟩ := x
    have hhanded : (big (f s) ahead e).handed ahead = (step s ahead e).handed ahead := by
      simp [h, Step.handed, Step.map, Delivery.map]
    rw [passAll, passAll, hhanded, h]
    cases hf : (step s ahead e).fault with
    | some fault => simp [Step.map, Passage.map, hf]
    | none => simp [Step.map, hf, ih, Passage.behind, Passage.map]

end

/-- The passage of events through an element. -/
def Element.passAll (first : Element) (inputs : List (Event × Option Path)) : Passage Element :=
  ValueStream.passAll (fun e ahead event ↦ e.step ahead event) first inputs

/-! ## Rows -/

/-- Sends events, each with the path that is reported ahead, into elements in a row, up to the first
that ends in a fault. -/
def sendRow (elements : List Element) : List (Event × Option Path) → Run
  | [] => { elements := elements }
  | (e, ahead) :: later =>
    let r := dispatch elements.length elements ahead e
    match r.fault with
    | some _ => r
    | none => (sendRow r.elements later).after r.notes

/-- Behind the last element everything is accepted. -/
@[simp] theorem sendRow_nil (inputs : List (Event × Option Path)) :
    sendRow [] inputs = { elements := [] } := by
  induction inputs with
  | nil => rfl
  | cons input later ih =>
    rw [sendRow]
    simp [dispatch, ih, Run.after]

theorem Pipeline.sendAll_eq_sendRow (p : Pipeline) (es : List Event) :
    p.sendAll es = sendRow p.elements (es.map fun e ↦ (e, none)) := by
  induction es generalizing p with
  | nil => rfl
  | cons e es ih =>
    rw [Pipeline.sendAll, List.map_cons, sendRow, Pipeline.send, Pipeline.length]
    cases (dispatch p.elements.length p.elements none e).fault with
    | some _ => rfl
    | none => simp only [ih]

theorem Pipeline.visit_eq_sendRow (p : Pipeline) (v : Value) :
    p.visit v = sendRow p.elements (v.events.map fun e ↦ (e, none)) := by
  rw [visit_eq_sendAll, sendAll_eq_sendRow]

private theorem length_handOn {next : List Element → Option Path → Event → Run} {n : Nat}
    (hnext : ∀ rest ahead e, rest.length = n → (next rest ahead e).elements.length = n)
    (ahead : Option Path) (state : Element) (fault : Option Fault)
    (ds : List (Delivery Element)) (rest : List Element) (hrest : rest.length = n) :
    (handOn next ahead state fault ds rest).elements.length = n + 1 := by
  induction ds generalizing rest with
  | nil => simp [handOn, hrest]
  | cons d ds ih =>
    have hd := hnext rest (d.path.or ahead) d.event hrest
    rw [handOn]
    split
    · simp [hd]
    · simpa [Run.after] using ih _ hd

/-- Elements stay in their places: a run neither adds nor drops one. -/
theorem length_dispatch (n : Nat) (elements : List Element) (ahead : Option Path) (e : Event)
    (h : elements.length = n) : (dispatch n elements ahead e).elements.length = n := by
  induction n generalizing elements ahead e with
  | zero => simpa [dispatch] using h
  | succ n ih =>
    cases elements with
    | nil => simp at h
    | cons first rest =>
      rw [dispatch]
      simpa [Run.after] using
        length_handOn (fun rest ahead e h ↦ ih rest ahead e h) ahead _ _ _ rest (by simpa using h)

/-- A run that goes on where another one ended without a fault. -/
theorem sendRow_append (elements : List Element) (xs ys : List (Event × Option Path)) :
    sendRow elements (xs ++ ys) =
      match (sendRow elements xs).fault with
      | some _ => sendRow elements xs
      | none => (sendRow (sendRow elements xs).elements ys).after (sendRow elements xs).notes := by
  induction xs generalizing elements with
  | nil => simp [sendRow, Run.after]
  | cons x xs ih =>
    obtain ⟨e, ahead⟩ := x
    rw [List.cons_append, sendRow, sendRow]
    cases hf : (dispatch elements.length elements ahead e).fault with
    | some fault => simp [hf]
    | none =>
      simp only [ih, Run.after]
      split <;> simp [*]

/-- What an element hands on from one event goes through the elements behind it in a row. The state
of the element is the one it ends in unless an event is refused on the way. -/
private theorem handOn_eq (ahead : Option Path) (state : Element) (fault : Option Fault)
    (ds : List (Delivery Element)) (rest : List Element) :
    let r := sendRow rest (ds.map fun d ↦ (d.event, d.path.or ahead))
    ∃ last, (r.fault = none → last = state) ∧
      handOn (dispatch rest.length) ahead state fault ds rest =
        { elements := last :: r.elements, notes := r.notes, fault := r.fault.or fault } := by
  induction ds generalizing rest with
  | nil => exact ⟨state, fun _ ↦ rfl, rfl⟩
  | cons d ds ih =>
    rw [List.map_cons, sendRow, handOn]
    have hlength := length_dispatch rest.length rest (d.path.or ahead) d.event rfl
    cases hf : (dispatch rest.length rest (d.path.or ahead) d.event).fault with
    | some f => exact ⟨d.refused, by simp [hf], by simp [hf]⟩
    | none =>
      obtain ⟨last, hlast, heq⟩ :=
        ih (dispatch rest.length rest (d.path.or ahead) d.event).elements
      rw [hlength] at heq
      exact ⟨last, by simpa [hf, Run.after] using hlast, by simp [heq, Run.after]⟩

/-! ## The first element and the others -/

/-- Whether the element never takes notes. -/
def Element.isQuiet : Element → Bool
  | debug _ | record _ | observer (.note _) => false
  | _ => true

-- A reorder takes no notes, whichever way its step goes.

private theorem notes_release (r : Reorder) (f : OpenStruct) (outer : List OpenStruct)
    (turns : List Identifier) : (r.release f outer turns).notes = [] := by
  induction turns generalizing f outer with
  | nil => rfl
  | cons name turns ih =>
    rw [Reorder.release]
    split
    · rfl
    · exact ih _ _

private theorem notes_completeField (r : Reorder) (f : OpenStruct) (outer : List OpenStruct) :
    (r.completeField f outer).notes = [] := by
  cases hcurrent : f.current with
  | none => simp [Reorder.completeField, hcurrent, Step.stop]
  | some name =>
    cases hholding : f.holding with
    | none => simp [Reorder.completeField, hcurrent, hholding, notes_release]
    | some events => simp [Reorder.completeField, hcurrent, hholding, Step.stop]

private theorem notes_complete (r : Reorder) (kind : EventKind) :
    (r.complete kind).notes = [] := by
  fun_cases Reorder.complete r kind <;> first | rfl | exact notes_completeField _ _ _

private theorem notes_reorder (r : Reorder) (place : Path) (e : Event) :
    (r.step place e).notes = [] := by
  have hend : ∀ r : Reorder, ∀ f outer, (r.endStruct f outer place e).notes = [] := by
    intro r f outer
    rw [Reorder.endStruct]
    split
    · rfl
    · exact notes_complete _ _
  rw [Reorder.step]
  dsimp only
  split
  · rfl
  · split_ifs
    · exact hend _ _ _
    · split
      · rfl
      · exact notes_complete _ _

private theorem observerStep_eq (o : Observer) (e : Event) :
    (Element.observerStep o e).notes = (o.accept e).1 ∧
      (Element.observerStep o e).state = (o.accept e).2.1 := by
  rw [Element.observerStep]
  split <;> simp [*, Step.stop, Step.forward]

private theorem step_of_isQuiet {first : Element} (h : first.isQuiet = true) (ahead : Option Path)
    (e : Event) :
    (first.step ahead e).notes = [] ∧ (first.step ahead e).state.isQuiet = true := by
  cases first with
  | checker c => simp only [Element.step, Element.checkerStep]; split <;> exact ⟨rfl, rfl⟩
  | tracker n => exact ⟨rfl, rfl⟩
  | stamper start n => exact ⟨rfl, rfl⟩
  | cast c => simp only [Element.step, Element.castStep]; split <;> exact ⟨rfl, rfl⟩
  | reorder r => exact ⟨notes_reorder r _ e, rfl⟩
  | debug label => cases h
  | record id => cases h
  | filter passes => simp only [Element.step]; split <;> exact ⟨rfl, rfl⟩
  | relay => exact ⟨rfl, rfl⟩
  | observer o =>
    obtain ⟨hnotes, hstate⟩ := observerStep_eq o e
    cases o with
    | note id => cases h
    | discard => exact ⟨hnotes, rfl⟩
    | judge verdict shown | builder id b =>
      exact ⟨hnotes, by simp [Element.step, Step.map, hstate, Observer.accept, Element.isQuiet]⟩

/-- A row ends in the states and with the fault of its first element alone and then the others on
what it hands on. The notes are those of the others if the first element takes none. -/
theorem sendRow_cons_notes (first : Element) (rest : List Element)
    (inputs : List (Event × Option Path)) :
    let p := first.passAll inputs
    let r := sendRow rest p.handed
    ∃ last notes, (r.fault = none → last = p.state) ∧ (first.isQuiet = true → notes = r.notes) ∧
      sendRow (first :: rest) inputs =
        { elements := last :: r.elements, notes := notes, fault := r.fault.or p.fault } := by
  induction inputs generalizing first rest with
  | nil => exact ⟨first, [], fun _ ↦ rfl, fun _ ↦ rfl, rfl⟩
  | cons x later ih =>
    obtain ⟨e, ahead⟩ := x
    obtain ⟨last, hlast, hnow⟩ := handOn_eq ahead (first.step ahead e).state
      (first.step ahead e).fault (first.step ahead e).deliveries rest
    rw [← Step.handed] at hlast hnow
    have hrow : sendRow (first :: rest) ((e, ahead) :: later) =
        match (sendRow rest ((first.step ahead e).handed ahead)).fault.or
            (first.step ahead e).fault with
        | some fault =>
          { elements := last :: (sendRow rest ((first.step ahead e).handed ahead)).elements
            notes := (first.step ahead e).notes ++
              (sendRow rest ((first.step ahead e).handed ahead)).notes
            fault := some fault }
        | none =>
          (sendRow (last :: (sendRow rest ((first.step ahead e).handed ahead)).elements)
            later).after ((first.step ahead e).notes ++
              (sendRow rest ((first.step ahead e).handed ahead)).notes) := by
      rw [sendRow, List.length_cons, dispatch, hnow]
      simp only [Run.after]
      split <;> simp [*]
    dsimp only
    rw [hrow, Element.passAll, passAll]
    cases hfault : (first.step ahead e).fault with
    | some fault =>
      -- The element stops here, so that nothing but what it has just handed on counts.
      refine ⟨last, (first.step ahead e).notes ++
        (sendRow rest ((first.step ahead e).handed ahead)).notes, hlast,
        fun h ↦ by simp [(step_of_isQuiet h ahead e).1], ?_⟩
      cases hr : (sendRow rest ((first.step ahead e).handed ahead)).fault <;> simp
    | none =>
      -- The others have taken in all of this event before the next one comes.
      simp only [Passage.behind, sendRow_append, Option.or_none]
      cases hr : (sendRow rest ((first.step ahead e).handed ahead)).fault with
      | some fault =>
        exact ⟨last, (first.step ahead e).notes ++
          (sendRow rest ((first.step ahead e).handed ahead)).notes, by simp [hr],
          fun h ↦ by simp [(step_of_isQuiet h ahead e).1], by simp [hr]⟩
      | none =>
        obtain ⟨last', notes', hlast', hnotes', hlater⟩ :=
          ih (first.step ahead e).state (sendRow rest ((first.step ahead e).handed ahead)).elements
        rw [Element.passAll] at hlast' hnotes' hlater
        refine ⟨last', (first.step ahead e).notes ++
          (sendRow rest ((first.step ahead e).handed ahead)).notes ++ notes',
          by simpa [Run.after] using hlast', fun h ↦ ?_, ?_⟩
        · obtain ⟨hnotes, hquiet⟩ := step_of_isQuiet h ahead e
          simp [hnotes, hnotes' hquiet, Run.after]
        · simp [hlast hr, hlater, Run.after]

/-- **A row runs like its first element alone and then the others on what it hands on.** The first
fault is one of the others, if they meet one, and else the one that stops the first element. -/
theorem sendRow_cons {first : Element} (h : first.isQuiet = true) (rest : List Element)
    (inputs : List (Event × Option Path)) :
    let p := first.passAll inputs
    let r := sendRow rest p.handed
    ∃ last, (r.fault = none → last = p.state) ∧
      sendRow (first :: rest) inputs =
        { elements := last :: r.elements, notes := r.notes, fault := r.fault.or p.fault } := by
  obtain ⟨last, notes, hlast, hnotes, hrow⟩ := sendRow_cons_notes first rest inputs
  exact ⟨last, hlast, by rw [hrow, hnotes h]⟩

/-- If nothing stops its first element, a row runs like the others on what the first hands on. -/
theorem sendRow_cons_of_passes {first state : Element} (h : first.isQuiet = true)
    {inputs handed : List (Event × Option Path)}
    (hfirst : first.passAll inputs = { handed := handed, state := state }) (rest : List Element) :
    let r := sendRow rest handed
    ∃ last, (r.fault = none → last = state) ∧
      sendRow (first :: rest) inputs = { r with elements := last :: r.elements } := by
  obtain ⟨last, hlast, hrow⟩ := sendRow_cons h rest inputs
  rw [hfirst] at hlast hrow
  exact ⟨last, hlast, by simpa using hrow⟩

/-- If nothing stops the others either, nothing stops the row. -/
theorem sendRow_cons_of_passes_all {first state : Element} (h : first.isQuiet = true)
    {inputs handed : List (Event × Option Path)}
    (hfirst : first.passAll inputs = { handed := handed, state := state })
    {rest after : List Element} {notes : List Note}
    (hrest : sendRow rest handed = { elements := after, notes := notes }) :
    sendRow (first :: rest) inputs = { elements := state :: after, notes := notes } := by
  obtain ⟨last, hlast, hrow⟩ := sendRow_cons_of_passes h hfirst rest
  simp only [hrest] at hlast hrow
  rw [hrow, hlast trivial]

/-- The fault of a row is one of the others behind its first element, or else the one that stops the
first element. -/
theorem fault_sendRow_cons (first : Element) (rest : List Element)
    (inputs : List (Event × Option Path)) :
    (sendRow (first :: rest) inputs).fault =
      (sendRow rest (first.passAll inputs).handed).fault.or (first.passAll inputs).fault := by
  obtain ⟨last, notes, -, -, hrow⟩ := sendRow_cons_notes first rest inputs
  rw [hrow]

/-! ## Taking notes -/

/-- Somebody who takes notes notes what comes. -/
theorem sendRow_note (id : String) (inputs : List (Event × Option Path)) :
    sendRow [.observer (.note id)] inputs =
      { elements := [.observer (.note id)]
        notes := inputs.map fun input ↦ .seen id input.1 none } := by
  induction inputs with
  | nil => rfl
  | cons input later ih =>
    rw [sendRow]
    simp [dispatch, Element.step, Element.observerStep, Observer.accept, Step.forward, Step.map,
      Delivery.map, handOn, Run.after, ih]

/-- So does somebody who notes the paths reported ahead as well. -/
theorem sendRow_record (id : String) (inputs : List (Event × Option Path)) :
    sendRow [.record id] inputs =
      { elements := [.record id]
        notes := inputs.map fun input ↦ .seen id input.1 input.2 } := by
  induction inputs with
  | nil => rfl
  | cons input later ih =>
    rw [sendRow]
    simp [dispatch, Element.step, Step.forward, handOn, Run.after, ih]

end ValueStream
