import ValueStream.Proofs.Pipeline.Row
import ValueStream.Proofs.Reorder.Send

/-!
# What one event does to a reorder

While a field is in progress a reorder only sends what comes and counts what is open in the field,
so that the innermost struct hears of the end of the value; a part that is open in between makes no
difference to that (`complete_close_deepen`). Fields and ends that belong to the innermost struct
itself are for the struct to decide, and have a lemma each.
-/

namespace ValueStream

/-- The step changes the state without a fault and hands events on from their places. -/
structure Step.Yields (s : Step Reorder) (r : Reorder) (out : List (Event × Path)) : Prop where
  /-- The state. -/
  state : s.state = r
  /-- Nothing stops it. -/
  fault : s.fault = none
  /-- The events, which are handed on with their places whatever is reported ahead. -/
  handed : ∀ ahead, s.handed ahead = out.map fun x ↦ (x.1, some x.2)

namespace Reorder

variable {r r' : Reorder} {frames : List OpenStruct} {out : List (Event × Path)}

theorem yields_stop (r : Reorder) : (Step.stop none r).Yields r [] := ⟨rfl, rfl, fun _ ↦ rfl⟩

/-- Events that are sent first are handed on first. -/
theorem yields_sendFirst {s : Step Reorder} (h : s.Yields r' out) (refused : Reorder)
    (now : List (Event × Path)) :
    Step.Yields { s with deliveries := deliveries refused now ++ s.deliveries } r'
      (now ++ out) := by
  refine ⟨h.state, h.fault, fun ahead ↦ ?_⟩
  have hout := h.handed ahead
  simp only [Step.handed] at hout
  simp [Step.handed, deliveries, hout]

theorem sendThenComplete_yields {kind : EventKind} {now : List (Event × Path)}
    (h : (complete { r with frames := frames } kind).Yields r' out) :
    (r.sendThenComplete now frames kind).Yields r' (now ++ out) :=
  yields_sendFirst h _ now

/-! ## Completing -/

/-- Any value is as good as another to note that the value of a field is complete. -/
theorem complete_value (r : Reorder) (v w : Value) :
    r.complete (.value v) = r.complete (.value w) := by
  rw [complete, complete]

theorem complete_start (r : Reorder) {kind : EventKind}
    (hkind : kind = .mapStart ∨ ∃ type, kind = .listStart type) :
    (r.complete kind).Yields { r with frames := deepen r.frames } [] := by
  obtain ⟨orders, frames⟩ := r
  rcases hkind with rfl | ⟨type, rfl⟩ <;> cases frames <;> exact yields_stop _

/-- A field opens nothing, and a struct has opened what it opens before it is sent. -/
theorem complete_of_opened (r : Reorder) {kind : EventKind}
    (hkind : (∃ name, kind = .fieldStart name) ∨ ∃ type, kind = .structStart type) :
    (r.complete kind).Yields r [] := by
  obtain ⟨orders, frames⟩ := r
  rcases hkind with ⟨name, rfl⟩ | ⟨type, rfl⟩ <;> cases frames <;> exact yields_stop _

/-- Inside a part that is open in a field a value does not complete the field. -/
theorem complete_value_deepen (r : Reorder) (frames : List OpenStruct) (v : Value) :
    (complete { r with frames := deepen frames } (.value v)).Yields
      { r with frames := deepen frames } [] := by
  cases frames with
  | nil => exact yields_stop _
  | cons f outer => exact yields_stop _

theorem release_congr {s : Reorder} (h : r.orders = s.orders) (f : OpenStruct)
    (outer : List OpenStruct) (turns : List Identifier) :
    r.release f outer turns = s.release f outer turns := by
  induction turns generalizing f outer with
  | nil => simp [release, h]
  | cons name turns ih =>
    rw [release, release, h]
    cases f.takeHeld name with
    | none => rfl
    | some taken => simp only [ih]

/-- Only the frames that are given count. -/
theorem completeField_congr {s : Reorder} (h : r.orders = s.orders) (f : OpenStruct)
    (outer : List OpenStruct) : r.completeField f outer = s.completeField f outer := by
  rw [completeField, completeField, h]
  split
  · rfl
  · simp only [release_congr h]

/-- The end of a part that is open in a field completes a value of the field. -/
theorem complete_close_deepen (r : Reorder) (frames : List OpenStruct) (v : Value) :
    complete { r with frames := deepen frames } .close =
      complete { r with frames := frames } (.value v) := by
  obtain _ | ⟨f, outer⟩ := frames
  · rfl
  · -- The end takes the depth of the frame back to what it was without the part.
    obtain ⟨order, base, next, forwarded, held, holding, current, _ | depth⟩ := f
    · simp only [complete, deepen, Nat.zero_add, if_true]
      exact completeField_congr (by rfl) _ _
    · rfl

/-! ## Steps -/

/-- While a field is in progress an event is sent, and then counted. -/
theorem step_inField {place : Path} {e : Event} (hr : InField r.frames)
    (hkind : ∀ type, e.kind ≠ .structStart type)
    (hclose : e.kind = .close → ∀ f ∈ r.frames.head?, f.depth ≠ 0)
    (h : (complete { r with frames := (send r.frames place e).1 } e.kind).Yields r' out) :
    (r.step place e).Yields r' ((send r.frames place e).2 ++ out) := by
  have hopen : r.openStruct place e.kind = r := by
    unfold openStruct
    split
    · next type heq => exact absurd heq (hkind type)
    · rfl
  obtain ⟨orders, _ | ⟨f, outer⟩⟩ := r
  · -- Without a frame a reorder hands every event on and counts nothing.
    obtain ⟨hstate, -, hhanded⟩ := h
    have hout : out = [] := by
      simpa [send, hold, complete, Step.stop, Step.handed] using hhanded none
    subst hout hstate
    simp only [step, hopen]
    exact ⟨rfl, rfl, fun _ ↦ rfl⟩
  · have hcurrent := inField_cons.1 hr
    have hreceive : f.receive place e.kind = (f, none) := by
      unfold OpenStruct.receive
      split <;> simp_all
    simp only [step, hopen, hreceive]
    split
    · next hend =>
      rw [if_neg (by simpa using hclose hend f rfl)]
      exact sendThenComplete_yields h
    · rw [if_neg (by simp)]
      exact sendThenComplete_yields h

/-- A field of a map that is open in a field is only sent. -/
theorem step_fieldStart_deepen (r : Reorder) (hframes : InField frames) (place : Path)
    (name : Identifier) (stamped : Option Path) :
    (step { r with frames := deepen frames } place ⟨.fieldStart name, stamped⟩).Yields
      { r with frames := deepen (send frames place ⟨.fieldStart name, stamped⟩).1 }
      (send frames place ⟨.fieldStart name, stamped⟩).2 := by
  have hstep := @step_inField { r with frames := deepen frames } _ [] place
    ⟨.fieldStart name, stamped⟩ hframes.deepen (by simp) (by simp)
    (complete_of_opened _ (.inl ⟨name, rfl⟩))
  rwa [send_deepen, List.append_nil] at hstep

/-- The end of a part that is open in a field is sent, and a value of the field is complete. -/
theorem step_close_deepen (hframes : InField frames) {place : Path} {stamped : Option Path}
    {v : Value} (hdone : (complete { r with frames := (send frames place ⟨.close, stamped⟩).1 }
      (.value v)).Yields r' out) :
    (step { r with frames := deepen frames } place ⟨.close, stamped⟩).Yields r'
      ((send frames place ⟨.close, stamped⟩).2 ++ out) := by
  have hsend := send_deepen frames place ⟨.close, stamped⟩
  have hstep := @step_inField { r with frames := deepen frames } r' out place ⟨.close, stamped⟩
    hframes.deepen (by simp) (fun _ ↦ depth_deepen frames)
  rw [hsend] at hstep
  exact hstep (by rwa [complete_close_deepen])

/-- The innermost struct ends: what it still holds back is sent, and then the end. -/
theorem step_close_of_flush {f : OpenStruct} (hholding : f.holding = none) (hdepth : f.depth = 0)
    {held : List (Event × Path)}
    (hflush : flush f (deepen frames) (f.order.drop f.next) = sendAll (deepen frames) held)
    (place : Path) (stamped : Option Path) {v : Value}
    (hdone : (complete { r with
      frames := (sendAll frames (held ++ [(⟨.close, stamped⟩, place)])).1 } (.value v)).Yields
        r' out) :
    (step { r with frames := f :: deepen frames } place ⟨.close, stamped⟩).Yields r'
      ((sendAll frames (held ++ [(⟨.close, stamped⟩, place)])).2 ++ out) := by
  rw [sendAll_deepen] at hflush
  rw [sendAll_append, sendAll_singleton] at hdone ⊢
  -- The struct was counted as open in a field of the frame around it, which hears of its end.
  rw [← complete_close_deepen] at hdone
  simp only [step, openStruct, hdepth, endStruct, hholding, hflush, send_deepen,
    Option.isSome_none, Bool.false_eq_true, and_self, if_true, if_false]
  exact sendThenComplete_yields hdone

/-- A struct starts in the part that is open for it in the struct around it. -/
theorem step_structStart (r : Reorder) (place : Path) (type : QualifiedName)
    (stamped : Option Path) :
    (r.step place ⟨.structStart type, stamped⟩).Yields
      { r with frames := { order := r.orders type, base := place } ::
          deepen (send r.frames place ⟨.structStart type, stamped⟩).1 }
      (send r.frames place ⟨.structStart type, stamped⟩).2 := by
  obtain ⟨orders, frames⟩ := r
  have hopen : openStruct ⟨orders, frames⟩ place (.structStart type) =
      ⟨orders, { order := orders type, base := place } :: deepen frames⟩ := by
    cases frames <;> rfl
  simp only [step, hopen, OpenStruct.receive, send_of_holding_none, send_deepen, Bool.false_eq_true,
    false_and, if_false]
  simpa using sendThenComplete_yields (complete_of_opened _ (.inr ⟨type, rfl⟩))

end Reorder

end ValueStream
