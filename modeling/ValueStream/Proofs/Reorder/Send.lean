import ValueStream.Proofs.Stream.Located
import ValueStream.Reorder

/-!
# Where the events of a reorder go

Events that a reorder sends all go one way: to the innermost frame that holds a field back, or on if
there is none. A frame that holds nothing back is passed by, so that what is sent from within a
struct is sent from the structs around it; and sending does not see how deep a field is nested.
Replaying held events is sending them from their places.
-/

namespace ValueStream

/-- A look-up in a list whose keys stay as they are. -/
theorem lookup_map {α β γ : Type} [BEq α] [LawfulBEq α] (f : α → β → γ) (key : α)
    (xs : List (α × β)) :
    (xs.map fun x ↦ (x.1, f x.1 x.2)).lookup key = (xs.lookup key).map (f key) := by
  induction xs with
  | nil => rfl
  | cons x xs ih =>
    obtain ⟨key', b⟩ := x
    rw [List.map_cons, List.lookup_cons, List.lookup_cons, ih]
    cases h : key == key' with
    | true =>
      obtain rfl := eq_of_beq h
      rfl
    | false => rfl

namespace Reorder

/-- Sends events from their places. -/
def sendAll (frames : List OpenStruct) :
    List (Event × Path) → List OpenStruct × List (Event × Path)
  | [] => (frames, [])
  | x :: later =>
    let sent := send frames x.2 x.1
    let others := sendAll sent.1 later
    (others.1, sent.2 ++ others.2)

@[simp] theorem sendAll_nil (frames : List OpenStruct) : sendAll frames [] = (frames, []) := rfl

theorem sendAll_cons (frames : List OpenStruct) (x : Event × Path) (later : List (Event × Path)) :
    sendAll frames (x :: later) =
      ((sendAll (send frames x.2 x.1).1 later).1,
        (send frames x.2 x.1).2 ++ (sendAll (send frames x.2 x.1).1 later).2) := rfl

theorem sendAll_singleton (frames : List OpenStruct) (x : Event × Path) :
    sendAll frames [x] = send frames x.2 x.1 := by
  simp [sendAll_cons]

theorem sendAll_append (frames : List OpenStruct) (xs ys : List (Event × Path)) :
    sendAll frames (xs ++ ys) =
      ((sendAll (sendAll frames xs).1 ys).1,
        (sendAll frames xs).2 ++ (sendAll (sendAll frames xs).1 ys).2) := by
  induction xs generalizing frames with
  | nil => simp
  | cons x xs ih => simp [sendAll_cons, ih]

theorem replay_eq_sendAll (base : Path) (frames : List OpenStruct) (inside : Nesting)
    (es : List Event) : replay base frames inside es = sendAll frames (inside.locate base es) := by
  induction es generalizing frames inside with
  | nil => rfl
  | cons e es ih => simp [replay, Nesting.locate, sendAll_cons, ih]

/-! ## The frames on the way -/

@[simp] theorem sendAll_noFrames (xs : List (Event × Path)) : sendAll [] xs = ([], xs) := by
  induction xs with
  | nil => rfl
  | cons x xs ih => simp [sendAll_cons, send, hold, ih]

theorem send_of_holding_none {f : OpenStruct} (h : f.holding = none) (outer : List OpenStruct)
    (place : Path) (e : Event) :
    send (f :: outer) place e = (f :: (send outer place e).1, (send outer place e).2) := by
  rw [send, send, hold, h]
  cases hold e outer <;> rfl

/-- A frame that holds nothing back is passed by. -/
theorem sendAll_of_holding_none {f : OpenStruct} (h : f.holding = none) (outer : List OpenStruct)
    (xs : List (Event × Path)) :
    sendAll (f :: outer) xs = (f :: (sendAll outer xs).1, (sendAll outer xs).2) := by
  induction xs generalizing outer with
  | nil => rfl
  | cons x xs ih => simp [sendAll_cons, send_of_holding_none h, ih]

/-- A frame that holds a field back keeps all that comes. -/
theorem sendAll_of_holding {f : OpenStruct} {events : List Event} (h : f.holding = some events)
    (outer : List OpenStruct) (xs : List (Event × Path)) :
    sendAll (f :: outer) xs =
      ({ f with holding := some (events ++ xs.map Prod.fst) } :: outer, []) := by
  induction xs generalizing f events with
  | nil => simp [← h]
  | cons x xs ih =>
    have hlater := ih (f := { f with holding := some (events ++ [x.1]) }) rfl
    rw [sendAll_cons, send, hold, h]
    simp [hlater]

/-! ## Fields in progress -/

/-- The frames with one more part open in the field of the innermost. -/
def deepen : List OpenStruct → List OpenStruct
  | [] => []
  | f :: outer => { f with depth := f.depth + 1 } :: outer

theorem sendAll_deepen (frames : List OpenStruct) (xs : List (Event × Path)) :
    sendAll (deepen frames) xs = (deepen (sendAll frames xs).1, (sendAll frames xs).2) := by
  cases frames with
  | nil => simp [deepen]
  | cons f outer =>
    cases h : f.holding with
    | none =>
      rw [deepen, sendAll_of_holding_none h,
        sendAll_of_holding_none (f := { f with depth := f.depth + 1 }) h]
      rfl
    | some events =>
      rw [deepen, sendAll_of_holding h,
        sendAll_of_holding (f := { f with depth := f.depth + 1 }) h]
      rfl

theorem send_deepen (frames : List OpenStruct) (place : Path) (e : Event) :
    send (deepen frames) place e = (deepen (send frames place e).1, (send frames place e).2) := by
  have h := sendAll_deepen frames [(e, place)]
  rwa [sendAll_singleton, sendAll_singleton] at h

theorem depth_deepen (frames : List OpenStruct) : ∀ f ∈ (deepen frames).head?, f.depth ≠ 0 := by
  cases frames <;> simp [deepen]

/-- A field of the innermost struct is in progress, if there is a struct. -/
def InField (frames : List OpenStruct) : Prop := ∀ f ∈ frames.head?, f.current.isSome = true

theorem inField_cons {f : OpenStruct} {outer : List OpenStruct} :
    InField (f :: outer) ↔ f.current.isSome = true := by
  simp [InField]

theorem InField.deepen {frames : List OpenStruct} (h : InField frames) :
    InField (deepen frames) := by
  cases frames with
  | nil => exact h
  | cons f outer =>
    have hcurrent := inField_cons.1 h
    exact inField_cons.2 hcurrent

theorem InField.sendAll {frames : List OpenStruct} (h : InField frames)
    (xs : List (Event × Path)) : InField (sendAll frames xs).1 := by
  cases frames with
  | nil => simpa using h
  | cons f outer =>
    have hcurrent := inField_cons.1 h
    cases hholding : f.holding with
    | none =>
      rw [sendAll_of_holding_none hholding]
      exact inField_cons.2 hcurrent
    | some events =>
      rw [sendAll_of_holding hholding]
      exact inField_cons.2 hcurrent

theorem InField.send {frames : List OpenStruct} (h : InField frames) (place : Path) (e : Event) :
    InField (send frames place e).1 := by
  rw [← sendAll_singleton frames (e, place)]
  exact h.sendAll _

end Reorder

end ValueStream
