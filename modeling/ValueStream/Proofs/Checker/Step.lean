import ValueStream.Checker

/-!
# What one event does to a checker

A checker takes in an event in one of three ways. A start or a whole value comes where a value is
awaited, a field comes to a map or struct between two of its fields, and an end comes to the map,
struct or list that is innermost; `awaits_of_enter`, `enter_fieldStart_inv` and `enter_close_inv`
read this off an event that was accepted, and the `run_` lemmas give the state after it.
-/

namespace ValueStream

open Nesting

@[simp] theorem Nesting.isEmpty_nextElement (n : Nesting) :
    n.nextElement.isEmpty = n.isEmpty := by
  rcases n with _ | ⟨_ | (_ | _) | _, n⟩ <;> rfl

namespace Checker

theorem run_cons {c : Checker} {kind : EventKind} {rest : List EventKind}
    (h : (c.enter kind).2 = none) :
    c.run (kind :: rest) = ((c.enter kind).1.leave kind).run rest := by
  rw [run]
  split <;> simp_all

theorem snd_run_singleton (c : Checker) (kind : EventKind) :
    (c.run [kind]).2 = (c.enter kind).2 := by
  rw [run]
  split <;> simp_all [run]

theorem run_append (c : Checker) (xs ys : List EventKind) :
    c.run (xs ++ ys) =
      match c.run xs with
      | (c, some fault) => (c, some fault)
      | (c, none) => c.run ys := by
  induction xs generalizing c with
  | nil => rfl
  | cons kind xs ih =>
    rw [List.cons_append, run, run]
    split
    · rfl
    · exact ih _

/-! ## Events that may come -/

/-- Whether a value that begins with the event may come. -/
def Awaits (c : Checker) (kind : EventKind) : Prop :=
  c.done = false ∧ c.valueObstacle kind = none

/-- The checker after a whole value. -/
def afterValue (c : Checker) : Checker :=
  { c with nesting := settle c.nesting.nextElement.closeField, done := c.nesting.isEmpty }

theorem awaits_of_nesting {c : Checker} {f : Frame} {n : Nesting} (hc : c.done = false)
    (hn : c.nesting = f :: n) (hf : ∀ seen, f ≠ .map none seen) (kind : EventKind) :
    c.Awaits kind := by
  refine ⟨hc, ?_⟩
  rw [valueObstacle, hn]
  split <;> simp_all

theorem enter_eq_of_awaits {c : Checker} {kind : EventKind} (h : c.Awaits kind)
    (hfield : ∀ name, kind ≠ .fieldStart name) (hclose : kind ≠ .close) :
    c.enter kind =
      ({ c with nesting := c.nesting.enter kind, done := (c.nesting.enter kind).isEmpty },
        none) := by
  obtain ⟨hdone, hobstacle⟩ := h
  simp only [enter, hdone]
  cases kind with
  | fieldStart name => exact absurd rfl (hfield name)
  | close => exact absurd rfl hclose
  | _ => simp [enterValue, hobstacle]

theorem run_value_cons {c : Checker} {v : Value} (h : c.Awaits (.value v))
    (more : List EventKind) : c.run (.value v :: more) = c.afterValue.run more := by
  have henter := enter_eq_of_awaits h (by simp) (by simp)
  rw [run_cons (by rw [henter]), henter]
  simp [leave, EventKind.completesValue, afterValue, Nesting.enter]

theorem run_start {c : Checker} {kind : EventKind} (h : c.Awaits kind)
    (hs : kind.isStart = true) (more : List EventKind) :
    c.run (kind :: more) = { c with nesting := c.nesting.enter kind }.run more := by
  cases kind <;> simp [EventKind.isStart] at hs
  all_goals
    have henter := enter_eq_of_awaits h (by simp) (by simp)
    rw [run_cons (by rw [henter]), henter]
    simp [leave, EventKind.completesValue, Nesting.enter, h.1]

theorem run_close {c : Checker} {kind : EventKind} (h : c.Awaits kind) {f : Frame}
    (hf : ∀ name, f ≠ .field name) (more : List EventKind) :
    { c with nesting := f :: c.nesting.nextElement }.run (.close :: more)
      = c.afterValue.run more := by
  obtain ⟨hdone, hobstacle⟩ := h
  -- The end uncovers what the value was checked against when it started. A frame takes the end as
  -- it took the start: the kind of event counts only at the top, where no end is checked again.
  have henter : ({ c with nesting := f :: c.nesting.nextElement } : Checker).enter .close =
      ({ c with nesting := c.nesting.nextElement, done := c.nesting.isEmpty }, none) := by
    obtain ⟨n, top, done⟩ := c
    cases f with
    | field name => exact absurd rfl (hf name)
    | map pending seen | list position =>
      rcases n with _ | ⟨(_ | _) | (_ | _) | _, _⟩ <;>
        simp_all [enter, enterClose, valueObstacle, nextElement]
  rw [run_cons (by rw [henter]), henter]
  rfl

/-- The checker once a field of its innermost map has started. -/
def inField (c : Checker) (name : Identifier) (seen : List Identifier) (n : Nesting) : Checker :=
  { c with nesting := .field name :: .map (some name) (seen ++ [name]) :: n }

theorem run_fieldStart {c : Checker} {seen : List Identifier} {n : Nesting} {name : Identifier}
    (hn : c.nesting = .map none seen :: n) (hdone : c.done = false) (hname : name ∉ seen)
    (more : List EventKind) :
    c.run (.fieldStart name :: more) = (c.inField name seen n).run more := by
  have henter : c.enter (.fieldStart name) = (c.inField name seen n, none) := by
    simp [enter, enterField, hn, hdone, hname, inField]
  rw [run_cons (by rw [henter]), henter]
  rfl

theorem afterValue_inField {c : Checker} (hdone : c.done = false) (name : Identifier)
    (seen : List Identifier) (n : Nesting) :
    (c.inField name seen n).afterValue =
      { c with nesting := .map none (seen ++ [name]) :: n } := by
  simp [inField, afterValue, hdone, settle, nextElement, closeField]

/-! ## Events that have been accepted -/

theorem awaits_of_enter {c : Checker} {kind : EventKind} (h : (c.enter kind).2 = none)
    (hfield : ∀ name, kind ≠ .fieldStart name) (hclose : kind ≠ .close) : c.Awaits kind := by
  cases hdone : c.done with
  | true => simp [enter, hdone, refuse] at h
  | false =>
    refine ⟨hdone, ?_⟩
    cases hobstacle : c.valueObstacle kind with
    | none => rfl
    | some cause =>
      cases kind with
      | fieldStart name => exact absurd rfl (hfield name)
      | close => exact absurd rfl hclose
      | _ => simp [enter, hdone, enterValue, hobstacle, refuse] at h

theorem enter_fieldStart_inv {c : Checker} {name : Identifier}
    (h : (c.enter (.fieldStart name)).2 = none) :
    ∃ seen n, c.done = false ∧ c.nesting = .map none seen :: n ∧ name ∉ seen ∧
      c.enter (.fieldStart name) = (c.inField name seen n, none) := by
  cases hdone : c.done with
  | true => simp [enter, hdone, refuse] at h
  | false =>
    rcases hn : c.nesting with _ | ⟨⟨_ | pending, seen⟩ | position | pending, n⟩
    · simp [enter, hdone, enterField, hn, refuse] at h
    · by_cases hseen : name ∈ seen
      · simp [enter, hdone, enterField, hn, refuse, hseen] at h
      · exact ⟨seen, n, rfl, rfl, hseen, by simp [enter, hdone, enterField, hn, hseen, inField]⟩
    · simp [enter, hdone, enterField, hn] at h
    · simp [enter, hdone, enterField, hn, refuse] at h
    · simp [enter, hdone, enterField, hn, refuse] at h

theorem enter_close_inv {c : Checker} (h : (c.enter .close).2 = none) :
    ∃ f n, c.done = false ∧ c.nesting = f :: n ∧ (∀ name, f ≠ .field name) ∧
      c.enter .close = ({ c with nesting := n, done := n.isEmpty }, none) := by
  cases hdone : c.done with
  | true => simp [enter, hdone, refuse] at h
  | false =>
    rcases hn : c.nesting with _ | ⟨f, n⟩
    · simp [enter, hdone, enterClose, hn, refuse] at h
    · have hf : ∀ name, f ≠ .field name := by
        rintro name rfl
        simp [enter, hdone, enterClose, hn, refuse] at h
      refine ⟨f, n, rfl, rfl, hf, ?_⟩
      rcases n with _ | ⟨g, m⟩
      · cases f <;> simp_all [enter, enterClose]
      · -- Further out something is open that takes the value, or the end would be refused.
        cases hobstacle : ({ c with nesting := g :: m } : Checker).valueObstacle .close with
        | none => cases f <;> simp_all [enter, enterClose]
        | some cause => cases f <;> simp_all [enter, enterClose, refuse]

/-! ## Events that are refused -/

/-- A refused event does not complete the value. -/
theorem done_enter_of_refused {c : Checker} {kind : EventKind} (h : (c.enter kind).2 ≠ none) :
    (c.enter kind).1.done = c.done := by
  cases hdone : c.done with
  | true => simp [enter, hdone, refuse]
  | false =>
    simp only [enter, hdone, Bool.false_eq_true, if_false] at h ⊢
    cases kind with
    | fieldStart name =>
      simp only [enterField] at h ⊢
      repeat' split at h
      all_goals simp_all [refuse]
    | close =>
      simp only [enterClose] at h ⊢
      repeat' split at h
      all_goals simp_all [refuse]
    | value v | listStart type | mapStart | structStart type =>
      simp only [enterValue] at h ⊢
      split at h <;> simp_all [refuse]

private theorem enterValue_ne_broken (c : Checker) (kind : EventKind) (i : Invariant) :
    (c.enterValue kind).2 ≠ some (.broken i) := by
  rw [enterValue]
  split <;> simp [refuse]

private theorem enterClose_ne_broken (c : Checker) (i : Invariant) :
    c.enterClose.2 ≠ some (.broken i) := by
  rcases hn : c.nesting with _ | ⟨f, _ | ⟨g, n⟩⟩
  · simp [enterClose, hn, refuse]
  · cases f <;> simp [enterClose, hn, refuse]
  · cases hobstacle : ({ c with nesting := g :: n } : Checker).valueObstacle .close <;>
      cases f <;> simp [enterClose, hn, refuse, hobstacle]

/-- Only a field that comes to a map with a pending field finds the checker in a broken state. -/
theorem exists_pending_of_broken {c : Checker} {kind : EventKind} {i : Invariant}
    (h : (c.enter kind).2 = some (.broken i)) :
    ∃ name pending seen n, i = .fieldStillPending name pending ∧ c.done = false ∧
      c.nesting = .map (some pending) seen :: n := by
  cases hdone : c.done with
  | true => simp [enter, hdone, refuse] at h
  | false =>
    simp only [enter, hdone, Bool.false_eq_true, if_false] at h
    cases kind with
    | fieldStart name =>
      simp only [enterField] at h
      split at h
      · simp [refuse] at h
      · simp [refuse] at h
      · simp [refuse] at h
      · next pending seen n hn =>
        exact ⟨name, pending, seen, n, by simpa using h.symm, rfl, hn⟩
      · split at h <;> simp [refuse] at h
    | close => exact absurd h (enterClose_ne_broken c i)
    | value v | listStart type | mapStart | structStart type =>
      exact absurd h (enterValue_ne_broken c _ i)

end Checker

end ValueStream
