import ValueStream.Proofs.Checker.Language

/-!
# What has come of the open parts

Between two events of a stream some maps, structs and lists are open, and each of them is known only
in part: some fields are complete, and one may be in progress. `openParts` keeps for each the events
of its fields, by the events alone and with no check. This is what other stages can be measured
against that keep less of what has come, or keep it elsewhere.

Where a checker accepts the events, the parts are those that it takes to be open (`Nests`). So the
checker says which events can come next, and what is open then (`Arrives`).
-/

namespace ValueStream

open Nesting

/-- A map, struct or list that is open. What is kept of the events is left open. -/
structure OpenPart (α : Type) where
  /-- The event that it has started with. -/
  start : EventKind
  /-- The complete fields, each with its events. -/
  complete : List (Identifier × List α) := []
  /-- The field in progress, with its events so far. -/
  current : Option (Identifier × List α) := none

namespace OpenPart

variable {α β : Type}

/-- The names of the complete fields. -/
def names (u : OpenPart α) : List Identifier := u.complete.map Prod.fst

/-- An event comes, which belongs to the field in progress if there is one. -/
def note (x : α) (u : OpenPart α) : OpenPart α :=
  { u with current := u.current.map fun f ↦ (f.1, f.2 ++ [x]) }

/-- A field starts in the innermost part. -/
def startField (name : Identifier) : List (OpenPart α) → List (OpenPart α)
  | [] => []
  | u :: outer => { u with current := some (name, []) } :: outer

/-- The part once its field in progress is complete, if there is one. -/
def finishField (u : OpenPart α) : OpenPart α :=
  { u with complete := u.complete ++ u.current.toList, current := none }

/-- A value in the innermost part is complete, and with it the field that it belongs to, if it
belongs to one. -/
def completeField : List (OpenPart α) → List (OpenPart α)
  | [] => []
  | u :: outer => u.finishField :: outer

/-- The open parts after another event, the innermost first. -/
def advance (us : List (OpenPart α)) (kind : EventKind) (x : α) : List (OpenPart α) :=
  match kind with
  | .fieldStart name => (startField name us).map (note x)
  | .value _ => completeField (us.map (note x))
  | .close => completeField (us.map (note x)).tail
  | kind => { start := kind } :: us.map (note x)

end OpenPart

/-- The parts that are open after events, the innermost first. -/
def openParts {α : Type} (kind : α → EventKind) (xs : List α) : List (OpenPart α) :=
  xs.foldl (fun us x ↦ OpenPart.advance us (kind x) x) []

namespace OpenPart

variable {α β : Type}

theorem complete_finishField {u : OpenPart α} {f : Identifier × List α} (h : u.current = some f) :
    u.finishField.complete = u.complete ++ [f] := by
  simp [finishField, h]

theorem names_finishField {u : OpenPart α} {name : Identifier} {xs : List α}
    (h : u.current = some (name, xs)) : u.finishField.names = u.names ++ [name] := by
  simp [names, complete_finishField h]

/-! ## What is kept of the events -/

/-- The part where something else is kept of each event. -/
def map (f : α → β) (u : OpenPart α) : OpenPart β where
  start := u.start
  complete := u.complete.map fun x ↦ (x.1, x.2.map f)
  current := u.current.map fun x ↦ (x.1, x.2.map f)

theorem names_map (f : α → β) (u : OpenPart α) : (u.map f).names = u.names := by
  simp [names, map, Function.comp_def]

theorem note_map (f : α → β) (x : α) (us : List (OpenPart α)) :
    (us.map (map f)).map (note (f x)) = (us.map (note x)).map (map f) := by
  rw [List.map_map, List.map_map]
  refine List.map_congr_left fun u _ ↦ ?_
  cases hcurrent : u.current <;> simp [note, map, hcurrent]

theorem completeField_map (f : α → β) (us : List (OpenPart α)) :
    completeField (us.map (map f)) = (completeField us).map (map f) := by
  cases us with
  | nil => rfl
  | cons u outer => cases hcurrent : u.current <;> simp [completeField, finishField, map, hcurrent]

theorem advance_map (f : α → β) (us : List (OpenPart α)) (kind : EventKind) (x : α) :
    advance (us.map (map f)) kind (f x) = (advance us kind x).map (map f) := by
  cases kind with
  | fieldStart name =>
    have hstart : startField name (us.map (map f)) = (startField name us).map (map f) := by
      cases us <;> rfl
    rw [advance, advance, hstart, note_map]
  | value v => rw [advance, advance, note_map, completeField_map]
  | close => rw [advance, advance, note_map, ← List.map_tail, completeField_map]
  | structStart type | mapStart | listStart type =>
    exact congrArg (List.cons _) (note_map f x us)

end OpenPart

/-- What is kept of the events does not matter for what is open. -/
theorem openParts_map {α β : Type} {kind : α → EventKind} {kind' : β → EventKind} {f : α → β}
    (hkind : ∀ x, kind' (f x) = kind x) (xs : List α) :
    openParts kind' (xs.map f) = (openParts kind xs).map (OpenPart.map f) := by
  rw [openParts, openParts, List.foldl_map, ← List.map_nil]
  refine List.foldl_hom (List.map (OpenPart.map f)) (fun us x ↦ ?_)
  rw [hkind, OpenPart.advance_map]

namespace OpenPart

variable {α : Type}

/-! ## Parts and nestings -/

/-- The nesting of a checker is that of the open parts. -/
inductive Nests : List (OpenPart α) → Nesting → Prop
  /-- Nothing is open. -/
  | nil : Nests [] []
  /-- A list is innermost. -/
  | list {u : OpenPart α} {us : List (OpenPart α)} {n : Nesting} {type : ListType}
    {position : Option Nat}
    (hstart : u.start = .listStart type) (hcurrent : u.current = none) (h : Nests us n)
    (takes : n.TakesValue) : Nests (u :: us) (.list position :: n)
  /-- A map or struct is innermost, between two of its fields. -/
  | fields {u : OpenPart α} {us : List (OpenPart α)} {n : Nesting} (hstart : u.start.StartsFields)
    (hcurrent : u.current = none) (h : Nests us n) (takes : n.TakesValue) :
    Nests (u :: us) (.map none u.names :: n)
  /-- A field of a map or struct is innermost. -/
  | field {u : OpenPart α} {us : List (OpenPart α)} {n : Nesting} {name : Identifier} {xs : List α}
    (hstart : u.start.StartsFields) (hcurrent : u.current = some (name, xs))
    (fresh : name ∉ u.names) (h : Nests us n) (takes : n.TakesValue) :
    Nests (u :: us) (.field name :: .map (some name) (u.names ++ [name]) :: n)

/-- Whether a value may come: in a list, or for a field in progress, and so on further out. -/
def TakeValue : List (OpenPart α) → Prop
  | [] => True
  | u :: outer => ((∃ type, u.start = .listStart type) ∨ u.current.isSome = true) ∧ TakeValue outer

theorem TakeValue.note {us : List (OpenPart α)} (h : TakeValue us) (x : α) :
    TakeValue (us.map (OpenPart.note x)) := by
  induction us with
  | nil => trivial
  | cons u us ih => exact ⟨by simpa [OpenPart.note] using h.1, ih h.2⟩

/-- How an event comes to the open parts. -/
inductive Arrives : List (OpenPart α) → EventKind → Prop
  /-- A value begins, or comes as a whole. -/
  | value {us : List (OpenPart α)} {kind : EventKind} (hfield : ∀ name, kind ≠ .fieldStart name)
    (hclose : kind ≠ .close) (takes : TakeValue us) : Arrives us kind
  /-- A field starts that is new to a map or struct. -/
  | field {u : OpenPart α} {outer : List (OpenPart α)} {name : Identifier}
    (hstart : u.start.StartsFields) (hcurrent : u.current = none) (fresh : name ∉ u.names)
    (takes : TakeValue outer) : Arrives (u :: outer) (.fieldStart name)
  /-- The innermost part ends. -/
  | close {u : OpenPart α} {outer : List (OpenPart α)} (hcurrent : u.current = none)
    (takes : TakeValue outer) : Arrives (u :: outer) .close

namespace Nests

variable {us : List (OpenPart α)} {n : Nesting}

theorem note (h : Nests us n) (x : α) : Nests (us.map (OpenPart.note x)) n := by
  induction h with
  | nil => exact .nil
  | list hstart hcurrent _ takes ih =>
    exact .list hstart (by simp [OpenPart.note, hcurrent]) ih takes
  | fields hstart hcurrent _ takes ih =>
    exact .fields hstart (by simp [OpenPart.note, hcurrent]) ih takes
  | field hstart hcurrent fresh _ takes ih =>
    exact .field hstart (by rw [OpenPart.note, hcurrent]; rfl) fresh ih takes

theorem nextElement (h : Nests us n) : Nests us n.nextElement := by
  cases h with
  | nil => exact .nil
  | @list u us n type position hstart hcurrent h takes =>
    cases position <;> exact .list hstart hcurrent h takes
  | fields hstart hcurrent h takes => exact .fields hstart hcurrent h takes
  | field hstart hcurrent fresh h takes => exact .field hstart hcurrent fresh h takes

theorem completeField (h : Nests us n) (takes : n.TakesValue) :
    Nests (OpenPart.completeField us) (Checker.settle n.closeField) := by
  cases h with
  | nil => exact .nil
  | list hstart hcurrent h htakes => exact .list hstart rfl h htakes
  | fields => exact takes.elim
  | @field u us n name xs hstart hcurrent fresh h htakes =>
    rw [OpenPart.completeField, closeField, Checker.settle, ← names_finishField hcurrent]
    exact .fields hstart rfl h htakes

theorem takeValue (h : Nests us n) (takes : n.TakesValue) : TakeValue us := by
  induction h with
  | nil => trivial
  | list hstart _ _ htakes ih => exact ⟨.inl ⟨_, hstart⟩, ih htakes⟩
  | fields => exact takes.elim
  | field _ hcurrent _ _ htakes ih => exact ⟨.inr (by simp [hcurrent]), ih htakes⟩

variable {c : Checker}

/-- Where a checker awaits a value, the open parts take one. -/
theorem takeValue_of_awaits (h : Nests us c.nesting) {kind : EventKind} (ha : c.Awaits kind) :
    TakeValue us :=
  h.nextElement.takeValue ha.takesValue

/-- What an end closes has no field in progress, and is where a value may come. -/
private theorem of_close {f : Frame} (h : Nests us (f :: n)) (hf : ∀ name, f ≠ .field name) :
    ∃ u outer, us = u :: outer ∧ u.current = none ∧ Nests outer n ∧ n.TakesValue := by
  cases h with
  | list _ hcurrent h takes | fields _ hcurrent h takes => exact ⟨_, _, rfl, hcurrent, h, takes⟩
  | field => exact absurd rfl (hf _)

/-- An event that a checker accepts comes as it may. -/
theorem arrives (h : Nests us c.nesting) {kind : EventKind} (hkind : (c.enter kind).2 = none) :
    Arrives us kind := by
  by_cases hfield : ∃ name, kind = .fieldStart name
  · obtain ⟨name, rfl⟩ := hfield
    obtain ⟨seen, n, -, hn, hname, -⟩ := Checker.enter_fieldStart_inv hkind
    rw [hn] at h
    cases h with
    | fields hstart hcurrent h takes => exact .field hstart hcurrent hname (h.takeValue takes)
  by_cases hclose : kind = .close
  · subst hclose
    obtain ⟨f, n, -, hn, hf, -⟩ := Checker.enter_close_inv hkind
    obtain ⟨u, outer, rfl, hcurrent, h, takes⟩ := (hn ▸ h).of_close hf
    exact .close hcurrent (h.takeValue takes)
  · have hfield := not_exists.1 hfield
    have ha := Checker.awaits_of_enter hkind hfield hclose
    exact .value hfield hclose (h.takeValue_of_awaits ha)

/-- **The parts that are open are those that a checker takes to be open**, after each event that it
accepts. -/
theorem advance (h : Nests us c.nesting) {kind : EventKind} (hkind : (c.enter kind).2 = none)
    (x : α) : Nests (OpenPart.advance us kind x) ((c.enter kind).1.leave kind).nesting := by
  cases kind with
  | fieldStart name =>
    obtain ⟨seen, n, -, hn, hname, henter⟩ := Checker.enter_fieldStart_inv hkind
    rw [hn] at h
    rw [henter]
    cases h with
    | fields hstart hcurrent h takes => exact .field hstart rfl hname (h.note _) takes
  | close =>
    obtain ⟨f, n, -, hn, hf, henter⟩ := Checker.enter_close_inv hkind
    obtain ⟨u, outer, rfl, -, h, takes⟩ := (hn ▸ h).of_close hf
    rw [henter]
    exact (h.note _).completeField takes
  | value v =>
    have ha := Checker.awaits_of_enter hkind (by simp) (by simp)
    rw [Checker.enter_eq_of_awaits ha (by simp) (by simp)]
    exact (h.note _).nextElement.completeField ha.takesValue
  | listStart type =>
    have ha := Checker.awaits_of_enter hkind (by simp) (by simp)
    rw [Checker.enter_eq_of_awaits ha (by simp) (by simp)]
    exact .list rfl rfl (h.note _).nextElement ha.takesValue
  | mapStart | structStart type =>
    have ha := Checker.awaits_of_enter hkind (by simp) (by simp)
    rw [Checker.enter_eq_of_awaits ha (by simp) (by simp)]
    exact .fields trivial rfl (h.note _).nextElement ha.takesValue

end Nests

end OpenPart

end ValueStream
