import Mathlib.Data.List.Forall2
import ValueStream.Proofs.Cast.Places
import ValueStream.Proofs.Pipeline.Relay

/-!
# The frames of a cast

A caster keeps a stack of its own beside that of the checker ahead of it. The two go together
(`Mirrors`): a frame of a list or of a map for each that is open, where a field in progress shows in
the caster as a type that is known. So an event that the checker accepts finds the caster ready for
it: the cast refuses it, for a reason that an error reports, or hands on an event of the same
outline, and the stacks go together again (`step_mirrors`), as they do after any number of events
(`passage_mirrors`).
-/

namespace ValueStream

open Nesting

/-- The frames of a caster go together with what is open in a checker. -/
inductive Mirrors : List CastFrame → Nesting → Prop
  /-- Nothing is open. -/
  | expected (type : TypeRef) : Mirrors [.expected type] []
  /-- A list is open. -/
  | list (type : ListType) (hasElements : Bool) (position : Option Nat) {frames : List CastFrame}
    {n : Nesting} (h : Mirrors frames n) :
    Mirrors (.list type hasElements :: frames) (.list position :: n)
  /-- A map or struct is open, between two of its fields. -/
  | map (fieldType : Option TypeRef) (typer : FieldTyper) (seen : List Identifier)
    {frames : List CastFrame} {n : Nesting} (h : Mirrors frames n) :
    Mirrors (.map fieldType typer :: frames) (.map none seen :: n)
  /-- A field is in progress, the type of which is known. -/
  | field (type : TypeRef) (typer : FieldTyper) (name : Identifier) (seen : List Identifier)
    {frames : List CastFrame} {n : Nesting} (h : Mirrors frames n) :
    Mirrors (.map (some type) typer :: frames) (.field name :: .map (some name) seen :: n)

namespace Mirrors

variable {frames : List CastFrame} {n : Nesting}

theorem nextElement (h : Mirrors frames n) : Mirrors frames n.nextElement := by
  cases h with
  | expected type => exact .expected type
  | list type hasElements position h => cases position <;> exact .list type hasElements _ h
  | map fieldType typer seen h => exact .map fieldType typer seen h
  | field type typer name seen h => exact .field type typer name seen h

/-- A value is complete: a list has an element, a field is no longer in progress. -/
theorem noteElement (h : Mirrors frames n) :
    Mirrors (Caster.noteElement frames) (Checker.settle n.closeField) := by
  cases h with
  | expected type => exact .expected type
  | list type hasElements position h => exact .list type true position h
  | map fieldType typer seen h => exact .map fieldType typer seen h
  | field type typer name seen h => exact .map (some type) typer seen h

end Mirrors

namespace Caster

/-- The outcome refuses an event, or hands on one of the same outline with frames that go together
with a nesting. -/
def Outcome.Mirrored (o : Outcome) (kind : EventKind) (n : Nesting) : Prop :=
  match o.2 with
  | .ok kind' => kind'.outline = kind.outline ∧ Mirrors o.1.frames n
  | .error fault => ∃ e, fault = .error e

variable {c : Caster} {n : Nesting}

@[simp] theorem mirrored_refuse (c : Caster) (e : StreamError) (kind : EventKind) (n : Nesting) :
    (c.refuse e).Mirrored kind n := ⟨e, rfl⟩

theorem castValue_mirrored (h : Mirrors c.frames n) (place : Path) (slot : TypeRef) (v : Value) :
    (c.castValue place slot v).Mirrored (.value v) (Checker.settle n.closeField) := by
  rw [castValue]
  dsimp only
  split
  · exact ⟨rfl, h.noteElement⟩
  · exact mirrored_refuse _ _ _ _

theorem startList_mirrored (h : Mirrors c.frames n) (place : Path) (slot : TypeRef)
    (type : ListType) :
    (c.startList place slot type).Mirrored (.listStart type) (.list none :: n) := by
  rw [startList]
  split
  · exact ⟨rfl, .list _ _ _ h⟩
  · exact mirrored_refuse _ _ _ _

theorem startStruct_mirrored (h : Mirrors c.frames n) (place : Path) (slot : TypeRef)
    (type : QualifiedName) :
    (c.startStruct place slot type).Mirrored .mapStart (.map none [] :: n) := by
  rw [startStruct]
  split
  · exact mirrored_refuse _ _ _ _
  · next target htarget =>
    split
    · exact mirrored_refuse _ _ _ _
    · refine ⟨?_, .map _ _ _ h⟩
      cases target <;> rfl

theorem startMap_mirrored (h : Mirrors c.frames n) (place : Path) (slot : TypeRef) :
    (c.startMap place slot).Mirrored .mapStart (.map none [] :: n) := by
  rw [startMap]
  split
  · exact ⟨rfl, .map _ _ _ h⟩
  · split
    · exact startStruct_mirrored h place slot _
    · exact mirrored_refuse _ _ _ _

/-- Where a value may come, the caster knows its type. -/
theorem exists_slot {d : Checker} (h : Mirrors c.frames d.nesting) {kind : EventKind}
    (hd : d.Awaits kind) : ∃ slot, c.slot = .ok slot := by
  obtain ⟨-, hobstacle⟩ := hd
  generalize hframes : c.frames = frames at h
  generalize hn : d.nesting = nesting at h
  cases h with
  | expected type => exact ⟨type, by simp [slot, hframes]⟩
  | list type hasElements position h => exact ⟨type.element, by simp [slot, hframes]⟩
  | map fieldType typer seen h => simp [Checker.valueObstacle, hn] at hobstacle
  | field type typer name seen h => exact ⟨type, by simp [slot, hframes]⟩

theorem intoSlot_mirrored {d : Checker} (h : Mirrors c.frames d.nesting) {kind kind' : EventKind}
    (hd : d.Awaits kind') {take : TypeRef → Outcome}
    (htake : ∀ slot, (take slot).Mirrored kind n) : (c.intoSlot take).Mirrored kind n := by
  obtain ⟨slot, hslot⟩ := exists_slot h hd
  rw [intoSlot, hslot]
  exact htake slot

theorem startField_mirrored {fieldType : Option TypeRef} {typer : FieldTyper}
    {rest : List CastFrame} (hframes : c.frames = .map fieldType typer :: rest)
    (h : Mirrors rest n) (place : Path) (name : Identifier) (seen : List Identifier) :
    (c.startField place name).Mirrored (.fieldStart name)
      (.field name :: .map (some name) seen :: n) := by
  rw [startField, hframes]
  dsimp only
  split
  · exact ⟨rfl, .field _ _ _ _ h⟩
  · exact mirrored_refuse _ _ _ _

theorem close_mirrored {f : Frame} (h : Mirrors c.frames (f :: n)) (hf : ∀ name, f ≠ .field name)
    (place : Path) : (c.close place).Mirrored .close (Checker.settle n.closeField) := by
  generalize hframes : c.frames = frames at h
  cases h with
  | list type hasElements position h =>
    rw [close, hframes]
    dsimp only
    split
    · exact ⟨rfl, h.noteElement⟩
    · exact mirrored_refuse _ _ _ _
  | map fieldType typer seen h =>
    rw [close, hframes]
    exact ⟨rfl, h.noteElement⟩
  | field type typer name seen h => exact absurd rfl (hf name)

/-- **An event that a checker accepts never breaks a cast behind it.** -/
theorem step_mirrors {d : Checker} (h : Mirrors c.frames d.nesting) {kind : EventKind}
    (haccepted : (d.enter kind).2 = none) (place : Path) :
    (c.step place kind).Mirrored kind ((d.enter kind).1.leave kind).nesting := by
  cases kind with
  | fieldStart name =>
    obtain ⟨seen, n, -, hn, -, henter⟩ := Checker.enter_fieldStart_inv haccepted
    rw [henter]
    rw [hn] at h
    generalize hframes : c.frames = frames at h
    cases h with
    | map fieldType typer seen h => exact startField_mirrored hframes h place name _
  | close =>
    obtain ⟨f, n, -, hn, hf, henter⟩ := Checker.enter_close_inv haccepted
    rw [henter]
    exact close_mirrored (hn ▸ h) hf place
  | value v =>
    have ha := Checker.awaits_of_enter haccepted (by simp) (by simp)
    rw [Checker.enter_eq_of_awaits ha (by simp) (by simp)]
    exact intoSlot_mirrored h ha fun slot ↦ castValue_mirrored h.nextElement place slot v
  | listStart type =>
    have ha := Checker.awaits_of_enter haccepted (by simp) (by simp)
    rw [Checker.enter_eq_of_awaits ha (by simp) (by simp)]
    exact intoSlot_mirrored h ha fun slot ↦ startList_mirrored h.nextElement place slot type
  | mapStart =>
    have ha := Checker.awaits_of_enter haccepted (by simp) (by simp)
    rw [Checker.enter_eq_of_awaits ha (by simp) (by simp)]
    exact intoSlot_mirrored h ha fun slot ↦ startMap_mirrored h.nextElement place slot
  | structStart type =>
    have ha := Checker.awaits_of_enter haccepted (by simp) (by simp)
    rw [Checker.enter_eq_of_awaits ha (by simp) (by simp)]
    exact intoSlot_mirrored h ha fun slot ↦ startStruct_mirrored h.nextElement place slot type

theorem castStep_relays {d : Checker} (h : Mirrors c.frames d.nesting) {e : Event}
    (haccepted : (d.enter e.kind).2 = none) (ahead : Option Path) :
    (Element.castStep c ahead e).Relays e ∧ ((Element.castStep c ahead e).fault = none →
      Mirrors (Element.castStep c ahead e).state.frames
        ((d.enter e.kind).1.leave e.kind).nesting) := by
  have hstep := step_mirrors h haccepted (c.start ++ ahead.getD .root)
  rw [Element.castStep]
  rcases houtcome : c.step (c.start ++ ahead.getD .root) e.kind with ⟨c', fault | kind⟩
  · rw [houtcome] at hstep
    obtain ⟨error, rfl⟩ := hstep
    exact ⟨.refuses error rfl rfl, fun hnone ↦ by cases hnone⟩
  · rw [houtcome] at hstep
    obtain ⟨houtline, hmirrors⟩ := hstep
    exact ⟨Step.relays_forward houtline _ _ _, fun _ ↦ hmirrors⟩

/-- **A caster that goes together with a checker does so after any events that both accept**, and it
hands on one event for each of them, stamped as it is and of the same outline. -/
theorem passage_mirrors {d : Checker} (h : Mirrors c.frames d.nesting)
    {inputs : List (Event × Option Path)} (haccepted : (d.run (kindsOf inputs)).2 = none)
    (hnone : (c.passage inputs).fault = none) :
    Mirrors (c.passage inputs).state.frames (d.run (kindsOf inputs)).1.nesting ∧
      List.Forall₂ (fun e f ↦ f.path = e.path ∧ f.kind.outline = e.kind.outline)
        (inputs.map Prod.fst) ((c.passage inputs).handed.map Prod.fst) := by
  induction inputs generalizing c d with
  | nil => exact ⟨h, .nil⟩
  | cons input later ih =>
    obtain ⟨e, ahead⟩ := input
    obtain ⟨hnow, hlater⟩ := Checker.run_cons_eq_none_iff.1 haccepted
    have hstep := step_mirrors h hnow (c.start ++ ahead.getD .root)
    have hrun : d.run (kindsOf ((e, ahead) :: later)) =
        ((d.enter e.kind).1.leave e.kind).run (kindsOf later) := Checker.run_cons hnow
    rcases houtcome : c.step (c.start ++ ahead.getD .root) e.kind with ⟨c', fault | kind⟩
    · rw [passage_cons_error houtcome] at hnone
      cases hnone
    · rw [houtcome] at hstep
      obtain ⟨houtline, hmirrors⟩ := hstep
      rw [passage_cons_ok houtcome] at hnone ⊢
      obtain ⟨hlast, hhanded⟩ := ih hmirrors hlater hnone
      rw [hrun]
      exact ⟨hlast, .cons ⟨rfl, houtline⟩ hhanded⟩

end Caster

/-- A cast of anything relays what a stream begins with. -/
theorem Element.passAll_cast (type : TypeRef) (schema : Schema) (start : Path)
    {inputs : List (Event × Option Path)} (h : BeginsStream .value (kindsOf inputs)) :
    ((Element.cast (.new type schema start)).passAll inputs).Relayed (kindsOf inputs) := by
  -- The invariant has a checker that is ready for all that is to come.
  refine ValueStream.passAll_relays (fun first kinds ↦ ∃ (c : Caster) (d : Checker),
    first = Element.cast c ∧ Mirrors c.frames d.nesting ∧ (d.run kinds).2 = none) ?_ _ inputs
    ⟨_, { top := .value }, rfl, .expected type, (Checker.run_eq_none_iff .value _).2 h⟩
  rintro _ ahead e later ⟨c, d, rfl, hmirrors, hrun⟩
  obtain ⟨haccepted, hlater⟩ := Checker.run_cons_eq_none_iff.1 hrun
  obtain ⟨hrelays, hnext⟩ := Caster.castStep_relays hmirrors haccepted ahead
  exact ⟨hrelays.map _, fun hfault ↦ ⟨_, _, rfl, hnext hfault, hlater⟩⟩

end ValueStream
