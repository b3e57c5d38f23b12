import ValueStream.Pipeline.Blueprint
import ValueStream.Proofs.Cast.Frames
import ValueStream.Proofs.Reorder.Begun

/-!
# No invariant is broken

Casts and reorders rely on the structure having been checked. A pipeline puts a checker ahead of
them, if not right ahead: what the checker lets through may have been cast and reordered by others
before it arrives. But new elements hand on what a stream begins with if that is what comes to them
(`passAll_isNew`), so that behind a checker nothing else ever comes, and a row in which casts and
reorders stand behind a checker breaks no invariant, whatever is sent into it (`unbroken_sendRow`).
Setting up a pipeline gives such a row.
-/

namespace ValueStream

/-! ## New elements -/

namespace Element

/-- Whether the element has seen no event. Observers may have seen any; filters are left out, which
may drop events in the middle of a value. -/
def IsNew : Element → Prop
  | checker c => c.nesting = [] ∧ c.done = false
  | tracker n | stamper _ n => n = []
  | cast c => ∃ type, c.frames = [.expected type]
  | reorder r => r.frames = []
  | debug _ | record _ | relay | observer _ => True
  | filter _ => False

/-- Whether the element relies on a checker ahead. -/
def needsChecker : Element → Bool
  | cast _ | reorder _ => true
  | _ => false

/-- A new element breaks no invariant if it has what it needs, and a checker hands on what a stream
begins with, as the others do if that is what comes. -/
theorem passAll_isNew {first : Element} (h : first.IsNew) {inputs : List (Event × Option Path)}
    (hneeds : first.needsChecker = true → BeginsStream .value (kindsOf inputs)) :
    Unbroken (first.passAll inputs).fault ∧
      (first.isChecker = true ∨ BeginsStream .value (kindsOf inputs) →
        BeginsStream .value (kindsOf (first.passAll inputs).handed)) := by
  by_cases hrelays : first.relays = true
  · have hrelayed := passAll_relays hrelays inputs
    have hchecker : ¬first.isChecker = true := by
      cases first <;> simp_all [relays, isChecker]
    exact ⟨hrelayed.unbroken, fun hbegins ↦
      hrelayed.beginsStream (hbegins.resolve_left hchecker)⟩
  cases first with
  | checker c =>
    obtain ⟨n, top, done⟩ := c
    obtain ⟨rfl, rfl⟩ := h
    obtain ⟨hunbroken, hbegins⟩ := Checker.passage_beginsStream top inputs
    rw [passAll_checker]
    exact ⟨hunbroken, fun _ ↦ hbegins⟩
  | cast c =>
    obtain ⟨schema, start, frames⟩ := c
    obtain ⟨type, rfl⟩ := h
    have hrelayed := passAll_cast type schema start (hneeds rfl)
    exact ⟨hrelayed.unbroken, fun _ ↦ hrelayed.beginsStream (hneeds rfl)⟩
  | reorder r =>
    obtain ⟨orders, frames⟩ := r
    obtain rfl := h
    obtain ⟨hnone, hbegins⟩ := Reorder.passage_begun orders (hneeds rfl)
    rw [passAll_reorder_eq_passage]
    exact ⟨hnone ▸ unbroken_none, fun _ ↦ hbegins⟩
  | filter passes => exact h.elim
  | tracker | stamper | debug | record | relay | observer => exact absurd rfl hrelays

end Element

/-! ## Rows with checkers where they are needed -/

/-- Whether the elements are new and each has what it needs, with a checker ahead of all or not. -/
def Guarded (checked : Bool) : List Element → Prop
  | [] => True
  | first :: rest =>
    first.IsNew ∧ (first.needsChecker = true → checked = true) ∧
      Guarded (checked || first.isChecker) rest

/-- **A row in which all have what they need breaks no invariant.** -/
theorem unbroken_sendRow {checked : Bool} {elements : List Element} (h : Guarded checked elements)
    {inputs : List (Event × Option Path)}
    (hinputs : checked = true → BeginsStream .value (kindsOf inputs)) :
    Unbroken (sendRow elements inputs).fault := by
  induction elements generalizing checked inputs with
  | nil => simp
  | cons first rest ih =>
    obtain ⟨hnew, hneeds, hrest⟩ := h
    obtain ⟨hunbroken, hbegins⟩ := Element.passAll_isNew hnew fun h ↦ hinputs (hneeds h)
    rw [fault_sendRow_cons]
    refine (ih hrest fun hchecked ↦ hbegins ?_).or hunbroken
    rcases Bool.or_eq_true _ _ ▸ hchecked with hchecked | hchecked
    · exact .inr (hinputs hchecked)
    · exact .inl hchecked

theorem Guarded.snoc {checked : Bool} {elements : List Element} (h : Guarded checked elements)
    {last : Element} (hnew : last.IsNew)
    (hneeds : last.needsChecker = true → checked || elements.any Element.isChecker) :
    Guarded checked (elements ++ [last]) := by
  induction elements generalizing checked with
  | nil => exact ⟨hnew, by simpa using hneeds, trivial⟩
  | cons first rest ih =>
    obtain ⟨hfirst, hfirstNeeds, hrest⟩ := h
    exact ⟨hfirst, hfirstNeeds, ih hrest (by simpa [Bool.or_assoc] using hneeds)⟩

/-! ## Pipelines -/

namespace Pipeline

theorem guarded_ensureChecker {p : Pipeline} (h : Guarded false p.elements) :
    Guarded false p.ensureChecker.elements ∧ p.ensureChecker.hasChecker = true := by
  rw [Pipeline.ensureChecker]
  split
  · next hchecker => exact ⟨h, hchecker⟩
  · exact ⟨h.snoc ⟨rfl, rfl⟩ nofun, by simp [hasChecker, add, Element.isChecker]⟩

/-- An element joins with what it needs ahead. -/
theorem guarded_setUp {p : Pipeline} (h : Guarded false p.elements) {e : Element} (hnew : e.IsNew) :
    Guarded false ((Blueprint.ofElement e).setUp p).1.elements := by
  cases hneeds : e.needsChecker with
  | false =>
    have hblueprint : Blueprint.ofElement e = .mk e [] none := by
      cases e <;> first | rfl | cases hneeds
    rw [hblueprint]
    exact h.snoc hnew (by simp [hneeds])
  | true =>
    have hblueprint : Blueprint.ofElement e = .mk e [.ensureChecker] none := by
      cases e <;> first | rfl | cases hneeds
    obtain ⟨hguarded, hchecker⟩ := guarded_ensureChecker h
    rw [hblueprint]
    exact hguarded.snoc hnew fun _ ↦ hchecker

theorem guarded_ofElements {elements : List Element} (h : ∀ e ∈ elements, e.IsNew) :
    Guarded false (ofElements elements).elements := by
  suffices hmeet : ∀ p : Pipeline, Guarded false p.elements →
      Guarded false (Wish.meetAll p ((elements.map .ofElement).map .add)).1.elements from
    hmeet ⟨[]⟩ trivial
  induction elements with
  | nil => exact fun p hp ↦ hp
  | cons e elements ih =>
    obtain ⟨hnew, helements⟩ := List.forall_mem_cons.1 h
    exact fun p hp ↦ ih helements _ (guarded_setUp hp hnew)

theorem unbroken_sendAll {elements : List Element} (h : ∀ e ∈ elements, e.IsNew)
    (events : List Event) : Unbroken ((ofElements elements).sendAll events).fault := by
  rw [sendAll_eq_sendRow]
  exact unbroken_sendRow (guarded_ofElements h) nofun

/-- **No invariant is ever broken.** Whatever new elements a pipeline is set up from, filters apart,
and whatever is sent into it, the run ends in no broken invariant. -/
theorem sendAll_ne_broken {elements : List Element} (h : ∀ e ∈ elements, e.IsNew)
    (events : List Event) (i : Invariant) :
    ((ofElements elements).sendAll events).fault ≠ some (.broken i) := by
  rw [sendAll_eq_sendRow]
  exact unbroken_sendRow (guarded_ofElements h) nofun i

/-- An end too many is refused by the checker, and would break the cast without it. -/
theorem sendAll_ne_broken_of_stray_end :
    let elements : List Element := [.tracker [], .reorder { orders := fun _ ↦ [] },
      .cast (.new .value .empty .root), .observer (.judge (fun _ ↦ none) [])]
    let events : List Event := [⟨.mapStart, none⟩, ⟨.close, none⟩, ⟨.close, none⟩]
    (∀ e ∈ elements, e.IsNew) ∧
      (∀ i, ((ofElements elements).sendAll events).fault ≠ some (.broken i)) ∧
      (Pipeline.sendAll ⟨elements⟩ events).fault = some (.broken (.endWithoutStart .value)) := by
  intro elements events
  have hnew : ∀ e ∈ elements, e.IsNew := by
    simp [elements, Element.IsNew, Caster.new]
  exact ⟨hnew, sendAll_ne_broken hnew events, rfl⟩

end Pipeline

end ValueStream
