import ValueStream.Proofs.Checker.Outline
import ValueStream.Proofs.Checker.Passage

/-!
# Relays

Most elements relay: they refuse an event, for a reason that an error reports, or hand on one event
of the same outline. Whatever they refuse, what has been handed on by then has the outlines of what
came first (`passAll_relays`), and so it is what a stream begins with if the events that came are
(`Relayed.beginsStream`). A checker hands on what it accepts, and that is what a stream begins with
whatever came.

Some machines relay only what they can expect. So the lemma has an invariant, which may speak of the
events still to come.
-/

namespace ValueStream

variable {σ : Type}

/-- Whether what stopped something, if it was stopped, is no broken invariant. -/
def Unbroken (fault : Option Fault) : Prop := ∀ i, fault ≠ some (.broken i)

@[simp] theorem unbroken_none : Unbroken none := by simp [Unbroken]

@[simp] theorem unbroken_error (e : StreamError) : Unbroken (some (.error e)) := by
  simp [Unbroken]

/-- What is no broken invariant is an error. -/
theorem Unbroken.exists_error {fault : Fault} (h : Unbroken (some fault)) :
    ∃ e, fault = .error e := by
  cases fault with
  | error e => exact ⟨e, rfl⟩
  | broken i => exact absurd rfl (h i)

theorem Unbroken.or {first other : Option Fault} (h : Unbroken first) (h' : Unbroken other) :
    Unbroken (first.or other) := by
  cases first with
  | none => exact h'
  | some fault => exact h

/-- The kinds of the events that come into a machine or are handed on. -/
def kindsOf (xs : List (Event × Option Path)) : List EventKind := xs.map fun x ↦ x.1.kind

/-- The step refuses an event or hands on one of the same outline. -/
inductive Step.Relays (s : Step σ) (e : Event) : Prop
  /-- It refuses the event. -/
  | refuses (error : StreamError) (hfault : s.fault = some (.error error))
    (hnone : s.deliveries = [])
  /-- It hands on one event of the same outline. -/
  | handsOn (d : Delivery σ) (hfault : s.fault = none) (hone : s.deliveries = [d])
    (houtline : d.event.kind.outline = e.kind.outline)

/-- The passage is not broken, and what is handed on has the outlines of what came first. -/
structure Passage.Relayed (p : Passage σ) (kinds : List EventKind) : Prop where
  /-- No invariant is broken. -/
  unbroken : Unbroken p.fault
  /-- The outlines of the events handed on. -/
  outlines : (kindsOf p.handed).map EventKind.outline <+: kinds.map EventKind.outline

theorem Passage.Relayed.beginsStream {p : Passage σ} {kinds : List EventKind}
    (h : p.Relayed kinds) (hkinds : BeginsStream .value kinds) :
    BeginsStream .value (kindsOf p.handed) := by
  obtain ⟨first, hfirst, houtlines⟩ := List.prefix_map_iff.1 h.outlines
  exact (hkinds.of_isPrefix hfirst).of_outlines houtlines.symm

/-- What relays each event relays them all. -/
theorem passAll_relays {step : σ → Option Path → Event → Step σ}
    (inv : σ → List EventKind → Prop)
    (h : ∀ s ahead e later, inv s (e.kind :: later) → (step s ahead e).Relays e ∧
      ((step s ahead e).fault = none → inv (step s ahead e).state later))
    (s : σ) (inputs : List (Event × Option Path)) (hs : inv s (kindsOf inputs)) :
    (passAll step s inputs).Relayed (kindsOf inputs) := by
  induction inputs generalizing s with
  | nil => exact ⟨unbroken_none, List.nil_prefix⟩
  | cons x inputs ih =>
    obtain ⟨e, ahead⟩ := x
    obtain ⟨hrelays, hinv⟩ := h s ahead e _ hs
    cases hrelays with
    | refuses error hfault hnone =>
      rw [passAll]
      simp only [hfault, Step.handed, hnone]
      exact ⟨unbroken_error error, List.nil_prefix⟩
    | handsOn d hfault hone houtline =>
      obtain ⟨hunbroken, houtlines⟩ := ih _ (hinv hfault)
      rw [passAll_cons hfault]
      refine ⟨hunbroken, ?_⟩
      simpa [Passage.behind, Step.handed, hone, kindsOf, houtline] using houtlines

/-! ## Elements that relay whatever comes -/

theorem Step.relays_forward {event e : Event} (h : event.kind.outline = e.kind.outline)
    (path : Option Path) (during after : σ) : (Step.forward event path during after).Relays e :=
  .handsOn _ rfl rfl h

theorem Step.Relays.map {τ : Type} {s : Step σ} {e : Event} (h : s.Relays e) (f : σ → τ) :
    (s.map f).Relays e := by
  cases h with
  | refuses error hfault hnone => exact .refuses error hfault (by simp [Step.map, hnone])
  | handsOn d hfault hone houtline =>
    exact .handsOn (d.map f) hfault (by simp [Step.map, hone]) houtline

theorem Element.nestingStep_relays (n : Nesting) (start : Path) (e : Event)
    {change : Path → Event → Event} (h : ∀ place, (change place e).kind = e.kind) :
    (nestingStep n start e change).Relays e :=
  Step.relays_forward (by rw [h]) _ _ _

/-- Whether the element relays whatever comes: it neither checks, casts, reorders nor filters. -/
def Element.relays : Element → Bool
  | tracker _ | stamper _ _ | debug _ | record _ | relay | observer _ => true
  | checker _ | cast _ | reorder _ | filter _ => false

theorem Element.step_relays {first : Element} (h : first.relays = true) (ahead : Option Path)
    (e : Event) : (first.step ahead e).Relays e ∧ (first.step ahead e).state.relays = true := by
  cases first with
  | tracker n =>
    refine ⟨Step.Relays.map ?_ _, rfl⟩
    exact nestingStep_relays n .root e fun _ ↦ rfl
  | stamper start n =>
    refine ⟨Step.Relays.map ?_ _, rfl⟩
    exact nestingStep_relays n start e fun _ ↦ rfl
  | debug label => exact ⟨.handsOn _ rfl rfl rfl, rfl⟩
  | record id => exact ⟨.handsOn _ rfl rfl rfl, rfl⟩
  | relay => exact ⟨Step.relays_forward rfl _ _ _, rfl⟩
  | observer o =>
    refine ⟨Step.Relays.map ?_ _, rfl⟩
    rw [observerStep]
    split
    · exact .refuses _ rfl rfl
    · exact .handsOn _ rfl rfl rfl
  | checker c => cases h
  | cast c => cases h
  | reorder r => cases h
  | filter passes => cases h

theorem Element.passAll_relays {first : Element} (h : first.relays = true)
    (inputs : List (Event × Option Path)) : (first.passAll inputs).Relayed (kindsOf inputs) :=
  ValueStream.passAll_relays (fun first _ ↦ first.relays = true)
    (fun _ ahead e _ h ↦ ⟨(step_relays h ahead e).1, fun _ ↦ (step_relays h ahead e).2⟩) first
    inputs h

/-! ## Checkers -/

/-- What a checker hands on it has accepted. -/
theorem Checker.run_handed_passage (c : Checker) (inputs : List (Event × Option Path)) :
    (c.run (kindsOf (c.passage inputs).handed)).2 = none := by
  induction inputs generalizing c with
  | nil => rfl
  | cons x inputs ih =>
    obtain ⟨e, ahead⟩ := x
    cases haccepted : (c.enter e.kind).2 with
    | none =>
      rw [passage_cons_accepted haccepted]
      exact run_cons_eq_none_iff.2 ⟨haccepted, ih _⟩
    | some fault =>
      have hstep : Element.checkerStep c e = .stop (some fault) (c.enter e.kind).1 := by
        rw [Element.checkerStep]
        split <;> simp_all
      have hnone : (c.passage ((e, ahead) :: inputs)).handed = [] := by
        simp [passage, passAll, hstep, Step.stop, Step.handed]
      rw [hnone]
      rfl

/-- **A checker never breaks, and hands on what a stream begins with.** -/
theorem Checker.passage_beginsStream (top : TopType) (inputs : List (Event × Option Path)) :
    Unbroken (Checker.passage { top := top } inputs).fault ∧
      BeginsStream .value (kindsOf (Checker.passage { top := top } inputs).handed) := by
  have hfault := congrArg Prod.snd (passage_state_fault { top := top } inputs)
  refine ⟨fun i ↦ ?_, ?_⟩
  · rw [show (Checker.passage { top := top } inputs).fault = _ from hfault]
    exact run_ne_broken top _ i
  · exact ((run_eq_none_iff top _).1 (run_handed_passage _ inputs)).value

end ValueStream
