import ValueStream.Proofs.Pipeline.Relay
import ValueStream.Proofs.Reorder.Arranged
import ValueStream.Proofs.Reorder.Overlook

/-!
# Reorders on streams that have begun

Behind a checker a reorder sees what a stream begins with, and no more may ever come. What has come
can be continued to the events of a value, if what comes as a whole is taken for null, which a
reorder overlooks. The events of a value come to those of the arranged value, and nothing
stops them. So nothing stops the events that have come, and what the reorder has handed on by then
is what the stream of the arranged value begins with (`passage_begun`).
-/

namespace ValueStream

/-- A passage that is not stopped later is not stopped before, and goes on from what it has handed
on by then. -/
theorem passAll_of_append {σ : Type} {step : σ → Option Path → Event → Step σ} {s : σ}
    {xs ys : List (Event × Option Path)} (h : (passAll step s (xs ++ ys)).fault = none) :
    (passAll step s xs).fault = none ∧
      (passAll step s xs).handed <+: (passAll step s (xs ++ ys)).handed := by
  induction xs generalizing s with
  | nil => exact ⟨rfl, List.nil_prefix⟩
  | cons x xs ih =>
    obtain ⟨e, ahead⟩ := x
    cases hfault : (step s ahead e).fault with
    | some fault => simp [passAll, hfault] at h
    | none =>
      rw [List.cons_append, passAll_cons hfault] at h ⊢
      obtain ⟨hnone, hhanded⟩ := ih h
      rw [passAll_cons hfault]
      exact ⟨hnone, (List.prefix_append_right_inj _).2 hhanded⟩

theorem EventKind.isPlain_form (kind : EventKind) : kind.form.IsPlain := by
  cases kind <;> trivial

@[simp] theorem EventKind.outline_form (kind : EventKind) : kind.form.outline = kind.outline := by
  cases kind <;> rfl

namespace Reorder

theorem inputsThrough_formed (xs : List (Event × Option Path)) :
    inputsThrough Event.formed xs =
      ((kindsOf xs).map EventKind.form).map fun kind ↦ ⟨kind, none⟩ := by
  rw [inputsThrough, kindsOf, List.map_map, List.map_map]
  rfl

theorem inputsThrough_formed_eq_iff {xs ys : List (Event × Option Path)} :
    inputsThrough Event.formed xs = inputsThrough Event.formed ys ↔
      (kindsOf xs).map EventKind.form = (kindsOf ys).map EventKind.form := by
  refine ⟨fun h ↦ ?_, fun h ↦ by rw [inputsThrough_formed, inputsThrough_formed, h]⟩
  have hkinds := congrArg (List.map Event.kind) h
  simpa [inputsThrough, Event.formed, kindsOf, Function.comp_def] using hkinds

theorem kindsOf_placed (v : Value) (p : Path) :
    kindsOf ((v.placed (fun _ ↦ none) p).map fun x ↦ (x.1, some x.2)) = v.events.map (·.kind) := by
  rw [← v.fst_placed p, kindsOf, List.map_map, List.map_map]
  rfl

/-- What a stream begins with is, as a reorder takes it, what the stream of a value begins with. -/
theorem exists_value_of_beginsStream {inputs : List (Event × Option Path)}
    (h : BeginsStream .value (kindsOf inputs)) :
    ∃ v : Value, v.WellFormed ∧ ∃ later : List (Event × Option Path),
      inputsThrough Event.formed (inputs ++ later) =
        inputsThrough Event.formed
          ((v.placed (fun _ ↦ none) .root).map fun x ↦ (x.1, some x.2)) := by
  obtain ⟨⟨rest, hs⟩, -⟩ := h
  have hform : IsValueStream ((kindsOf inputs ++ rest).map EventKind.form) :=
    hs.of_outlines (by simp [Function.comp_def])
  obtain ⟨v, hv, hkinds⟩ := hform.exists_value fun kind hkind ↦ by
    obtain ⟨kind, -, rfl⟩ := List.mem_map.1 hkind
    exact kind.isPlain_form
  refine ⟨v, hv, rest.map fun kind ↦ (⟨kind, none⟩, none), ?_⟩
  rw [inputsThrough_formed_eq_iff, kindsOf_placed, hkinds]
  simp [kindsOf, Function.comp_def]

/-- **Nothing stops a reorder where a stream has begun, and what it hands on is what a stream begins
with.** -/
theorem passage_begun (orders : QualifiedName → List Identifier)
    {inputs : List (Event × Option Path)} (h : BeginsStream .value (kindsOf inputs)) :
    (passage { orders := orders } inputs).fault = none ∧
      BeginsStream .value (kindsOf (passage { orders := orders } inputs).handed) := by
  obtain ⟨v, hv, later, hsame⟩ := exists_value_of_beginsStream h
  have hpasses : passage { orders := orders } _ = _ :=
    @passes_value (fun _ ↦ none) orders v hv .root
  obtain ⟨hhanded, -, hstops⟩ := @passage_through _ _ overlooked_formed overlooked_formed
    { orders := orders } _ rfl _ _ hsame
  rw [hpasses] at hhanded hstops
  have hfault : (passage { orders := orders } (inputs ++ later)).fault = none := by
    simpa using hstops
  have hwhole :
      IsValueStream (kindsOf (passage { orders := orders } (inputs ++ later)).handed) := by
    have harranged : (v.arranged orders).WellFormed := hv.arranged
    refine (Value.isValueStream_events harranged).of_outlines ?_
    rw [inputsThrough_formed_eq_iff, kindsOf_placed] at hhanded
    have houtlines := congrArg (List.map EventKind.outline) hhanded
    simpa [Function.comp_def] using houtlines.symm
  obtain ⟨hnone, hfirst⟩ := passAll_of_append hfault
  have hbegins : BeginsStream .value
      (kindsOf (passage { orders := orders } (inputs ++ later)).handed) :=
    ⟨⟨[], by rwa [List.append_nil]⟩, fun _ _ ↦ rfl⟩
  exact ⟨hnone, hbegins.of_isPrefix (hfirst.map _)⟩

end Reorder

theorem Element.passAll_reorder_eq_passage (r : Reorder) (inputs : List (Event × Option Path)) :
    (Element.reorder r).passAll inputs = (r.passage inputs).map .reorder :=
  passAll_map (fun _ _ _ ↦ rfl) r inputs

end ValueStream
