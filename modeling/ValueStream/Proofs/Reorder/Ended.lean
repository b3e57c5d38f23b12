import ValueStream.Proofs.Reorder.Begun
import ValueStream.Proofs.Reorder.Stamped
import ValueStream.Proofs.Stream.Ends

/-!
# What has left when an end leaves

What a reorder has handed on at some point of a stream is what the events of an arranged value begin
with. Where it is known of each event to which place it belongs, the places are those of the
arranged value too (`passage_located`): they can be written on the events as stamps, which a reorder
overlooks. In the events of a value nothing comes after the end of a part that it is inside of, and
the arranged value has the same events in another order. So what has not left when an end leaves is
not inside of what ends (`mem_before_of_close`).
-/

namespace ValueStream

open Nesting

/-- The event as a reorder takes it, stamped with the place where it belongs. -/
def Event.formedAt (place : Event → Path) (e : Event) : Event := ⟨e.kind.form, some (place e)⟩

theorem overlooked_formedAt (place : Event → Path) : Overlooked (Event.formedAt place) :=
  fun e ↦ e.kind.form_form

namespace Reorder

variable {inputs : List (Event × Option Path)} {place : Event → Path}

/-- Events at the places where they belong. -/
def formsAt (place : Event → Path) (xs : List (Event × Option Path)) : List (EventKind × Path) :=
  xs.map fun x ↦ formAt (x.1, place x.1)

theorem inputsThrough_formedAt (place : Event → Path) (xs : List (Event × Option Path)) :
    inputsThrough (Event.formedAt place) xs =
      (formsAt place xs).map fun y ↦ ⟨y.1, some y.2⟩ := by
  rw [inputsThrough, formsAt, List.map_map]
  rfl

theorem formsAt_eq_of_inputsThrough {place place' : Event → Path}
    {xs ys : List (Event × Option Path)}
    (h : inputsThrough (Event.formedAt place) xs = inputsThrough (Event.formedAt place') ys) :
    formsAt place xs = formsAt place' ys := by
  have hpairs := congrArg (List.map fun e ↦ (e.kind, e.place)) h
  rw [inputsThrough, inputsThrough, List.map_map, List.map_map] at hpairs
  exact hpairs

/-- The events of a value are stamped with their places. -/
theorem formsAt_place (v : Value) :
    formsAt Event.place ((v.placed some .root).map fun x ↦ (x.1, some x.2)) =
      (v.placed some .root).map formAt := by
  rw [formsAt, Value.placed, Value.stampAll, List.map_map, List.map_map, List.map_map]
  rfl

/-- Where it is known of each event that comes to which place it belongs, what leaves is what the
events of an arranged value begin with, at the same places. -/
theorem passage_located (orders : QualifiedName → List Identifier)
    (h : BeginsStream .value (kindsOf inputs))
    (hplace : inputs.map (place ·.1) = (locate .root [] (inputs.map Prod.fst)).map Prod.snd) :
    ∃ v : Value, v.WellFormed ∧ formsAt place inputs <+: (v.placed some .root).map formAt ∧
      formsAt place (passage { orders := orders } inputs).handed <+:
        ((v.arranged orders).placed some .root).map formAt := by
  obtain ⟨v, hv, later, hsame⟩ := exists_value_of_beginsStream h
  let whole := (v.placed some .root).map fun x ↦ (x.1, some x.2)
  let first := whole.take inputs.length
  -- What comes has the forms of what the events of the value begin with,
  have hforms : (inputs.map Prod.fst).map (·.kind.form) =
      (first.map Prod.fst).map (·.kind.form) := by
    rw [inputsThrough_formed_eq_iff, kindsOf_placed, ← v.kinds_placed some .root] at hsame
    have htake := congrArg (List.take inputs.length) hsame
    simpa [kindsOf, first, whole, Function.comp_def] using htake
  -- and so it belongs to the same places.
  have hfirst : formsAt place inputs = formsAt Event.place first := by
    have hlocated : locate .root [] (whole.map Prod.fst) = v.placed some .root := by
      have hplaced := @locate_placed some .root [] [] v
      simpa [whole, Function.comp_def, nextPath, nextElement, locate] using hplaced
    have hinputs : locate .root [] (inputs.map Prod.fst) = inputs.map fun x ↦ (x.1, place x.1) := by
      rw [List.zip_of_prod (fst_locate ..) hplace.symm, List.zip_map']
    have hlocate := @locate_forms .root [] _ _ hforms
    rw [hinputs, List.map_take, locate_take, hlocated, List.map_take, ← formsAt_place,
      List.map_map] at hlocate
    exact hlocate.trans List.map_take.symm
  -- The reorder takes the one for the other, and is done with the events of the value.
  have hthrough : inputsThrough (Event.formedAt place) inputs =
      inputsThrough (Event.formedAt Event.place) first := by
    rw [inputsThrough_formedAt, inputsThrough_formedAt, hfirst]
  have hhanded := formsAt_eq_of_inputsThrough
    (passage_through (overlooked_formedAt place) (overlooked_formedAt Event.place)
      (@rfl _ (through _ { orders := orders })) hthrough).handed
  have hpasses : passage { orders := orders } whole = _ := @passes_value some orders v hv .root
  have hcut : first ++ whole.drop inputs.length = whole := List.take_append_drop _ _
  obtain ⟨-, hprefix⟩ := @passAll_of_append _ (fun r ahead e ↦ step r (ahead.getD .root) e)
    { orders := orders } first (whole.drop inputs.length)
    (by rw [hcut]; exact congrArg Passage.fault hpasses)
  refine ⟨v, hv, ?_, ?_⟩
  · rw [hfirst, ← formsAt_place]
    exact (List.take_prefix _ _).map _
  · rw [hhanded, ← formsAt_place]
    rw [hcut] at hprefix
    change _ <+: (passage { orders := orders } whole).handed at hprefix
    rw [hpasses] at hprefix
    exact hprefix.map _

/-- **When an end leaves, all that it ends has left.** -/
theorem mem_before_of_close {v w : Value} (hw : w.WellFormed)
    (hperm : ((w.placed some .root).map formAt).Perm ((v.placed some .root).map formAt))
    {xs handed kept : List (Event × Path)} (hconserved : xs.Perm (handed ++ kept))
    (hcome : xs.map formAt <+: (v.placed some .root).map formAt)
    (hleft : handed.map formAt <+: (w.placed some .root).map formAt)
    {before after : List (Event × Path)} {x y : Event × Path} (hclose : x.1.kind = .close)
    (hhanded : handed = before ++ x :: after) (hy : y ∈ xs) (hinside : x.2.Encloses y.2) :
    y ∈ before := by
  obtain ⟨later, hlater⟩ := hcome
  obtain ⟨rest, hrest⟩ := hleft
  -- What is kept is among the events that leave later.
  have hkept : rest.Perm (kept.map formAt ++ later) := by
    rw [← hrest, ← hlater] at hperm
    have hall := hperm.trans ((hconserved.map formAt).append_right later)
    rw [List.map_append, List.append_assoc] at hall
    exact (List.perm_append_left_iff _).1 hall
  have hlast := Value.placed_endsLast hw some .root
  rw [← hrest, hhanded, List.map_append, List.map_cons, List.append_assoc, List.pairwise_append]
    at hlast
  have hlater := (List.pairwise_cons.1 hlast.2.1).1
  have hnot : formAt y ∉ after.map formAt ++ rest := fun hmem ↦
    hlater _ hmem (by rw [formAt, hclose]; rfl) hinside
  rw [List.mem_append, not_or] at hnot
  have hmem := hconserved.subset hy
  rw [hhanded, List.mem_append, List.mem_append, List.mem_cons] at hmem
  obtain (hbefore | rfl | hafter) | hwaits := hmem
  · exact hbefore
  · exact absurd hinside (Path.not_encloses_of_isPrefix List.prefix_rfl)
  · exact absurd (List.mem_map_of_mem hafter) hnot.1
  · exact absurd (hkept.mem_iff.2 (List.mem_append_left _ (List.mem_map_of_mem hwaits))) hnot.2

end Reorder

end ValueStream
