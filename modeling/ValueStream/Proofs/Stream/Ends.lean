import ValueStream.Proofs.Reorder.Overlook
import ValueStream.Proofs.Stream.Locations

/-!
# An end comes last

The end of a map, struct or list is located where its start is, and all that it encloses further in.
So among the located events of a value none that is inside of a part comes after the end of the part
(`Value.locatedEvents_endsLast`): after it come parts beside it, and the ends of those around it.

Where an event is located depends on what came before it and on nothing else, so that what a stream
begins with is located as it is in the whole stream (`Nesting.locate_take`), and stamps and scalars
make no difference (`Nesting.locate_forms`).
-/

namespace ValueStream

/-- Whether another path leads further in. -/
def Path.Encloses (p q : Path) : Prop := ∃ step rest, q.segments = p.segments ++ step :: rest

theorem Path.not_encloses_of_isPrefix {p q : Path} (h : q.segments <+: p.segments) :
    ¬p.Encloses q := by
  rintro ⟨step, rest, heq⟩
  have hlength := h.length_le
  rw [heq, List.length_append, List.length_cons] at hlength
  omega

namespace Value

variable {p : Path}

theorem segments_isPrefix_of_mem {v : Value} {x : EventKind × Path} (h : x ∈ v.locatedEvents p) :
    p.segments <+: x.2.segments := by
  have hlocated := v.locatedEvents_append p .root
  rw [Path.append_root] at hlocated
  rw [hlocated, List.mem_map] at h
  obtain ⟨y, -, rfl⟩ := h
  exact List.prefix_append _ _

/-- The event does not end what the other one is part of. -/
def EndsLast (x y : EventKind × Path) : Prop := x.1 = .close → ¬x.2.Encloses y.2

/-- What is located behind one step into a part does not end what is behind another one. -/
private theorem endsLast_of_push {step step' : Segment} (hne : step ≠ step')
    {x y : EventKind × Path} (hx : (p.push step).segments <+: x.2.segments)
    (hy : (p.push step').segments <+: y.2.segments) : EndsLast x y := by
  rintro - ⟨next, rest, heq⟩
  have hx' : (p.push step).segments <+: y.2.segments := by
    rw [heq]
    exact hx.trans (List.prefix_append _ _)
  have hsame := (List.prefix_of_prefix_length_le hx' hy (by simp)).eq_of_length (by simp)
  exact hne (by simpa using hsame)

/-- A part that is opened and closed at a path, with all other events of it further in. -/
private theorem pairwise_endsLast {start : EventKind} (hstart : start ≠ .close)
    {inside : List (EventKind × Path)} (hpath : ∀ x ∈ inside, p.segments <+: x.2.segments)
    (h : inside.Pairwise EndsLast) :
    ((start, p) :: (inside ++ [(.close, p)])).Pairwise EndsLast := by
  refine List.pairwise_cons.2 ⟨fun y _ hclose ↦ absurd hclose hstart, ?_⟩
  refine List.pairwise_append.2 ⟨h, List.pairwise_singleton _ _, fun x hx y hy _ ↦ ?_⟩
  obtain rfl := List.mem_singleton.1 hy
  exact Path.not_encloses_of_isPrefix (hpath x hx)

theorem isPrefix_of_mem_locatedFields {fields : Fields} {x : EventKind × Path}
    (h : x ∈ locatedFields p fields) : ∃ f ∈ fields, (p.field f.1).segments <+: x.2.segments := by
  obtain ⟨f, hf, rfl | hx⟩ := mem_locatedFields_iff.1 h
  · exact ⟨f, hf, List.prefix_rfl⟩
  · exact ⟨f, hf, segments_isPrefix_of_mem hx⟩

theorem isPrefix_of_mem_locatedElements {elements : List Value} {position : Nat}
    {x : EventKind × Path} (h : x ∈ locatedElements p position elements) :
    ∃ i, position ≤ i ∧ (p.index i).segments <+: x.2.segments := by
  obtain ⟨i, u, -, hx⟩ := mem_locatedElements_iff.1 h
  exact ⟨position + i, Nat.le_add_right position i, segments_isPrefix_of_mem hx⟩

private theorem locatedFields_endsLast {fields : Fields} (hkeys : (Fields.keys fields).Nodup)
    (ih : ∀ f ∈ fields, (f.2.locatedEvents (p.field f.1)).Pairwise EndsLast) :
    (locatedFields p fields).Pairwise EndsLast := by
  induction fields with
  | nil => simp [locatedFields]
  | cons f rest hrest =>
    obtain ⟨hname, hkeys⟩ := List.nodup_cons.1 hkeys
    obtain ⟨hf, hlater⟩ := List.forall_mem_cons.1 ih
    rw [locatedFields, List.pairwise_cons, List.pairwise_append]
    refine ⟨fun y _ hclose ↦ by simp at hclose, hf, hrest hkeys hlater, fun x hx y hy ↦ ?_⟩
    obtain ⟨g, hg, hy⟩ := isPrefix_of_mem_locatedFields hy
    refine endsLast_of_push (fun heq ↦ hname ?_) (segments_isPrefix_of_mem hx) hy
    exact List.mem_map.2 ⟨g, hg, (Segment.field.inj heq).symm⟩

private theorem locatedElements_endsLast {elements : List Value} {position : Nat}
    (ih : ∀ u ∈ elements, ∀ {p : Path}, (u.locatedEvents p).Pairwise EndsLast) :
    (locatedElements p position elements).Pairwise EndsLast := by
  induction elements generalizing position with
  | nil => simp [locatedElements]
  | cons u rest hrest =>
    obtain ⟨hu, hlater⟩ := List.forall_mem_cons.1 ih
    rw [locatedElements, List.pairwise_append]
    refine ⟨hu, hrest hlater, fun x hx y hy ↦ ?_⟩
    obtain ⟨i, hi, hy⟩ := isPrefix_of_mem_locatedElements hy
    refine endsLast_of_push (fun heq ↦ ?_) (segments_isPrefix_of_mem hx) hy
    obtain rfl := Segment.index.inj heq
    omega

/-- **No event comes after the end of a part that it belongs to.** -/
theorem locatedEvents_endsLast {v : Value} (hv : v.WellFormed) :
    (v.locatedEvents p).Pairwise EndsLast := by
  induction v using Value.induct generalizing p with
  | scalar s => simp [locatedEvents]
  | map fields ih | struct type fields ih =>
    rw [WellFormed, fieldsWellFormed_iff] at hv
    rw [locatedEvents]
    refine pairwise_endsLast (by simp) (fun x hx ↦ ?_)
      (locatedFields_endsLast hv.1 fun f hf ↦ ih f hf (hv.2 f hf))
    obtain ⟨f, -, hprefix⟩ := isPrefix_of_mem_locatedFields hx
    exact (List.prefix_append _ _).trans hprefix
  | list type elements ih =>
    rw [WellFormed, elementsWellFormed_iff] at hv
    rw [locatedEvents]
    refine pairwise_endsLast (by simp) (fun x hx ↦ ?_)
      (locatedElements_endsLast fun u hu {_} ↦ ih u hu (hv u hu))
    obtain ⟨i, -, hprefix⟩ := isPrefix_of_mem_locatedElements hx
    exact (List.prefix_append _ _).trans hprefix

end Value

/-! ## What a stream begins with -/

/-- An event as a reorder takes it, with the place where it belongs. -/
def formAt (x : Event × Path) : EventKind × Path := (x.1.kind.form, x.2)

namespace Nesting

variable {start : Path} {n : Nesting}

/-- What comes first is located as it is with what comes after it. -/
theorem locate_take (es : List Event) (k : Nat) :
    n.locate start (es.take k) = (n.locate start es).take k := by
  induction es generalizing n k with
  | nil => simp [locate]
  | cons e es ih =>
    cases k with
    | zero => rfl
    | succ k => rw [List.take_succ_cons, locate, locate, List.take_succ_cons, ih]

/-- Events of the same forms are located alike. -/
theorem locate_forms {es fs : List Event} (h : es.map (·.kind.form) = fs.map (·.kind.form)) :
    (n.locate start es).map formAt = (n.locate start fs).map formAt := by
  induction es generalizing n fs with
  | nil =>
    obtain rfl : fs = [] := by simpa using h.symm
    rfl
  | cons e es ih =>
    obtain ⟨f, fs, rfl, hform, hlater⟩ := List.map_eq_cons_iff.1 h.symm
    rw [locate, locate, List.map_cons, List.map_cons, ← enter_eq_of_form hform,
      ← leave_eq_of_form hform, ih hlater.symm, formAt, formAt, hform]

end Nesting

/-- What the events of a value are taken for ends with the end of each part too. -/
theorem Value.placed_endsLast {v : Value} (hv : v.WellFormed) (stamp : Path → Option Path)
    (p : Path) : ((v.placed stamp p).map formAt).Pairwise Value.EndsLast := by
  have hclose : ∀ kind : EventKind, kind.form = .close → kind = .close := by
    rintro (_ | _ | _ | _ | _ | _) h <;> simp [EventKind.form] at h ⊢
  rw [Value.placed, Value.stampAll, List.map_map, List.pairwise_map]
  exact (Value.locatedEvents_endsLast hv).imp fun hxy hx ↦ hxy (hclose _ hx)

end ValueStream
