import Mathlib.Data.List.Induction
import ValueStream.Proofs.Cast.Parts
import ValueStream.Proofs.Stream.Tracker

/-!
# The nodes that events belong to

A stamper never sees a value, only its events one by one, and yet the paths that it writes on them
lead to the nodes of the value. `Value.locatedEvents` says in which order the events come and where
each is located. Here this is compared with the nodes that are found by following a path into the
value: an event is located at a path if and only if it is one of the node there, or announces a
field of the node that the last step starts from (`mem_locatedEvents_iff`). One direction follows
the value, the other one the path: the events of a node stand together in those of every node around
it (`locatedEvents_isInfix`).
-/

namespace ValueStream

namespace Value

/-- The events of a node itself, without those of its fields or elements. -/
def ownEvents : Value → List EventKind
  | scalar s => [.value (.scalar s)]
  | map _ => [.mapStart, .close]
  | list type _ => [.listStart type, .close]
  | struct type _ => [.structStart type, .close]

/-- Which events belong where in a value. -/
inductive HasEventAt (root : Value) : EventKind → Path → Prop
  /-- A scalar, a start or an end belongs where its node is. -/
  | node {p : Path} {v : Value} {kind : EventKind} (hv : root.part? p.segments = some v)
    (hkind : kind ∈ v.ownEvents) : HasEventAt root kind p
  /-- What announces a field belongs one step further than the node that has the field. -/
  | field {p : Path} {v : Value} {fields : Fields} {name : Identifier}
    (hv : root.part? p.segments = some v) (hfields : v.fields? = some fields)
    (hname : name ∈ Fields.keys fields) : HasEventAt root (.fieldStart name) (p.field name)

variable {root v w : Value} {p q : Path} {kind : EventKind}

/-! ## From the events to the nodes -/

theorem mem_locatedFields_iff {fields : Fields} {x : EventKind × Path} :
    x ∈ locatedFields p fields ↔ ∃ f ∈ fields,
      x = (.fieldStart f.1, p.field f.1) ∨ x ∈ f.2.locatedEvents (p.field f.1) := by
  rw [locatedFields_eq_flatMap, List.mem_flatMap]
  simp only [List.mem_cons]

theorem mem_locatedElements_iff {elements : List Value} {position : Nat} {x : EventKind × Path} :
    x ∈ locatedElements p position elements ↔ ∃ (i : Nat) (u : Value), elements[i]? = some u ∧
      x ∈ u.locatedEvents (p.index (position + i)) := by
  induction elements generalizing position with
  | nil => simp [locatedElements]
  | cons v rest ih =>
    rw [locatedElements, List.mem_append, ih]
    constructor
    · rintro (hx | ⟨i, u, hu, hx⟩)
      · exact ⟨0, v, rfl, hx⟩
      · refine ⟨i + 1, u, hu, ?_⟩
        rwa [Nat.add_assoc, Nat.add_comm 1 i] at hx
    · rintro ⟨i, u, hu, hx⟩
      cases i with
      | zero =>
        obtain rfl : v = u := by simpa using hu
        exact .inl hx
      | succ i =>
        refine .inr ⟨i, u, hu, ?_⟩
        rwa [Nat.add_assoc, Nat.add_comm 1 i]

/-- The events of a map or struct are its own and those of its fields. -/
theorem mem_locatedEvents_of_fields {fields : Fields} (hv : v.fields? = some fields) :
    (kind, q) ∈ v.locatedEvents p ↔ (kind ∈ v.ownEvents ∧ q = p) ∨ ∃ f ∈ fields,
      (kind, q) = (.fieldStart f.1, p.field f.1) ∨ (kind, q) ∈ f.2.locatedEvents (p.field f.1) := by
  rw [← mem_locatedFields_iff]
  cases v with
  | scalar s => cases hv
  | list type elements => cases hv
  | map fields | struct type fields =>
    cases hv
    simp only [locatedEvents, ownEvents, List.mem_cons, List.mem_append, List.not_mem_nil,
      or_false, Prod.mk.injEq]
    grind

private theorem hasEventAt_of_fields {fields : Fields} (hv : v.fields? = some fields)
    (hkeys : (Fields.keys fields).Nodup)
    (ih : ∀ f ∈ fields, ∀ {p}, root.part? p.segments = some f.2 →
      (kind, q) ∈ f.2.locatedEvents p → root.HasEventAt kind q)
    (hroot : root.part? p.segments = some v) (h : (kind, q) ∈ v.locatedEvents p) :
    root.HasEventAt kind q := by
  rw [mem_locatedEvents_of_fields hv] at h
  obtain ⟨hkind, rfl⟩ | ⟨f, hf, hx | hx⟩ := h
  · exact .node hroot hkind
  · obtain ⟨rfl, rfl⟩ := Prod.mk.inj hx
    exact .field hroot hv (List.mem_map_of_mem hf)
  · exact ih f hf (part?_field hv hkeys hf hroot) hx

/-- The events of a node in a larger value are located where they belong. -/
theorem hasEventAt_of_mem (hv : v.WellFormed) (hroot : root.part? p.segments = some v)
    (h : (kind, q) ∈ v.locatedEvents p) : root.HasEventAt kind q := by
  induction v using Value.induct generalizing p with
  | scalar s =>
    obtain ⟨rfl, rfl⟩ : kind = .value (.scalar s) ∧ q = p := by simpa [locatedEvents] using h
    exact .node hroot (by simp [ownEvents])
  | map fields ih | struct type fields ih =>
    rw [WellFormed, fieldsWellFormed_iff] at hv
    exact hasEventAt_of_fields rfl hv.1 (fun f hf _ ↦ ih f hf (hv.2 f hf)) hroot h
  | list type elements ih =>
    rw [WellFormed, elementsWellFormed_iff] at hv
    simp only [locatedEvents, List.mem_cons, List.mem_append, List.not_mem_nil, or_false,
      Prod.mk.injEq] at h
    obtain ⟨rfl, rfl⟩ | hx | ⟨rfl, rfl⟩ := h
    · exact .node hroot (by simp [ownEvents])
    · obtain ⟨i, u, hu, hx⟩ := mem_locatedElements_iff.1 hx
      rw [Nat.zero_add] at hx
      have hmem := List.mem_of_getElem? hu
      exact ih u hmem (hv u hmem) (part?_index hu hroot) hx
    · exact .node hroot (by simp [ownEvents])

/-! ## From the nodes to the events -/

theorem locatedFields_isInfix {fields : Fields} {f : Identifier × Value} (hf : f ∈ fields) :
    f.2.locatedEvents (p.field f.1) <:+: locatedFields p fields := by
  rw [locatedFields_eq_flatMap, List.flatMap_def]
  exact (List.suffix_cons _ _).isInfix.trans (List.infix_of_mem_flatten (List.mem_map_of_mem hf))

theorem locatedElements_isInfix {elements : List Value} {position i : Nat} {u : Value}
    (hu : elements[i]? = some u) :
    u.locatedEvents (p.index (position + i)) <:+: locatedElements p position elements := by
  induction elements generalizing position i with
  | nil => cases hu
  | cons v rest ih =>
    rw [locatedElements]
    cases i with
    | zero =>
      obtain rfl : v = u := by simpa using hu
      exact (List.prefix_append _ _).isInfix
    | succ i =>
      have hrest := @ih (position + 1) i hu
      rw [Nat.add_assoc, Nat.add_comm 1 i] at hrest
      exact hrest.trans (List.suffix_append _ _).isInfix

/-- One step into a value. -/
theorem locatedEvents_push_isInfix {step : Segment} (h : v.part? [step] = some w) :
    w.locatedEvents (p.push step) <:+: v.locatedEvents p := by
  cases v with
  | scalar s => cases step <;> cases h
  | list type elements =>
    cases step with
    | field name => cases h
    | index i =>
      have hw : elements[i]? = some w := by simpa [part?] using h
      have helements := @locatedElements_isInfix p elements 0 i w hw
      rw [Nat.zero_add] at helements
      rw [locatedEvents]
      exact List.infix_cons (helements.trans (List.prefix_append _ _).isInfix)
  | map fields | struct type fields =>
    cases step with
    | index i => cases h
    | field name =>
      have hlookup : fields.lookup name = some w := by simpa [part?] using h
      obtain ⟨before, after, rfl, -⟩ := List.lookup_eq_some_iff.1 hlookup
      have hw : (name, w) ∈ before ++ (name, w) :: after := by simp
      rw [locatedEvents]
      exact List.infix_cons ((locatedFields_isInfix hw).trans (List.prefix_append _ _).isInfix)

/-- **The events of a node stand together in those of the value**, at the location of the node. -/
theorem locatedEvents_isInfix (h : v.part? q.segments = some w) :
    w.locatedEvents (p ++ q) <:+: v.locatedEvents p := by
  obtain ⟨steps⟩ := q
  induction steps using List.reverseRecOn generalizing w with
  | nil =>
    obtain rfl : v = w := by simpa using h
    have hroot : p ++ (⟨[]⟩ : Path) = p := p.append_root
    exact hroot.symm ▸ List.infix_rfl
  | append_singleton steps step ih =>
    -- The last step leads from a node whose events stand together.
    rw [part?_append] at h
    obtain ⟨u, hu, hw⟩ := Option.bind_eq_some_iff.1 h
    have hpush : p ++ (⟨steps ++ [step]⟩ : Path) = (p ++ ⟨steps⟩ : Path).push step :=
      Path.append_push p ⟨steps⟩ step
    rw [hpush]
    exact (locatedEvents_push_isInfix hw).trans (ih hu)

theorem mem_locatedEvents_of_own (h : kind ∈ v.ownEvents) : (kind, p) ∈ v.locatedEvents p := by
  cases v with
  | scalar s => simpa [ownEvents, locatedEvents] using h
  | map | list | struct =>
    simp only [ownEvents, List.mem_cons, List.not_mem_nil, or_false] at h
    obtain rfl | rfl := h <;> simp [locatedEvents]

/-- Every event is located where it belongs, and wherever one belongs there it is. -/
theorem mem_locatedEvents_iff (hv : v.WellFormed) :
    (kind, p) ∈ v.locatedEvents .root ↔ v.HasEventAt kind p := by
  constructor
  · exact hasEventAt_of_mem hv (part?_nil v)
  · intro h
    cases h with
    | @node p u kind hu hkind =>
      have hinfix := @locatedEvents_isInfix v u .root p hu
      rw [Path.root_append] at hinfix
      exact hinfix.subset (mem_locatedEvents_of_own hkind)
    | @field p u fields name hu hfields hname =>
      have hinfix := @locatedEvents_isInfix v u .root p hu
      rw [Path.root_append] at hinfix
      obtain ⟨f, hf, rfl⟩ := List.mem_map.1 hname
      exact hinfix.subset ((mem_locatedEvents_of_fields hfields).2 (.inr ⟨f, hf, .inl rfl⟩))

end Value

/-! ## A stamper -/

namespace Pipeline

variable {v : Value}

/-- **A stamper writes on every event where in the value its node is.** The events of the value come
to a note-taker behind it as they come without it, in the same order, each stamped with the start
and then the location that it belongs to; and each event of each node is among them. -/
theorem stamper_writes_locations (h : v.WellFormed) (start : Path) (id : String) :
    let located := v.locatedEvents .root
    (ofElements [.observer (.note id)]).visit v =
        { elements := [.observer (.note id)]
          notes := located.map fun x ↦ .seen id ⟨x.1, none⟩ none } ∧
      (ofElements [.stamper start [], .observer (.note id)]).visit v =
        { elements := [.stamper start [], .observer (.note id)]
          notes := located.map fun x ↦ .seen id ⟨x.1, some (start ++ x.2)⟩ none } ∧
      ∀ kind p, (kind, p) ∈ located ↔ v.HasEventAt kind p := by
  intro located
  refine ⟨?_, ?_, fun kind p ↦ Value.mem_locatedEvents_iff h⟩
  · have hsetUp : ofElements [.observer (.note id)] = ⟨[.observer (.note id)]⟩ := rfl
    rw [hsetUp, visit_eq_sendRow, sendRow_note, ← v.fst_placed .root]
    simp [Value.placed, Value.stampAll, located]
  · have hevents : (v.events.map fun e ↦ (e, (none : Option Path))).map (·.1.kind) =
        v.events.map (·.kind) := by
      rw [List.map_map]
      rfl
    have hstamper := Element.passAll_stamper_events h start hevents
    have hsetUp : ofElements [.stamper start [], .observer (.note id)] =
        ⟨[.stamper start [], .observer (.note id)]⟩ := rfl
    rw [hsetUp, visit_eq_sendRow]
    refine sendRow_cons_of_passes_all rfl hstamper ?_
    rw [sendRow_note, Value.placed_some]
    simp [located]

/-- A list in a struct: its elements count, whether they are scalars or not, and the field after it
is a field of the struct again. -/
theorem stamper_writes_locations_of_list :
    let a : Identifier := ⟨"a", by decide⟩
    let b : Identifier := ⟨"b", by decide⟩
    let t : QualifiedName := ⟨"m@v1", "T", by decide, by decide⟩
    let x : Scalar := .string "x"
    let v : Value := .struct t [(a, .list .opaque_ [.scalar x, .map [(a, .null)]]), (b, .scalar x)]
    let start := Path.root.field b
    v.WellFormed ∧
      (ofElements [.stamper start [], .observer (.note "n")]).visit v =
        { elements := [.stamper start [], .observer (.note "n")]
          notes := ([(.structStart t, .root), (.fieldStart a, Path.root.field a),
            (.listStart .opaque_, Path.root.field a),
            (.value (.scalar x), (Path.root.field a).index 0),
            (.mapStart, (Path.root.field a).index 1),
            (.fieldStart a, ((Path.root.field a).index 1).field a),
            (.value .null, ((Path.root.field a).index 1).field a),
            (.close, (Path.root.field a).index 1), (.close, Path.root.field a),
            (.fieldStart b, Path.root.field b), (.value (.scalar x), Path.root.field b),
            (.close, .root)] : List (EventKind × Path)).map fun x ↦
              .seen "n" ⟨x.1, some (start ++ x.2)⟩ none } ∧
      v.HasEventAt .mapStart ((Path.root.field a).index 1) := by
  intro a b t x v start
  have h : v.WellFormed := by
    simp [v, Value.WellFormed, Value.ElementsWellFormed, Value.FieldsWellFormed, Value.null,
      Fields.keys, a, b]
  obtain ⟨-, hvisit, hmem⟩ := stamper_writes_locations h start "n"
  refine ⟨h, hvisit, (hmem _ _).1 ?_⟩
  simp [v, Value.locatedEvents, Value.locatedFields, Value.locatedElements]

end Pipeline

end ValueStream
