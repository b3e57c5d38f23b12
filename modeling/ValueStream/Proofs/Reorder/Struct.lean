import ValueStream.Proofs.Reorder.Step
import ValueStream.Proofs.Value.Arranged

/-!
# What a reorder does with the fields of a struct

Between two fields the frame of a struct is that of somebody who arranges fields: it knows the names
whose turn is to come, and the fields that it holds back are kept as their events. The frame
`Tracks` these two; then letting fields go and sending what is left when the struct ends are
`Fields.ready` and `Fields.rest`, and the start of a field decides as `Fields.arrangeFrom` does.
-/

namespace ValueStream

variable {stamp : Path → Option Path}

/-- The events that are kept of fields of a struct at a path. -/
def heldEvents (stamp : Path → Option Path) (p : Path) (held : Fields) :
    List (Identifier × List Event) :=
  held.map fun f ↦ (f.1, (Value.placedFields stamp p [f]).map Prod.fst)

namespace OpenStruct

/-- The frame after fields have left whose turn it was, with others held back. -/
def advance (f : OpenStruct) (stamp : Path → Option Path) (out held : Fields) : OpenStruct :=
  { f with
    next := f.next + out.length
    forwarded := f.forwarded ++ Fields.keys out
    held := heldEvents stamp f.base held }

@[simp] theorem base_advance (f : OpenStruct) (out held : Fields) :
    (f.advance stamp out held).base = f.base := rfl

theorem advance_nil {f : OpenStruct} {held : Fields} (h : f.held = heldEvents stamp f.base held) :
    f.advance stamp [] held = f := by
  simp [advance, ← h]

theorem advance_advance (f : OpenStruct) (now later held held' : Fields) :
    (f.advance stamp now held).advance stamp later held' =
      f.advance stamp (now ++ later) held' := by
  simp [advance, Nat.add_assoc]

/-- The frame is that of a struct between two of its fields, with names whose turn is to come and
fields held back. The field whose turn it is is not held back. -/
structure Tracks (g : OpenStruct) (stamp : Path → Option Path) (turns : List Identifier)
    (held : Fields) : Prop where
  /-- The names whose turn is to come. -/
  turns_eq : g.order.drop g.next = turns
  /-- The fields held back. -/
  held_eq : g.held = heldEvents stamp g.base held
  /-- No field is in progress. -/
  idle : g.holding = none ∧ g.current = none ∧ g.depth = 0
  /-- What could leave has left. -/
  blocked : ∀ turn ∈ turns.head?, turn ∉ Fields.keys held

theorem tracks_new (order : List Identifier) (p : Path) :
    Tracks { order := order, base := p } stamp order [] :=
  ⟨rfl, rfl, ⟨rfl, rfl, rfl⟩, by simp⟩

namespace Tracks

variable {g : OpenStruct} {turns : List Identifier} {held : Fields}

theorem nextField (h : g.Tracks stamp turns held) : g.nextField = turns.head? := by
  rw [OpenStruct.nextField, ← h.turns_eq, List.head?_drop]

/-- A field whose turn it is leaves, and with it those that are ready after it. -/
theorem leave {name : Identifier} {later : List Identifier}
    (h : g.Tracks stamp (name :: later) held) (v : Value) :
    (g.advance stamp ((name, v) :: (Fields.ready held later).1)
      (Fields.ready held later).2.2).Tracks stamp (Fields.ready held later).2.1
        (Fields.ready held later).2.2 := by
  refine ⟨?_, rfl, h.idle, Fields.ready_blocked held later⟩
  have hkeys := Fields.keys_ready held later
  have hlength : (Fields.ready held later).1.length =
      (Fields.keys (Fields.ready held later).1).length := by simp [Fields.keys]
  have hturns := h.turns_eq
  rw [← hkeys] at hturns
  simp only [advance, List.length_cons]
  rw [← List.drop_drop, hturns, List.drop_succ_cons, hlength, List.drop_left]

/-- A field that comes early is held back. -/
theorem hold (h : g.Tracks stamp turns held) {name : Identifier} (hname : turns.head? ≠ some name)
    (v : Value) :
    Tracks { g with
      held := (name, (Value.placedFields stamp g.base [(name, v)]).map Prod.fst) :: g.held }
      stamp turns ((name, v) :: held) := by
  refine ⟨h.turns_eq, ?_, h.idle, fun turn hturn ↦ ?_⟩
  · simp [h.held_eq, heldEvents]
  · have hne : turn ≠ name := fun heq ↦ hname (heq ▸ hturn)
    simpa [hne] using h.blocked turn hturn

end Tracks

theorem takeHeld_eq {g : OpenStruct} {held : Fields} (h : g.held = heldEvents stamp g.base held)
    (name : Identifier) :
    g.takeHeld name = (Fields.take? held name).map fun taken ↦
      ((Value.placedFields stamp g.base [(name, taken.1)]).map Prod.fst,
        { g with held := heldEvents stamp g.base taken.2 }) := by
  have hlookup : (heldEvents stamp g.base held).lookup name =
      (held.lookup name).map fun v ↦
        (Value.placedFields stamp g.base [(name, v)]).map Prod.fst :=
    lookup_map (fun key v ↦ (Value.placedFields stamp g.base [(key, v)]).map Prod.fst) name held
  have hfilter : (heldEvents stamp g.base held).filter (·.1 != name) =
      heldEvents stamp g.base (held.filter (·.1 != name)) := by
    rw [heldEvents, List.filter_map]
    rfl
  rw [takeHeld, h, hlookup, hfilter, Fields.take?]
  cases held.lookup name <;> rfl

/-! ## The start of a field -/

section
variable {g : OpenStruct} {turns : List Identifier} {held : Fields} {name : Identifier}

theorem Tracks.startField_of_notMem (h : g.Tracks stamp turns held) (hname : name ∉ g.order)
    (place : Path) : g.startField place name = ({ g with current := some name }, none) := by
  simp [startField, h.idle.1, hname]

private theorem lookup_of_fresh (h : g.Tracks stamp turns held) (hheld : name ∉ Fields.keys held) :
    g.held.lookup name = none := by
  rw [h.held_eq, List.lookup_eq_none_iff]
  intro f hf
  obtain ⟨f', hf', rfl⟩ := List.mem_map.1 hf
  exact bne_iff_ne.2 fun heq ↦ hheld (heq ▸ List.mem_map_of_mem hf')

theorem Tracks.startField_of_turn {later : List Identifier}
    (h : g.Tracks stamp (name :: later) held) (hname : name ∈ g.order)
    (hforwarded : name ∉ g.forwarded) (hheld : name ∉ Fields.keys held) (place : Path) :
    g.startField place name =
      ({ g with current := some name, forwarded := g.forwarded ++ [name] }, none) := by
  have hnext : g.order[g.next]? = some name := h.nextField
  simp [startField, h.idle.1, hname, hasSeen, hforwarded, lookup_of_fresh h hheld,
    OpenStruct.nextField, hnext]

theorem Tracks.startField_of_early (h : g.Tracks stamp turns held) (hname : name ∈ g.order)
    (hturn : turns.head? ≠ some name) (hforwarded : name ∉ g.forwarded)
    (hheld : name ∉ Fields.keys held) (place : Path) :
    g.startField place name = ({ g with current := some name, holding := some [] }, none) := by
  have hnext : g.order[g.next]? ≠ some name := fun heq ↦ hturn (h.nextField ▸ heq)
  simp [startField, h.idle.1, hname, hasSeen, hforwarded, lookup_of_fresh h hheld,
    OpenStruct.nextField, hnext]

end

end OpenStruct

namespace Reorder

/-- The events of one field, replayed, are sent from their places. -/
theorem replay_field (p : Path) (outer : List OpenStruct) (f : Identifier × Value) :
    replay p outer [] ((Value.placedFields stamp p [f]).map Prod.fst) =
      sendAll outer (Value.placedFields stamp p [f]) := by
  obtain ⟨name, v⟩ := f
  -- The events are replayed with nothing but the field open, at the path of the struct.
  have hplaced := @Nesting.locate_placed stamp p [.field name] [] v
  rw [Nesting.nextPath_field, Nesting.path_nil, Path.append_root, List.append_nil] at hplaced
  rw [replay_eq_sendAll]
  simp [Nesting.locate_fieldStart, hplaced, Nesting.locate]

/-- Letting fields go sends those that are ready. -/
theorem release_yields (r : Reorder) {f : OpenStruct} {held : Fields}
    (h : f.held = heldEvents stamp f.base held) (outer : List OpenStruct)
    (turns : List Identifier) :
    (r.release f outer turns).Yields
      { r with
        frames :=
          f.advance stamp (Fields.ready held turns).1 (Fields.ready held turns).2.2 ::
            (sendAll outer (Value.placedFields stamp f.base (Fields.ready held turns).1)).1 }
      (sendAll outer (Value.placedFields stamp f.base (Fields.ready held turns).1)).2 := by
  induction turns generalizing f held outer with
  | nil =>
    rw [release, Fields.ready, OpenStruct.advance_nil h]
    simpa using yields_stop _
  | cons name turns ih =>
    rw [release, Fields.ready, OpenStruct.takeHeld_eq h name]
    cases Fields.take? held name with
    | none =>
      simp only [OpenStruct.advance_nil h]
      simpa using yields_stop _
    | some taken =>
      -- The field leaves before the others do, which finds the frames further out advanced.
      obtain ⟨v, held'⟩ := taken
      have hnow := @replay_field stamp f.base outer (name, v)
      have hlater := @ih (f.advance stamp [(name, v)] held') held' rfl
        (sendAll outer (Value.placedFields stamp f.base [(name, v)])).1
      have hsplit := Value.placedFields_append stamp f.base [(name, v)]
        (Fields.ready held' turns).1
      rw [List.singleton_append] at hsplit
      rw [OpenStruct.advance_advance, List.singleton_append] at hlater
      simp only [Option.map_some, hnow, hsplit, sendAll_append]
      exact yields_sendFirst hlater _ _

/-- When the struct ends the fields that are left are sent in order. -/
theorem flush_eq_sendAll {f : OpenStruct} {held : Fields}
    (h : f.held = heldEvents stamp f.base held) (outer : List OpenStruct)
    (turns : List Identifier) :
    flush f outer turns =
      sendAll outer (Value.placedFields stamp f.base (Fields.rest held turns)) := by
  induction turns generalizing f held outer with
  | nil => simp [flush, Fields.rest]
  | cons name turns ih =>
    have htake := OpenStruct.takeHeld_eq h name
    rw [flush, Fields.rest, htake]
    cases Fields.take? held name with
    | none => exact ih h outer
    | some taken =>
      obtain ⟨v, held'⟩ := taken
      have hnow := @replay_field stamp f.base outer (name, v)
      have hlater := @ih { f with held := heldEvents stamp f.base held' } held' rfl
        (sendAll outer (Value.placedFields stamp f.base [(name, v)])).1
      simp only [Option.map_some, hnow, hlater]
      have hsplit := Value.placedFields_append stamp f.base [(name, v)] (Fields.rest held' turns)
      rw [List.singleton_append] at hsplit
      rw [hsplit, sendAll_append]

/-! ## The struct decides -/

/-- A field starts in the innermost struct. -/
theorem step_fieldStart {r : Reorder} {g g' : OpenStruct} {place : Path} {name : Identifier}
    (hcurrent : g.current = none) (hstart : g.startField place name = (g', none))
    (outer : List OpenStruct) (stamped : Option Path) :
    (step { r with frames := g :: outer } place ⟨.fieldStart name, stamped⟩).Yields
      { r with frames := (send (g' :: outer) place ⟨.fieldStart name, stamped⟩).1 }
      (send (g' :: outer) place ⟨.fieldStart name, stamped⟩).2 := by
  simp only [step, openStruct, OpenStruct.receive, hcurrent, hstart, Bool.false_eq_true, false_and,
    if_false]
  simpa using sendThenComplete_yields (complete_of_opened _ (.inl ⟨name, rfl⟩))

/-- The innermost struct ends: what it still holds back is sent, and then the end. -/
theorem step_structEnd {r r' : Reorder} {g : OpenStruct} {turns : List Identifier} {held : Fields}
    (h : g.Tracks stamp turns held) (frames : List OpenStruct) (place : Path)
    (stamped : Option Path) {out : List (Event × Path)} {v : Value}
    (hdone : (complete { r with
      frames := (sendAll frames (Value.placedFields stamp g.base (Fields.rest held turns) ++
        [(⟨.close, stamped⟩, place)])).1 } (.value v)).Yields r' out) :
    (step { r with frames := g :: deepen frames } place ⟨.close, stamped⟩).Yields r'
      ((sendAll frames (Value.placedFields stamp g.base (Fields.rest held turns) ++
        [(⟨.close, stamped⟩, place)])).2 ++ out) := by
  obtain ⟨hholding, -, hdepth⟩ := h.idle
  have hflush := flush_eq_sendAll h.held_eq (deepen frames) turns
  rw [← h.turns_eq] at hflush
  rw [← h.turns_eq] at hdone ⊢
  exact step_close_of_flush hholding hdepth hflush place stamped hdone

/-! ## The value of a field is complete -/

section
variable {r : Reorder} {g : OpenStruct} {turns : List Identifier} {held : Fields}
  {name : Identifier} (v : Value) (outer : List OpenStruct)

/-- After a field that was not held back those leave whose turn has come. -/
theorem complete_passed (f : OpenStruct) (hholding : f.holding = none)
    (hcurrent : f.current = some name) (hdepth : f.depth = 0) {next : Nat}
    (hnext : (if f.nextField = some name then f.next + 1 else f.next) = next) :
    complete { r with frames := f :: outer } (.value v) =
      r.release { f with current := none, next := next } outer (f.order.drop next) := by
  simp only [complete, hdepth, if_true, completeField, hcurrent, hholding, hnext]
  exact release_congr (by rfl) _ _ _

/-- A field that was held back waits. -/
theorem complete_held {f : OpenStruct} {events : List Event} (hholding : f.holding = some events)
    (hcurrent : f.current = some name) (hdepth : f.depth = 0) (hnext : f.nextField ≠ some name) :
    complete { r with frames := f :: outer } (.value v) =
      .stop none { r with
        frames := { f with current := none, holding := none, held := (name, events) :: f.held } ::
          outer } := by
  simp only [complete, hdepth, if_true, completeField, hcurrent, hholding, if_neg hnext]

theorem complete_of_notMem (h : g.Tracks stamp turns held) (hname : name ∉ g.order) :
    (complete { r with frames := { g with current := some name } :: outer } (.value v)).Yields
      { r with frames := g :: outer } [] := by
  have hnext : OpenStruct.nextField { g with current := some name } ≠ some name :=
    fun heq ↦ hname (List.mem_of_getElem? heq)
  have hrelease := release_yields r h.held_eq outer turns
  rw [Fields.ready_of_blocked h.blocked, OpenStruct.advance_nil h.held_eq] at hrelease
  have hg : { g with current := none } = g := by rw [← h.idle.2.1]
  rw [complete_passed v outer { g with current := some name } h.idle.1 rfl h.idle.2.2
    (if_neg hnext), h.turns_eq]
  simpa [hg] using hrelease

theorem complete_of_turn {later : List Identifier} (h : g.Tracks stamp (name :: later) held) :
    (complete { r with
      frames := { g with current := some name, forwarded := g.forwarded ++ [name] } :: outer }
      (.value v)).Yields
      { r with
        frames :=
          g.advance stamp ((name, v) :: (Fields.ready held later).1)
            (Fields.ready held later).2.2 ::
            (sendAll outer (Value.placedFields stamp g.base (Fields.ready held later).1)).1 }
      (sendAll outer (Value.placedFields stamp g.base (Fields.ready held later).1)).2 := by
  have hnext : OpenStruct.nextField
      { g with current := some name, forwarded := g.forwarded ++ [name] } = some name :=
    h.nextField
  have hdrop : g.order.drop (g.next + 1) = later := by
    rw [← List.drop_drop, h.turns_eq, List.drop_one, List.tail_cons]
  have hrelease := @release_yields stamp r (g.advance stamp [(name, v)] held) held rfl outer later
  rw [OpenStruct.advance_advance, List.singleton_append] at hrelease
  have hg : { g with
      current := none, next := g.next + 1, forwarded := g.forwarded ++ [name] } =
        g.advance stamp [(name, v)] held := by
    rw [OpenStruct.advance, ← h.held_eq, ← h.idle.2.1]
    rfl
  rw [complete_passed v outer
    { g with current := some name, forwarded := g.forwarded ++ [name] } h.idle.1 rfl h.idle.2.2
    (if_pos hnext), hdrop]
  simpa [hg] using hrelease

theorem complete_of_early (h : g.Tracks stamp turns held) (hname : turns.head? ≠ some name)
    (events : List Event) :
    (complete { r with
      frames := { g with current := some name, holding := some events } :: outer }
      (.value v)).Yields
      { r with frames := { g with held := (name, events) :: g.held } :: outer } [] := by
  have hnext : OpenStruct.nextField
      { g with current := some name, holding := some events } ≠ some name :=
    fun heq ↦ hname (h.nextField ▸ heq)
  have hg : { g with held := (name, events) :: g.held, holding := none, current := none } =
      { g with held := (name, events) :: g.held } := by
    rw [← h.idle.2.1, ← h.idle.1]
  have hheld := @complete_held r name v outer
    { g with current := some name, holding := some events } events rfl rfl h.idle.2.2 hnext
  rw [hheld, ← hg]
  exact yields_stop _

end

end Reorder

end ValueStream
