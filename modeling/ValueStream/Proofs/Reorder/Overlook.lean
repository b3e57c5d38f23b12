import ValueStream.Proofs.Pipeline.Row
import ValueStream.Proofs.Reorder.Send

/-!
# What a reorder overlooks

A reorder decides by starts, fields and ends, and by the types of structs. It looks neither at what
comes as a whole nor at the types of lists nor at stamps, and the places of events only go into
errors and paths. So a change of events in nothing else (`Overlooked`) commutes with all that a
reorder does: it does not matter whether events are changed before they are held back or when they
leave (`step_through`). Places are left out of the comparison, since nothing that is handed on or
held depends on them.

Two passages that are the same after such changes stay so (`passage_through`). The changes may
differ, so that one passage may be the other with its events changed.
-/

namespace ValueStream

/-! ## Changes that are overlooked -/

/-- What a reorder takes an event for. -/
def EventKind.form : EventKind → EventKind
  | value _ => value .null
  | listStart _ => listStart .opaque_
  | kind => kind

/-- A reorder overlooks the change: the events have the same forms after it. -/
def Overlooked (g : Event → Event) : Prop := ∀ e, (g e).kind.form = e.kind.form

/-- The event as a reorder takes it, without its stamp. -/
def Event.formed (e : Event) : Event := ⟨e.kind.form, none⟩

@[simp] theorem EventKind.form_form (kind : EventKind) : kind.form.form = kind.form := by
  cases kind <;> rfl

theorem overlooked_formed : Overlooked Event.formed := fun e ↦ e.kind.form_form

@[simp] theorem Nesting.enter_form (n : Nesting) (kind : EventKind) :
    n.enter kind.form = n.enter kind := by
  cases kind <;> rfl

@[simp] theorem Nesting.leave_form (n : Nesting) (kind : EventKind) :
    n.leave kind.form = n.leave kind := by
  cases kind <;> rfl

/-- Events of the same form are followed alike. -/
theorem Nesting.enter_eq_of_form {kind kind' : EventKind} (h : kind'.form = kind.form)
    (n : Nesting) : n.enter kind' = n.enter kind := by
  rw [← n.enter_form kind', h, n.enter_form]

theorem Nesting.leave_eq_of_form {kind kind' : EventKind} (h : kind'.form = kind.form)
    (n : Nesting) : n.leave kind' = n.leave kind := by
  rw [← n.leave_form kind', h, n.leave_form]

/-- The frame with its events changed, and without its place. -/
def OpenStruct.through (g : Event → Event) (f : OpenStruct) : OpenStruct :=
  { f with
    base := .root
    held := f.held.map fun h ↦ (h.1, h.2.map g)
    holding := f.holding.map (·.map g) }

/-- The reorder with the events of its frames changed. -/
def Reorder.through (g : Event → Event) (r : Reorder) : Reorder :=
  { r with frames := r.frames.map (·.through g) }

/-! ## Sending -/

namespace Reorder

variable {g : Event → Event}

/-- The events of a list, changed. -/
def eventsThrough (g : Event → Event) (out : List (Event × Path)) : List Event :=
  out.map fun x ↦ g x.1

@[simp] theorem eventsThrough_append (xs ys : List (Event × Path)) :
    eventsThrough g (xs ++ ys) = eventsThrough g xs ++ eventsThrough g ys := List.map_append

/-- A sending does with the frames and events changed what another one does with them as they
are. -/
structure SentThrough (g : Event → Event) (sent' sent : List OpenStruct × List (Event × Path)) :
    Prop where
  /-- The frames afterwards. -/
  frames : sent'.1 = sent.1.map (·.through g)
  /-- The events that went on. -/
  events : sent'.2.map Prod.fst = eventsThrough g sent.2

/-- What went on before a sending. -/
theorem SentThrough.after {sent' sent : List OpenStruct × List (Event × Path)}
    (h : SentThrough g sent' sent) {out' out : List (Event × Path)}
    (hout : out'.map Prod.fst = eventsThrough g out) :
    SentThrough g (sent'.1, out' ++ sent'.2) (sent.1, out ++ sent.2) :=
  ⟨h.frames, by rw [List.map_append, hout, h.events, eventsThrough_append]⟩

theorem hold_through (e : Event) (frames : List OpenStruct) :
    hold (g e) (frames.map (·.through g)) = (hold e frames).map (·.map (·.through g)) := by
  induction frames with
  | nil => rfl
  | cons f outer ih =>
    cases h : f.holding with
    | some events => simp [hold, h, OpenStruct.through]
    | none =>
      have h' : (f.through g).holding = none := by simp [OpenStruct.through, h]
      rw [List.map_cons, hold, hold, h, h']
      simp only [ih, Option.map_map]
      rfl

theorem send_through (e : Event) (frames : List OpenStruct) (place place' : Path) :
    SentThrough g (send (frames.map (·.through g)) place' (g e)) (send frames place e) := by
  rw [send, send, hold_through]
  cases hold e frames with
  | none => exact ⟨rfl, rfl⟩
  | some frames => exact ⟨rfl, rfl⟩

variable (hg : Overlooked g)

include hg

theorem replay_through (frames : List OpenStruct) (base base' : Path) (inside : Nesting)
    (es : List Event) :
    SentThrough g (replay base' (frames.map (·.through g)) inside (es.map g))
      (replay base frames inside es) := by
  induction es generalizing frames inside with
  | nil => exact ⟨rfl, rfl⟩
  | cons e es ih =>
    obtain ⟨hframes, hevents⟩ := @send_through g e frames (base ++ (inside.enter e.kind).path)
      (base' ++ (inside.enter e.kind).path)
    simp only [replay, List.map_cons, Nesting.enter_eq_of_form (hg e),
      Nesting.leave_eq_of_form (hg e), hframes]
    exact (ih _ _).after hevents

omit hg

theorem lookup_through (f : OpenStruct) (name : Identifier) :
    (f.through g).held.lookup name = (f.held.lookup name).map (·.map g) :=
  lookup_map (fun (_ : Identifier) (es : List Event) ↦ es.map g) name f.held

theorem takeHeld_through (f : OpenStruct) (name : Identifier) :
    (f.through g).takeHeld name = (f.takeHeld name).map fun x ↦ (x.1.map g, x.2.through g) := by
  rw [OpenStruct.takeHeld, OpenStruct.takeHeld, lookup_through, Option.map_map, Option.map_map]
  simp [OpenStruct.through, Function.comp_def, List.filter_map]

end Reorder

/-! ## Steps -/

/-- A step does with the state and the event changed what another one does with them as they are. -/
structure Step.Through (g : Event → Event) (s t : Step Reorder) : Prop where
  /-- The events handed on. -/
  handed : s.deliveries.map (·.event) = t.deliveries.map (g ·.event)
  /-- The state. -/
  state : s.state = t.state.through g
  /-- Whether it stops. -/
  stops : s.fault.isSome = t.fault.isSome

namespace Reorder

variable {g : Event → Event}

theorem deliveries_events (r : Reorder) (out : List (Event × Path)) :
    (r.deliveries out).map (·.event) = out.map Prod.fst := by
  simp [deliveries, Function.comp_def]

theorem deliveries_through (r : Reorder) (out : List (Event × Path)) :
    (r.deliveries out).map (g ·.event) = eventsThrough g out := by
  simp [deliveries, eventsThrough, Function.comp_def]

variable (hg : Overlooked g) (r : Reorder)

include hg

theorem release_through (f : OpenStruct) (outer : List OpenStruct) (turns : List Identifier) :
    ((r.through g).release (f.through g) (outer.map (·.through g)) turns).Through g
      (r.release f outer turns) := by
  induction turns generalizing f outer with
  | nil => exact ⟨rfl, rfl, rfl⟩
  | cons name turns ih =>
    rw [release, release, takeHeld_through]
    cases f.takeHeld name with
    | none => exact ⟨rfl, rfl, rfl⟩
    | some taken =>
      obtain ⟨es, f⟩ := taken
      obtain ⟨hframes, hevents⟩ := replay_through hg outer f.base (f.through g).base [] es
      have hlater := ih
        { f with next := f.next + 1, forwarded := f.forwarded ++ [name] }
        (replay f.base outer [] es).1
      simp only [Option.map_some, hframes]
      refine ⟨?_, hlater.state, hlater.stops⟩
      rw [List.map_append, List.map_append, deliveries_events, deliveries_through]
      exact (congrArg (· ++ _) hevents).trans (congrArg (_ ++ ·) hlater.handed)

theorem completeField_through (f : OpenStruct) (outer : List OpenStruct) :
    ((r.through g).completeField (f.through g) (outer.map (·.through g))).Through g
      (r.completeField f outer) := by
  -- Which way it goes is decided by what is there, and the change leaves that.
  rcases f with ⟨order, base, next, forwarded, held, _ | es, _ | name, depth⟩
  · exact ⟨rfl, rfl, rfl⟩
  · exact release_through hg r ⟨order, base, _, forwarded, held, none, none, depth⟩ outer _
  · exact ⟨rfl, rfl, rfl⟩
  · exact ⟨rfl, rfl, rfl⟩

omit hg in
theorem complete_form (kind : EventKind) : r.complete kind.form = r.complete kind := by
  cases kind <;> rfl

theorem complete_through {kind kind' : EventKind} (hkind : kind'.form = kind.form) :
    ((r.through g).complete kind').Through g (r.complete kind) := by
  rw [← complete_form (r.through g) kind', hkind, complete_form]
  rcases r with ⟨orders, _ | ⟨f, outer⟩⟩
  · exact ⟨rfl, rfl, rfl⟩
  · rcases f with ⟨order, base, next, forwarded, held, holding, current, _ | _ | depth⟩ <;>
      cases kind
    case zero.value v =>
      exact completeField_through hg ⟨orders, _⟩ ⟨_, _, _, _, _, _, _, 0⟩ outer
    case succ.zero.close =>
      exact completeField_through hg ⟨orders, _⟩ ⟨_, _, _, _, _, _, _, 0⟩ outer
    all_goals exact ⟨rfl, rfl, rfl⟩

theorem flush_through (f : OpenStruct) (outer : List OpenStruct) (turns : List Identifier) :
    SentThrough g (flush (f.through g) (outer.map (·.through g)) turns) (flush f outer turns) := by
  induction turns generalizing f outer with
  | nil => exact ⟨rfl, rfl⟩
  | cons name turns ih =>
    rw [flush, flush, takeHeld_through]
    cases f.takeHeld name with
    | none => exact ih f outer
    | some taken =>
      obtain ⟨es, f⟩ := taken
      obtain ⟨hframes, hevents⟩ := replay_through hg outer f.base (f.through g).base [] es
      simp only [Option.map_some, hframes]
      exact (ih f _).after hevents

theorem sendThenComplete_through {sent sent' : List OpenStruct × List (Event × Path)}
    (hsent : SentThrough g sent' sent) {kind kind' : EventKind} (hkind : kind'.form = kind.form) :
    ((r.through g).sendThenComplete sent'.2 sent'.1 kind').Through g
      (r.sendThenComplete sent.2 sent.1 kind) := by
  have hcomplete := complete_through hg { r with frames := sent.1 } hkind
  rw [hsent.frames]
  refine ⟨?_, hcomplete.state, hcomplete.stops⟩
  rw [sendThenComplete, sendThenComplete, List.map_append, List.map_append, deliveries_events,
    deliveries_through, hsent.events]
  exact congrArg (_ ++ ·) hcomplete.handed

theorem endStruct_through (f : OpenStruct) (outer : List OpenStruct) (place place' : Path)
    (e : Event) :
    ((r.through g).endStruct (f.through g) (outer.map (·.through g)) place' (g e)).Through g
      (r.endStruct f outer place e) := by
  have hholding : (f.through g).holding.isSome = f.holding.isSome := by simp [OpenStruct.through]
  rw [endStruct, endStruct, hholding]
  split
  · exact ⟨rfl, rfl, rfl⟩
  · obtain ⟨hframes, hevents⟩ := flush_through hg f outer (f.order.drop f.next)
    have hsent := @send_through g e (flush f outer (f.order.drop f.next)).1 place place'
    rw [← hframes] at hsent
    exact sendThenComplete_through hg { r with frames := outer } (hsent.after hevents) (hg e)

omit hg in
theorem openStruct_through {kind kind' : EventKind} (hkind : kind'.form = kind.form)
    (place : Path) :
    (r.through g).openStruct .root kind' = (r.openStruct place kind).through g := by
  have hform : ∀ (r : Reorder) kind, r.openStruct .root kind.form = r.openStruct .root kind :=
    fun _ kind ↦ by cases kind <;> rfl
  rw [← hform _ kind', hkind, hform]
  rcases r with ⟨orders, _ | ⟨f, outer⟩⟩ <;> cases kind <;> rfl

omit hg in
/-- A field starts in a struct that holds nothing back. -/
theorem startField_of_holding_none {f : OpenStruct} (h : f.holding = none) (place : Path)
    (name : Identifier) :
    f.startField place name =
      if !f.order.contains name then ({ f with current := some name }, none)
      else if f.hasSeen name then
        ({ f with current := some name },
          some (.error (.structural place (.duplicateField name))))
      else if f.nextField = some name then
        ({ f with current := some name, forwarded := f.forwarded ++ [name] }, none)
      else ({ f with current := some name, holding := some [] }, none) := by
  rw [OpenStruct.startField, h]
  rfl

omit hg in
theorem startField_through (f : OpenStruct) (place place' : Path) (name : Identifier) :
    ((f.through g).startField place' name).1 = (f.startField place name).1.through g ∧
      ((f.through g).startField place' name).2.isSome = (f.startField place name).2.isSome := by
  have hlookup : ((f.through g).held.lookup name).isSome = (f.held.lookup name).isSome := by
    rw [lookup_through, Option.isSome_map]
  have hseen : (f.through g).hasSeen name = f.hasSeen name :=
    congrArg (f.forwarded.contains name || ·) hlookup
  rcases hholding : f.holding with _ | es
  · have hthrough : (f.through g).holding = none := by simp [OpenStruct.through, hholding]
    have horder : (f.through g).order = f.order := rfl
    have hnext : (f.through g).nextField = f.nextField := rfl
    rw [startField_of_holding_none hholding, startField_of_holding_none hthrough, hseen, hnext,
      horder]
    split
    · exact ⟨rfl, rfl⟩
    · split
      · exact ⟨rfl, rfl⟩
      · split
        · exact ⟨rfl, rfl⟩
        · simp [OpenStruct.through]
  · have hthrough : (f.through g).holding = some (es.map g) := by
      simp [OpenStruct.through, hholding]
    simp [OpenStruct.startField, hholding, hthrough]

omit hg in
theorem receive_through (f : OpenStruct) (place place' : Path) {kind kind' : EventKind}
    (hkind : kind'.form = kind.form) :
    ((f.through g).receive place' kind').1 = (f.receive place kind).1.through g ∧
      ((f.through g).receive place' kind').2.isSome = (f.receive place kind).2.isSome := by
  have hform : ∀ (f : OpenStruct) kind, f.receive place' kind.form = f.receive place' kind :=
    fun _ kind ↦ by cases kind <;> rfl
  rw [← hform _ kind', hkind, hform]
  by_cases h : ∃ name, kind = .fieldStart name ∧ f.current = none
  · obtain ⟨name, rfl, hcurrent⟩ := h
    have hcurrent' : (f.through g).current = none := hcurrent
    have hreceive : f.receive place (.fieldStart name) = f.startField place name := by
      simp [OpenStruct.receive, hcurrent]
    have hreceive' :
        (f.through g).receive place' (.fieldStart name) = (f.through g).startField place' name := by
      simp [OpenStruct.receive, hcurrent']
    rw [hreceive, hreceive']
    exact startField_through f place place' name
  · rcases f with ⟨order, base, next, forwarded, held, holding, _ | current, depth⟩ <;>
      cases kind <;> first | exact ⟨rfl, rfl⟩ | simp at h

/-- **A reorder does with the state and the event changed what it does with them as they are.** -/
theorem step_through (place : Path) (e : Event) :
    ((r.through g).step .root (g e)).Through g (r.step place e) := by
  rw [step, step, openStruct_through r (hg e) place]
  generalize r.openStruct place e.kind = r
  rcases r with ⟨orders, _ | ⟨f, outer⟩⟩
  · exact ⟨rfl, rfl, rfl⟩
  · have hframes : through g ⟨orders, f :: outer⟩ =
        ⟨orders, f.through g :: outer.map (·.through g)⟩ := rfl
    have hdepth : (f.through g).depth = f.depth := rfl
    have hclose : (g e).kind = .close ↔ e.kind = .close := by
      have hkind := hg e
      constructor <;> intro h <;> rw [h] at hkind
      · cases hkind' : e.kind <;> simp_all [EventKind.form]
      · cases hkind' : (g e).kind <;> simp_all [EventKind.form]
    simp only [hframes]
    by_cases hend : e.kind = .close ∧ f.depth = 0
    · rw [if_pos (by simp [hclose.2 hend.1, hdepth, hend.2]), if_pos (by simp [hend])]
      exact endStruct_through hg ⟨orders, f :: outer⟩ f outer place .root e
    · rw [if_neg (by cases hkind : (g e).kind <;> simp_all),
        if_neg (by cases hkind : e.kind <;> simp_all)]
      obtain ⟨hreceive, hstops⟩ := @receive_through g f place .root _ _ (hg e)
      generalize f.receive place e.kind = now at hreceive hstops ⊢
      generalize (f.through g).receive .root (g e).kind = now' at hreceive hstops ⊢
      rcases now with ⟨f, _ | fault⟩ <;> rcases now' with ⟨f', _ | fault'⟩
      · obtain rfl : f' = f.through g := hreceive
        exact sendThenComplete_through hg ⟨orders, f :: outer⟩
          (send_through e (f :: outer) place .root) (hg e)
      · cases hstops
      · cases hstops
      · obtain rfl : f' = f.through g := hreceive
        exact ⟨rfl, rfl, rfl⟩

end Reorder

/-! ## Passages -/

/-- The events of inputs, changed. -/
def inputsThrough (g : Event → Event) (xs : List (Event × Option Path)) : List Event :=
  xs.map fun x ↦ g x.1

/-- Whether two passages through reorders are the same, the one after one change and the other after
another. -/
structure Passage.SameThrough (g h : Event → Event) (p q : Passage Reorder) : Prop where
  /-- The events handed on. -/
  handed : inputsThrough g p.handed = inputsThrough h q.handed
  /-- The state. -/
  state : p.state.through g = q.state.through h
  /-- Whether it is stopped. -/
  stops : p.fault.isSome = q.fault.isSome

namespace Reorder

/-- The passage of events through a reorder. -/
def passage (r : Reorder) (inputs : List (Event × Option Path)) : Passage Reorder :=
  passAll (fun r ahead e ↦ r.step (ahead.getD .root) e) r inputs

theorem inputsThrough_handed (g : Event → Event) (s : Step Reorder) (ahead : Option Path) :
    inputsThrough g (s.handed ahead) = s.deliveries.map (g ·.event) := by
  simp [inputsThrough, Step.handed, Function.comp_def]

/-- **Passages of events that are the same after changes stay the same after them.** -/
theorem passage_through {g h : Event → Event} (hg : Overlooked g) (hh : Overlooked h)
    {r r' : Reorder} (hr : r.through g = r'.through h) {xs ys : List (Event × Option Path)}
    (hxs : inputsThrough g xs = inputsThrough h ys) :
    (r.passage xs).SameThrough g h (r'.passage ys) := by
  induction xs generalizing r r' ys with
  | nil =>
    obtain rfl : ys = [] := by simpa [inputsThrough] using hxs.symm
    exact ⟨rfl, hr, rfl⟩
  | cons x xs ih =>
    obtain ⟨e, ahead⟩ := x
    obtain ⟨⟨e', ahead'⟩, ys, rfl, he, hlater⟩ := List.map_eq_cons_iff.1 hxs.symm
    -- Both steps are compared with the one on what is the same.
    have hstep := step_through hg r (ahead.getD .root) e
    have hstep' := step_through hh r' (ahead'.getD .root) e'
    rw [← hr, he] at hstep'
    have hhanded := hstep.handed.symm.trans hstep'.handed
    have hstate := hstep.state.symm.trans hstep'.state
    have hstops := hstep.stops.symm.trans hstep'.stops
    rw [← inputsThrough_handed g _ ahead, ← inputsThrough_handed h _ ahead'] at hhanded
    rw [passage, passage, passAll, passAll]
    generalize r.step (ahead.getD .root) e = s at hhanded hstate hstops ⊢
    generalize r'.step (ahead'.getD .root) e' = s' at hhanded hstate hstops ⊢
    rcases hs : s.fault with _ | fault <;> rcases hs' : s'.fault with _ | fault'
    · obtain ⟨hout, hend, hend'⟩ := ih hstate hlater.symm
      refine ⟨?_, hend, hend'⟩
      simp only [Passage.behind, inputsThrough, List.map_append] at hhanded hout ⊢
      rw [hhanded]
      exact congrArg _ hout
    · simp [hs, hs'] at hstops
    · simp [hs, hs'] at hstops
    · exact ⟨hhanded, hstate, rfl⟩

end Reorder

end ValueStream
