import ValueStream.Grammar
import ValueStream.Proofs.Checker.Step

/-!
# The language of a checker

A checker accepts the events that a stream of its shape begins with, and no others.

That a stream is accepted is a recursion on its derivation: the events of one value take a checker
that awaits one past that value (`run_value`). For the converse an invariant says which events have
come when a nesting is open between two of them (`OpenedBy`): the start of each list, map or struct
that is open, with its complete parts. An accepted event keeps the invariant (`HasAccepted.step`),
and what is open can always be closed, so that the events accepted so far begin a stream.

The invariant leaves out the nestings in which a map is innermost that awaits the value of a field:
the frame of the field lies on top of it then. That is why a field never finds another one pending.
-/

namespace ValueStream

open Nesting

namespace Checker

/-! ## Streams of the grammar are accepted -/

mutual

/-- The events of one value take a checker that awaits one past it. -/
theorem run_value {kinds : List EventKind} : IsValueStream kinds →
    ∀ {c : Checker}, (∀ first ∈ kinds.head?, c.Awaits first) → ∀ more : List EventKind,
      c.run (kinds ++ more) = c.afterValue.run more
  | .value v, c, h, more => run_value_cons (h _ rfl) more
  | .list type hes, c, h, more => by
    obtain ⟨j, helements⟩ := run_elements hes
      (c := { c with nesting := .list none :: c.nesting.nextElement }) rfl (h _ rfl).1
    rw [List.cons_append, List.append_assoc, run_start (h _ rfl) rfl, Nesting.enter, helements]
    exact run_close (h _ rfl) (by simp) more
  | .map hfs, c, h, more | .struct _ hfs, c, h, more => by
    have hfields := run_fields hfs
      (c := { c with nesting := .map none [] :: c.nesting.nextElement }) rfl (h _ rfl).1 (by simp)
    rw [List.cons_append, List.append_assoc, run_start (h _ rfl) rfl, Nesting.enter, hfields]
    exact run_close (h _ rfl) (by simp) more

theorem run_elements {kinds : List EventKind} : IsElementStream kinds →
    ∀ {c : Checker} {i : Option Nat} {n : Nesting}, c.nesting = .list i :: n → c.done = false →
      ∃ j, ∀ more, c.run (kinds ++ more) = { c with nesting := .list j :: n }.run more
  | .nil, c, i, n, hn, hdone => ⟨i, fun more ↦ by rw [← hn]; rfl⟩
  | .cons hv hes, c, i, n, hn, hdone => by
    -- The first element makes the position known, which may not have been so before.
    obtain ⟨k, hk⟩ : ∃ k, c.afterValue = { c with nesting := .list k :: n } := by
      rcases i with _ | i
      · exact ⟨some 0, by simp [afterValue, hn, hdone, settle, nextElement, closeField]⟩
      · exact ⟨some (i + 1), by simp [afterValue, hn, hdone, settle, nextElement, closeField]⟩
    obtain ⟨j, helements⟩ :=
      run_elements hes (c := c.afterValue) (by rw [hk]) (by rw [hk]; exact hdone)
    refine ⟨j, fun more ↦ ?_⟩
    have hvalue := run_value hv (c := c) (fun first _ ↦ awaits_of_nesting hdone hn (by simp) first)
    rw [List.append_assoc, hvalue, helements, hk]

theorem run_fields {names : List Identifier} {kinds : List EventKind} : IsFieldStream names kinds →
    ∀ {c : Checker} {seen : List Identifier} {n : Nesting}, c.nesting = .map none seen :: n →
      c.done = false → (∀ name ∈ names, name ∉ seen) → ∀ more,
        c.run (kinds ++ more) = { c with nesting := .map none (seen ++ names) :: n }.run more
  | .nil, c, seen, n, hn, hdone, hseen, more => by simp [← hn]
  | @IsFieldStream.cons name names first others fresh hv hfs, c, seen, n, hn, hdone, hseen,
      more => by
    have hawaits : ∀ kind, (c.inField name seen n).Awaits kind :=
      awaits_of_nesting (c := c.inField name seen n) hdone rfl (by simp)
    have hvalue := run_value hv (fun first _ ↦ hawaits first) (others ++ more)
    have hothers : ∀ x ∈ names, x ∉ seen ++ [name] := by
      intro x hx
      have hne : x ≠ name := fun heq ↦ fresh (heq ▸ hx)
      simp [hseen x (List.mem_cons_of_mem _ hx), hne]
    have hfields := run_fields hfs (c := { c with nesting := .map none (seen ++ [name]) :: n })
      rfl hdone hothers more
    rw [List.cons_append, List.append_assoc,
      run_fieldStart hn hdone (hseen name List.mem_cons_self), hvalue,
      afterValue_inField hdone, hfields, List.append_assoc]
    rfl

end

end Checker

/-! ## Accepted events begin a stream -/

theorem IsElementStream.snoc {elements last : List EventKind} (hlast : IsValueStream last) :
    IsElementStream elements → IsElementStream (elements ++ last)
  | .nil => by simpa using IsElementStream.cons hlast .nil
  | .cons h hs => by
    rw [List.append_assoc]
    exact .cons h (hs.snoc hlast)

theorem IsFieldStream.snoc {name : Identifier} {last : List EventKind}
    (hlast : IsValueStream last) : ∀ {names : List Identifier} {fields : List EventKind},
      IsFieldStream names fields → name ∉ names →
        IsFieldStream (names ++ [name]) (fields ++ .fieldStart name :: last)
  | _, _, .nil, _ => by simpa using IsFieldStream.cons (by simp) hlast .nil
  | _, _, @IsFieldStream.cons first names _ _ fresh h hs, hname => by
    obtain ⟨hne, hname⟩ : name ≠ first ∧ name ∉ names := by simpa using hname
    have hfresh : first ∉ names ++ [name] := by simp [fresh, hne.symm]
    simpa using IsFieldStream.cons hfresh h (hs.snoc hlast hname)

/-- The event that a map or struct starts with. -/
def EventKind.StartsFields : EventKind → Prop
  | mapStart | structStart _ => True
  | _ => False

theorem IsFieldStream.close {start : EventKind} (hstart : start.StartsFields)
    {names : List Identifier} {fields : List EventKind} (h : IsFieldStream names fields) :
    IsValueStream (start :: (fields ++ [.close])) := by
  cases start with
  | mapStart => exact .map h
  | structStart type => exact .struct type h
  | _ => exact hstart.elim

/-- Whether a value may come: not in a map or struct that awaits a field. -/
def Nesting.TakesValue : Nesting → Prop
  | .map none _ :: _ => False
  | _ => True

/-- The events that have come when a nesting is open between two of them: for each frame the start
of what is open there, followed by its complete elements or fields. -/
inductive OpenedBy : List EventKind → Nesting → Prop
  /-- Nothing has come. -/
  | nil : OpenedBy [] []
  /-- A list has started and has had elements. -/
  | list (type : ListType) (position : Option Nat) {past elements : List EventKind} {n : Nesting}
    (h : OpenedBy past n) (takes : n.TakesValue) (hs : IsElementStream elements) :
    OpenedBy (past ++ .listStart type :: elements) (.list position :: n)
  /-- A map or struct has started and has had fields. -/
  | map {start : EventKind} {seen : List Identifier} {past fields : List EventKind} {n : Nesting}
    (hstart : start.StartsFields) (h : OpenedBy past n) (takes : n.TakesValue)
    (hs : IsFieldStream seen fields) : OpenedBy (past ++ start :: fields) (.map none seen :: n)
  /-- A further field has started. -/
  | field {name : Identifier} {seen : List Identifier} {past : List EventKind} {n : Nesting}
    (h : OpenedBy past (.map none seen :: n)) (fresh : name ∉ seen) :
    OpenedBy (past ++ [.fieldStart name])
      (.field name :: .map (some name) (seen ++ [name]) :: n)

namespace OpenedBy

open Checker (settle)

variable {past : List EventKind} {n : Nesting}

theorem nextElement (h : OpenedBy past n) : OpenedBy past n.nextElement := by
  cases h with
  | nil => exact .nil
  | list type position h takes hs => cases position <;> exact .list type _ h takes hs
  | map hstart h takes hs => exact .map hstart h takes hs
  | field h fresh => exact .field h fresh

theorem eq_nil (h : OpenedBy [] n) : n = [] := by
  generalize hpast : ([] : List EventKind) = past at h
  cases h <;> simp_all

theorem of_nil (h : OpenedBy past []) : past = [] := by
  cases h
  rfl

/-- A value completes the stream if nothing is open, and else it becomes a part of what is. -/
theorem value (h : OpenedBy past n) (takes : n.TakesValue) {events : List EventKind}
    (hs : IsValueStream events) :
    n = [] ∧ IsValueStream (past ++ events) ∨
      n ≠ [] ∧ OpenedBy (past ++ events) (settle n.closeField) := by
  cases h with
  | nil => exact .inl ⟨rfl, hs⟩
  | list type position h ht hes =>
    refine .inr ⟨by simp, ?_⟩
    rw [List.append_assoc]
    exact .list type position h ht (hes.snoc hs)
  | map => exact takes.elim
  | field h fresh =>
    -- The field belongs to a map or struct, which now has one more field.
    cases h with
    | map hstart h takes hfs =>
      refine .inr ⟨by simp, ?_⟩
      simp only [List.append_assoc, List.cons_append, List.nil_append]
      exact .map hstart h takes (hfs.snoc hs fresh)

/-- An end turns the innermost map, struct or list into a value at the place where it started. -/
theorem close {f : Frame} (h : OpenedBy past (f :: n)) (hf : ∀ name, f ≠ .field name) :
    n = [] ∧ IsValueStream (past ++ [.close]) ∨
      n ≠ [] ∧ OpenedBy (past ++ [.close]) (settle n.closeField) := by
  cases h with
  | list type position h takes hs =>
    simpa using h.value takes (.list type hs)
  | map hstart h takes hs =>
    simpa using h.value takes (hs.close hstart)
  | field => exact absurd rfl (hf _)

private theorem length_settle_closeField (n : Nesting) :
    (settle n.closeField).length ≤ n.length := by
  rcases n with _ | ⟨_ | _ | _, _ | ⟨_ | _ | _, n⟩⟩ <;> simp [settle, closeField]

private theorem length_settle (n : Nesting) : (settle n).length ≤ n.length := by
  rcases n with _ | ⟨_ | _ | _, n⟩ <;> simp [settle]

/-- Whatever is open can be closed: lists, maps and structs by their ends, and a field by a value
and the end of its map. -/
theorem exists_isValueStream (h : OpenedBy past n) : ∃ rest, IsValueStream (past ++ rest) := by
  -- The nesting does not get smaller frame by frame, since a value closes a field and its map goes
  -- on; the induction is on the number of frames.
  induction hlength : n.length using Nat.strongRecOn generalizing past n with
  | ind length ih =>
    subst hlength
    -- After events that lead to fewer frames, or to the end, the rest is known.
    have goOn : ∀ {m k : Nesting} (now : List EventKind), k.length < n.length →
        m = [] ∧ IsValueStream (past ++ now) ∨ m ≠ [] ∧ OpenedBy (past ++ now) k →
        ∃ rest, IsValueStream (past ++ rest) := by
      intro m k now hk hnow
      obtain ⟨-, hs⟩ | ⟨-, hopen⟩ := hnow
      · exact ⟨now, hs⟩
      · obtain ⟨rest, hs⟩ := ih _ hk hopen rfl
        exact ⟨now ++ rest, by rwa [← List.append_assoc]⟩
    rcases n with _ | ⟨_ | _ | name, m⟩
    · exact ⟨[.value .null], by simpa [h.of_nil] using IsValueStream.value _⟩
    · exact goOn [.close] (Nat.lt_succ_of_le (length_settle_closeField m)) (h.close (by simp))
    · exact goOn [.close] (Nat.lt_succ_of_le (length_settle_closeField m)) (h.close (by simp))
    · exact goOn [.value .null] (Nat.lt_succ_of_le (length_settle m)) (h.value trivial (.value _))

/-- A map that is innermost does not await the value of a field, for then the field is. -/
theorem pending_eq_none {pending : Option Identifier} {seen : List Identifier}
    (h : OpenedBy past (.map pending seen :: n)) : pending = none := by
  cases h
  rfl

end OpenedBy

namespace Checker

/-! ## What a checker has accepted -/

/-- The checker has accepted the events, the first of which its shape admits, and its state says
what is open or that the value is complete. -/
structure HasAccepted (c : Checker) (top : TopType) (past : List EventKind) : Prop where
  /-- The shape. -/
  top_eq : c.top = top
  /-- What is open, or the complete value. -/
  state : c.done = false ∧ OpenedBy past c.nesting ∨
    c.done = true ∧ c.nesting = [] ∧ IsValueStream past
  /-- The first event is one that a value of the shape can begin with. -/
  admits : ∀ first ∈ past.head?, top.admits first = true

theorem hasAccepted_nil (top : TopType) : HasAccepted { top := top } top [] :=
  ⟨rfl, .inl ⟨rfl, .nil⟩, by simp⟩

theorem Awaits.takesValue {c : Checker} {kind : EventKind} (h : c.Awaits kind) :
    c.nesting.nextElement.TakesValue := by
  obtain ⟨-, hobstacle⟩ := h
  rcases hn : c.nesting with _ | ⟨⟨_ | pending, seen⟩ | ⟨_ | i⟩ | name, n⟩
  case cons.map.none => simp [valueObstacle, hn] at hobstacle
  all_goals trivial

theorem Awaits.admits {c : Checker} {kind : EventKind} (h : c.Awaits kind) (hn : c.nesting = []) :
    c.top.admits kind = true := by
  obtain ⟨-, hobstacle⟩ := h
  simpa [valueObstacle, hn] using hobstacle

namespace HasAccepted

variable {c : Checker} {top : TopType} {past : List EventKind}

theorem openedBy (h : c.HasAccepted top past) (hdone : c.done = false) :
    OpenedBy past c.nesting := by
  obtain ⟨-, hopen⟩ | ⟨hdone', -⟩ := h.state
  · exact hopen
  · simp [hdone] at hdone'

theorem isValueStream (h : c.HasAccepted top past) (hdone : c.done = true) :
    IsValueStream past := by
  obtain ⟨hdone', -⟩ | ⟨-, -, hs⟩ := h.state
  · simp [hdone] at hdone'
  · exact hs

/-- The shape of the value is settled by its first event, before which nothing is open. -/
private theorem admits_append (h : c.HasAccepted top past) (hdone : c.done = false)
    {kind : EventKind} (hkind : c.nesting = [] → c.top.admits kind = true) :
    ∀ first ∈ (past ++ [kind]).head?, top.admits first = true := by
  have hopen := h.openedBy hdone
  rcases past with _ | ⟨first, past⟩
  · simpa [h.top_eq] using hkind hopen.eq_nil
  · exact h.admits

/-- A value that is complete completes the stream if nothing is open. -/
private theorem state_of_value {d : Checker} {n : Nesting} (hn : d.nesting = settle n.closeField)
    (hdone : d.done = n.isEmpty) (hnow : n = [] ∧ IsValueStream past ∨
      n ≠ [] ∧ OpenedBy past (settle n.closeField)) :
    d.done = false ∧ OpenedBy past d.nesting ∨
      d.done = true ∧ d.nesting = [] ∧ IsValueStream past := by
  rw [hn, hdone]
  obtain ⟨rfl, hs⟩ | ⟨hne, hopen⟩ := hnow
  · exact .inr ⟨rfl, rfl, hs⟩
  · exact .inl ⟨by simpa using hne, hopen⟩

/-- **An accepted event is one that the stream may go on with.** -/
theorem step (h : c.HasAccepted top past) {kind : EventKind} (haccepted : (c.run [kind]).2 = none) :
    (c.run [kind]).1.HasAccepted top (past ++ [kind]) := by
  have henter : (c.enter kind).2 = none := by rwa [snd_run_singleton] at haccepted
  cases kind with
  | value v =>
    have ha := awaits_of_enter henter (by simp) (by simp)
    rw [run_value_cons ha]
    exact ⟨h.top_eq, state_of_value rfl (Nesting.isEmpty_nextElement _).symm
      ((h.openedBy ha.1).nextElement.value ha.takesValue (.value v)),
      h.admits_append ha.1 ha.admits⟩
  | listStart type =>
    have ha := awaits_of_enter henter (by simp) (by simp)
    rw [run_start ha rfl]
    exact ⟨h.top_eq, .inl ⟨ha.1, .list type none (h.openedBy ha.1).nextElement ha.takesValue .nil⟩,
      h.admits_append ha.1 ha.admits⟩
  | mapStart | structStart type =>
    have ha := awaits_of_enter henter (by simp) (by simp)
    rw [run_start ha rfl]
    exact ⟨h.top_eq, .inl ⟨ha.1, .map trivial (h.openedBy ha.1).nextElement ha.takesValue .nil⟩,
      h.admits_append ha.1 ha.admits⟩
  | fieldStart name =>
    obtain ⟨seen, n, hdone, hn, hname, -⟩ := enter_fieldStart_inv henter
    rw [run_fieldStart hn hdone hname]
    exact ⟨h.top_eq, .inl ⟨hdone, .field (hn ▸ h.openedBy hdone) hname⟩,
      h.admits_append hdone (by simp [hn])⟩
  | close =>
    obtain ⟨f, n, hdone, hn, hf, hclosed⟩ := enter_close_inv henter
    rw [run_cons henter, hclosed]
    exact ⟨h.top_eq, state_of_value rfl rfl ((hn ▸ h.openedBy hdone).close hf),
      h.admits_append hdone (by simp [hn])⟩

/-- A run accepts all events, or it ends in the refusal of one after it accepted those before. -/
theorem run_cases (h : c.HasAccepted top past) (kinds : List EventKind) :
    (c.run kinds).2 = none ∧ (c.run kinds).1.HasAccepted top (past ++ kinds) ∨
      ∃ earlier kind later, ∃ d : Checker, kinds = earlier ++ kind :: later ∧
        d.HasAccepted top (past ++ earlier) ∧ c.run kinds = d.enter kind ∧
          (d.enter kind).2 ≠ none := by
  induction kinds generalizing c past with
  | nil => exact .inl ⟨rfl, by simpa [Checker.run] using h⟩
  | cons kind kinds ih =>
    rcases henter : c.enter kind with ⟨d, _ | fault⟩
    · have hsingle : c.run [kind] = (d.leave kind, none) := by simp [Checker.run, henter]
      have hrun : c.run (kind :: kinds) = (d.leave kind).run kinds := by
        rw [run_cons (by rw [henter]), henter]
      have hstep := @step c top past h kind (by rw [hsingle])
      rw [hsingle] at hstep
      rw [hrun]
      obtain ⟨hok, haccepted⟩ | ⟨earlier, last, later, e, rfl, hbefore, hlast, hfault⟩ := ih hstep
      · exact .inl ⟨hok, by simpa using haccepted⟩
      · exact .inr ⟨kind :: earlier, last, later, e, rfl, by simpa using hbefore, hlast, hfault⟩
    · exact .inr ⟨[], kind, kinds, c, rfl, by simpa using h, by simp [Checker.run, henter],
        by simp [henter]⟩

/-- An event is refused, if it is, for a reason that lies in the stream. -/
theorem enter_ne_broken (h : c.HasAccepted top past) (kind : EventKind) (i : Invariant) :
    (c.enter kind).2 ≠ some (.broken i) := by
  intro hbroken
  obtain ⟨name, pending, seen, n, -, hdone, hn⟩ := exists_pending_of_broken hbroken
  have hnone := (hn ▸ h.openedBy hdone).pending_eq_none
  simp at hnone

end HasAccepted

/-! ## Accepted streams -/

variable {top : TopType} {kinds : List EventKind}

private theorem awaits_of_admits {first : EventKind} (h : top.admits first = true) :
    Awaits { top := top } first := by
  simp [Awaits, valueObstacle, h]

/-- A checker that is done refuses whatever comes. -/
theorem run_cons_of_done {c : Checker} (h : c.done = true) (kind : EventKind)
    (more : List EventKind) :
    c.run (kind :: more) = (c, some (.error (.structural c.path (.afterEnd (callName kind))))) := by
  simp [run, enter, h, refuse]

/-- The checker is done after one whole value. -/
theorem run_of_isValueStream (hs : IsValueStream kinds)
    (hadmits : ∀ first ∈ kinds.head?, top.admits first = true) (more : List EventKind) :
    Checker.run { top := top } (kinds ++ more) = Checker.run { top := top, done := true } more :=
  run_value hs (fun first hfirst ↦ awaits_of_admits (hadmits first hfirst)) more

/-- **A checker accepts just the events that a stream of its shape begins with.** -/
theorem run_eq_none_iff (top : TopType) (kinds : List EventKind) :
    (Checker.run { top := top } kinds).2 = none ↔ BeginsStream top kinds := by
  constructor
  · intro hok
    obtain ⟨-, h⟩ | ⟨_, kind, _, d, -, -, hlast, hfault⟩ := (hasAccepted_nil top).run_cases kinds
    · refine ⟨?_, h.admits⟩
      obtain ⟨-, hopen⟩ | ⟨-, -, hs⟩ := h.state
      · exact hopen.exists_isValueStream
      · exact ⟨[], by simpa using hs⟩
    · exact absurd (hlast ▸ hok) hfault
  · rintro ⟨⟨rest, hs⟩, hadmits⟩
    rcases kinds with _ | ⟨first, kinds⟩
    · rfl
    · -- A run over the whole stream passes through all that the stream begins with.
      have hwhole := run_of_isValueStream hs hadmits []
      rw [List.append_nil, run_append] at hwhole
      split at hwhole
      · cases hwhole
      · simp [*]

/-- A checker is done once the events of a whole value of its shape have come. -/
theorem done_run_iff (top : TopType) (kinds : List EventKind) :
    (Checker.run { top := top } kinds).1.done = true ↔
      ∃ complete rest, kinds = complete ++ rest ∧ IsValueStream complete ∧
        ∀ first ∈ complete.head?, top.admits first = true := by
  constructor
  · intro hdone
    obtain ⟨-, h⟩ | ⟨earlier, kind, later, d, rfl, h, hlast, hfault⟩ :=
      (hasAccepted_nil top).run_cases kinds
    · exact ⟨kinds, [], by simp, h.isValueStream hdone, h.admits⟩
    · rw [hlast, done_enter_of_refused hfault] at hdone
      exact ⟨earlier, kind :: later, rfl, h.isValueStream hdone, h.admits⟩
  · rintro ⟨complete, rest, rfl, hs, hadmits⟩
    rw [run_of_isValueStream hs hadmits]
    rcases rest with _ | ⟨kind, rest⟩
    · rfl
    · rw [run_cons_of_done rfl]

/-- A checker that is done keeps nothing but its shape. -/
theorem run_eq_of_done (h : (Checker.run { top := top } kinds).1.done = true) :
    (Checker.run { top := top } kinds).1 = { top := top, done := true } := by
  obtain ⟨complete, rest, rfl, hs, hadmits⟩ := (done_run_iff top kinds).1 h
  rw [run_of_isValueStream hs hadmits]
  rcases rest with _ | ⟨kind, rest⟩
  · rfl
  · rw [run_cons_of_done rfl]

/-- All events are accepted and the checker is done just where they are one whole value. -/
theorem run_complete_iff :
    Checker.run { top := top } kinds = ({ top := top, done := true }, none) ↔
      IsValueStream kinds ∧ ∀ first ∈ kinds.head?, top.admits first = true := by
  constructor
  · intro hrun
    obtain ⟨complete, rest, rfl, hs, hadmits⟩ :=
      (done_run_iff top kinds).1 (congrArg (·.1.done) hrun)
    rw [run_of_isValueStream hs hadmits] at hrun
    rcases rest with _ | ⟨kind, rest⟩
    · simpa using ⟨hs, hadmits⟩
    · simp [run_cons_of_done] at hrun
  · rintro ⟨hs, hadmits⟩
    rw [← List.append_nil kinds]
    exact run_of_isValueStream hs hadmits []

theorem run_ne_broken (top : TopType) (kinds : List EventKind) (i : Invariant) :
    (Checker.run { top := top } kinds).2 ≠ some (.broken i) := by
  obtain ⟨hok, -⟩ | ⟨_, kind, _, d, -, h, hlast, -⟩ := (hasAccepted_nil top).run_cases kinds
  · simp [hok]
  · rw [hlast]
    exact h.enter_ne_broken kind i

end Checker

end ValueStream
