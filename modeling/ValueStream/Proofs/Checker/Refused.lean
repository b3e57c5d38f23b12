import ValueStream.Pipeline.Run
import ValueStream.Proofs.Checker.Language

/-!
# Going on after a refusal

Whoever sends events may ignore that one was refused and go on. For all but one event that is as if
it had not been sent: a checker decides before it takes an event in, and those behind it are not
asked. An end takes the innermost frame away before it is decided, but the end of a map or list is
never refused then, since both are opened only where a value may stand and nothing changes there
until they are closed. This is what `Proper` says, and it holds in every state that a checker comes
to, whatever was refused on the way, by it or behind it.

The one event is an end that comes while a field awaits its value. It is refused too, but it has
closed the field: the map below still awaits a value that nothing is open for. The end of the map is
accepted then, though a field of it has none, and another field finds the checker broken. Without
such an end no event does.
-/

namespace ValueStream

/-! ## What is open where -/

namespace Nesting

/-- Whether all that is open was opened where it may be. A map that awaits the value of a field is
right below the field, unless a field may have been closed without a value. -/
inductive Proper (cut : Prop) : Nesting → Prop
  /-- Nothing is open. -/
  | nil : Proper cut []
  /-- A list is innermost. -/
  | list {position : Option Nat} {n : Nesting} (h : Proper cut n) (takes : n.TakesValue) :
    Proper cut (.list position :: n)
  /-- A map is innermost, between two of its fields. -/
  | map {seen : List Identifier} {n : Nesting} (h : Proper cut n) (takes : n.TakesValue) :
    Proper cut (.map none seen :: n)
  /-- A field of a map is innermost. -/
  | field {name : Identifier} {seen : List Identifier} {n : Nesting} (h : Proper cut n)
    (takes : n.TakesValue) : Proper cut (.field name :: .map (some name) seen :: n)
  /-- A map is innermost, of which a field was closed without a value. -/
  | cut {name : Identifier} {seen : List Identifier} {n : Nesting} (hcut : cut) (h : Proper cut n)
    (takes : n.TakesValue) : Proper cut (.map (some name) seen :: n)

variable {cut : Prop} {n : Nesting}

namespace Proper

theorem mono {cut' : Prop} (hcut : cut → cut') (h : Proper cut n) : Proper cut' n := by
  induction h with
  | nil => exact .nil
  | list _ hn ih => exact .list ih hn
  | map _ hn ih => exact .map ih hn
  | field _ hn ih => exact .field ih hn
  | cut h _ hn ih => exact .cut (hcut h) ih hn

theorem nextElement (h : Proper cut n) : Proper cut n.nextElement := by
  cases h with
  | @list position n h hn => cases position <;> exact .list h hn
  | nil => exact .nil
  | map h hn => exact .map h hn
  | field h hn => exact .field h hn
  | cut hcut h hn => exact .cut hcut h hn

theorem settle_closeField (h : Proper cut n) : Proper cut (Checker.settle n.closeField) := by
  cases h with
  | nil => exact .nil
  | list h hn => exact .list h hn
  | map h hn | field h hn | cut _ h hn => exact .map h hn

end Proper

end Nesting

/-! ## Checkers -/

namespace Checker

/-- Whether the event is an end that comes while a field awaits its value. -/
def CutsField (c : Checker) (kind : EventKind) : Prop :=
  kind = .close ∧ ∃ name n, c.nesting = .field name :: n

/-- Whether all that is open was opened where it may be, and nothing is once the value is
complete. -/
structure Sound (cut : Prop) (c : Checker) : Prop where
  /-- What is open. -/
  proper : c.nesting.Proper cut
  /-- Once the value is complete. -/
  done : c.done = true → c.nesting = []

variable {cut : Prop} {c : Checker} {kind : EventKind}

theorem valueObstacle_eq_none (hn : c.nesting ≠ []) (htakes : c.nesting.TakesValue)
    (kind : EventKind) : c.valueObstacle kind = none := by
  rw [valueObstacle]
  split
  · next h => exact absurd h hn
  · next h =>
    rw [h] at htakes
    exact htakes.elim
  · rfl

namespace Sound

theorem mono {cut' : Prop} (hcut : cut → cut') (h : c.Sound cut) : c.Sound cut' :=
  ⟨h.proper.mono hcut, h.done⟩

/-- Where an event may come that a value begins with, the value is opened properly. -/
private theorem proper_enter (h : c.Sound cut) (hawaits : c.Awaits kind)
    (hfield : ∀ name, kind ≠ .fieldStart name) (hclose : kind ≠ .close) :
    (c.nesting.enter kind).Proper cut := by
  have hproper := h.proper.nextElement
  have htakes := hawaits.takesValue
  cases kind with
  | fieldStart name => exact absurd rfl (hfield name)
  | close => exact absurd rfl hclose
  | value v => exact hproper
  | listStart type => exact .list hproper htakes
  | mapStart | structStart type => exact .map hproper htakes

/-- An event that is accepted keeps the checker sound, while those behind it handle it. -/
theorem enter_of_accepted (h : c.Sound cut) (hkind : (c.enter kind).2 = none) :
    (c.enter kind).1.Sound cut := by
  by_cases hfield : ∃ name, kind = .fieldStart name
  · obtain ⟨name, rfl⟩ := hfield
    obtain ⟨seen, n, hdone, hn, -, henter⟩ := enter_fieldStart_inv hkind
    have hproper := h.proper
    rw [hn] at hproper
    rw [henter]
    cases hproper with
    | map hproper htakes => exact ⟨.field hproper htakes, fun hdone' ↦ by simp_all [inField]⟩
  by_cases hclose : kind = .close
  · subst hclose
    obtain ⟨f, n, -, hn, hf, henter⟩ := enter_close_inv hkind
    have hproper := h.proper
    rw [hn] at hproper
    rw [henter]
    refine ⟨?_, List.isEmpty_iff.1⟩
    cases hproper with
    | list hproper | map hproper | cut _ hproper => exact hproper
    | field => exact absurd rfl (hf _)
  · have hfield := not_exists.1 hfield
    have hawaits := awaits_of_enter hkind hfield hclose
    rw [enter_eq_of_awaits hawaits hfield hclose]
    exact ⟨h.proper_enter hawaits hfield hclose, List.isEmpty_iff.1⟩

/-- It does so afterwards. -/
theorem leave (h : c.Sound cut) (kind : EventKind) : (c.leave kind).Sound cut := by
  rw [Checker.leave]
  split
  · refine ⟨h.proper.settle_closeField, fun hdone ↦ ?_⟩
    simp [h.done hdone, settle, Nesting.closeField]
  · exact h

/-- An end that is refused finds nothing open, or a field. -/
private theorem enterClose_of_refused (h : c.Sound cut) (hcuts : ¬c.CutsField .close)
    (hkind : c.enterClose.2 ≠ none) : c.enterClose.1 = c := by
  have hproper := h.proper
  rcases hn : c.nesting with _ | ⟨f, _ | ⟨g, n⟩⟩
  · simp [enterClose, hn, refuse]
  · have hf : ∀ name, f ≠ .field name := by
      rintro name rfl
      exact hcuts ⟨rfl, name, [], hn⟩
    cases f <;> simp_all [enterClose]
  · -- What was opened in `g` was opened where a value may stand, so that the end is accepted.
    have htakes : Nesting.TakesValue (g :: n) := by
      rw [hn] at hproper
      cases hproper with
      | list _ htakes | map _ htakes | cut _ _ htakes => exact htakes
      | field => exact absurd ⟨rfl, _, _, hn⟩ hcuts
    have hobstacle : ({ c with nesting := g :: n } : Checker).valueObstacle .close = none :=
      valueObstacle_eq_none (by simp) htakes .close
    have hf : ∀ name, f ≠ .field name := by
      rintro name rfl
      exact hcuts ⟨rfl, name, g :: n, hn⟩
    cases f <;> simp_all [enterClose]

/-- **A refused event leaves a checker as it was**, but for an end that comes while a field awaits
its value. -/
theorem enter_of_refused (h : c.Sound cut) (hcuts : ¬c.CutsField kind) {fault : Fault}
    (hkind : (c.enter kind).2 = some fault) : c.enter kind = (c, some fault) := by
  refine Prod.ext ?_ hkind
  cases hdone : c.done with
  | true => simp [Checker.enter, hdone, refuse]
  | false =>
    simp only [Checker.enter, hdone, Bool.false_eq_true, if_false] at hkind ⊢
    cases kind with
    | close => exact h.enterClose_of_refused hcuts (by simp [hkind])
    | fieldStart name =>
      simp only [enterField] at hkind ⊢
      repeat' split at hkind
      all_goals simp_all [refuse]
    | value v | listStart type | mapStart | structStart type =>
      simp only [enterValue] at hkind ⊢
      split at hkind <;> simp_all [refuse]

/-- That end closes the field. -/
theorem enter_of_cutsField (h : c.Sound cut) (hcuts : c.CutsField kind) :
    ∃ name seen n, c.nesting = .field name :: .map (some name) seen :: n ∧
      c.enter kind = Checker.refuse { c with nesting := .map (some name) seen :: n }
        (.endWhilePending name) := by
  obtain ⟨rfl, name, n, hn⟩ := hcuts
  have hproper := h.proper
  rw [hn] at hproper
  have hdone : c.done = false :=
    Bool.eq_false_iff.2 fun hdone ↦ by simp [h.done hdone] at hn
  cases hproper with
  | @field _ seen n => exact ⟨name, seen, n, hn, by simp [Checker.enter, hdone, enterClose, hn]⟩

/-- Whatever is sent, a checker stays sound, but for a field that may have been cut. -/
theorem enter (h : c.Sound cut) (kind : EventKind) :
    (c.enter kind).1.Sound (cut ∨ c.CutsField kind) := by
  cases hkind : (c.enter kind).2 with
  | none => exact (h.enter_of_accepted hkind).mono .inl
  | some fault =>
    by_cases hcuts : c.CutsField kind
    · obtain ⟨name, seen, n, hn, henter⟩ := h.enter_of_cutsField hcuts
      have hproper := h.proper
      rw [hn] at hproper
      rw [henter]
      cases hproper with
      | field hproper htakes =>
        exact ⟨.cut (.inr hcuts) (hproper.mono .inl) htakes, fun hdone ↦ by simp_all [h.done hdone]⟩
    · rw [h.enter_of_refused hcuts hkind]
      exact h.mono .inl

/-- No event finds a checker broken if no field was closed without a value. -/
theorem enter_ne_broken (h : c.Sound cut) (hcut : ¬cut) (kind : EventKind) (i : Invariant) :
    (c.enter kind).2 ≠ some (.broken i) := by
  intro hbroken
  obtain ⟨name, pending, seen, n, -, -, hn⟩ := exists_pending_of_broken hbroken
  have hproper := h.proper
  rw [hn] at hproper
  cases hproper with
  | cut h => exact hcut h

end Sound

end Checker

/-! ## Pipelines -/

namespace Pipeline

/-- Sends events, whatever is refused. -/
def keepSending (p : Pipeline) (es : List Event) : Pipeline :=
  es.foldl (fun p e ↦ ⟨(p.send e).elements⟩) p

/-- Whether one of the events is an end that comes to a checker in front while a field awaits its
value. -/
def CutsFields (p : Pipeline) : List Event → Prop
  | [] => False
  | e :: es =>
    (∃ c rest, p.elements = .checker c :: rest ∧ c.CutsField e.kind) ∨
      CutsFields ⟨(p.send e).elements⟩ es

theorem keepSending_append (p : Pipeline) (es later : List Event) :
    p.keepSending (es ++ later) = (p.keepSending es).keepSending later :=
  List.foldl_append

variable {c : Checker} {cut : Prop}

/-- A refusal ends the matter: those behind the checker are not asked. -/
theorem send_of_refused {e : Event} {c' : Checker} {fault : Fault}
    (h : c.enter e.kind = (c', some fault)) (rest : List Element) :
    send ⟨.checker c :: rest⟩ e = { elements := .checker c' :: rest, fault := some fault } := by
  simp [send, length, dispatch, Element.step, Element.checkerStep, h, Step.stop, Step.map, handOn,
    Run.after]

/-- An event that is accepted is in, whether or not those behind the checker accept it. -/
theorem send_of_accepted {e : Event} {c' : Checker} (h : c.enter e.kind = (c', none))
    (rest : List Element) :
    ∃ rest', (send ⟨.checker c :: rest⟩ e).elements = .checker c' :: rest' ∨
      (send ⟨.checker c :: rest⟩ e).elements = .checker (c'.leave e.kind) :: rest' := by
  simp only [send, length, List.length_cons, dispatch, Element.step, Element.checkerStep, h,
    Step.forward, Step.map, Delivery.map, List.map_cons, List.map_nil, handOn, Run.after]
  split
  · exact ⟨_, .inl rfl⟩
  · exact ⟨_, .inr rfl⟩

theorem sound_send (h : c.Sound cut) (rest : List Element) (e : Event) :
    ∃ c' rest', (send ⟨.checker c :: rest⟩ e).elements = .checker c' :: rest' ∧
      c'.Sound (cut ∨ c.CutsField e.kind) := by
  have henter := h.enter e.kind
  rcases hkind : c.enter e.kind with ⟨c', _ | fault⟩
  · rw [hkind] at henter
    obtain ⟨rest', helements | helements⟩ := send_of_accepted hkind rest
    · exact ⟨c', rest', helements, henter⟩
    · exact ⟨_, rest', helements, henter.leave e.kind⟩
  · rw [hkind] at henter
    exact ⟨c', rest, by rw [send_of_refused hkind], henter⟩

theorem sound_keepSending (h : c.Sound cut) (rest : List Element) (es : List Event) :
    ∃ c' rest', keepSending ⟨.checker c :: rest⟩ es = ⟨.checker c' :: rest'⟩ ∧
      c'.Sound (cut ∨ CutsFields ⟨.checker c :: rest⟩ es) := by
  induction es generalizing c rest cut with
  | nil => exact ⟨c, rest, rfl, h.mono .inl⟩
  | cons e es ih =>
    obtain ⟨c', rest', helements, h'⟩ := sound_send h rest e
    obtain ⟨c'', rest'', hkeep, h''⟩ := ih h' rest'
    rw [← helements] at hkeep h''
    refine ⟨c'', rest'', hkeep, h''.mono ?_⟩
    rintro ((hcut | hcuts) | hlater)
    · exact .inl hcut
    · exact .inr (.inl ⟨c, rest, rfl, hcuts⟩)
    · exact .inr (.inr hlater)

/-- **A refused event might as well not have been sent**, whatever was sent before and whatever
stands behind the checker, but for an end that comes while a field awaits its value, which closes
the field. Without such an end no event finds the checker broken. -/
theorem refused_ignored (top : TopType) (row : List Element) (es : List Event) :
    let p : Pipeline := ⟨.checker { top := top } :: row⟩
    ∃ c rest, p.keepSending es = ⟨.checker c :: rest⟩ ∧
      (∀ e fault, (c.enter e.kind).2 = some fault → ¬c.CutsField e.kind →
        (p.keepSending es).send e = { elements := .checker c :: rest, fault := some fault } ∧
          ∀ later, p.keepSending (es ++ e :: later) = p.keepSending (es ++ later)) ∧
      (∀ e, c.CutsField e.kind → ∃ name seen n,
        c.nesting = .field name :: .map (some name) seen :: n ∧
          (p.keepSending es).send e =
            { elements := .checker { c with nesting := .map (some name) seen :: n } :: rest
              fault := some (.error (.structural (Nesting.path n) (.endWhilePending name))) }) ∧
      (¬p.CutsFields es → ∀ kind i, (c.enter kind).2 ≠ some (.broken i)) := by
  intro p
  have hnew : ({ top := top } : Checker).Sound False := ⟨.nil, fun _ ↦ rfl⟩
  obtain ⟨c, rest, hkeep, hsound⟩ := sound_keepSending hnew row es
  refine ⟨c, rest, hkeep, fun e fault hkind hcuts ↦ ?_, fun e hcuts ↦ ?_, fun hcuts ↦ ?_⟩
  · have hsend := send_of_refused (hsound.enter_of_refused hcuts hkind) rest
    refine ⟨by rw [hkeep, hsend], fun later ↦ ?_⟩
    rw [keepSending_append, keepSending_append, hkeep, keepSending, List.foldl_cons, hsend]
    rfl
  · obtain ⟨name, seen, n, hn, henter⟩ := hsound.enter_of_cutsField hcuts
    refine ⟨name, seen, n, hn, ?_⟩
    rw [hkeep, send_of_refused henter]
    simp [Checker.path]
  · exact hsound.enter_ne_broken (by simpa using hcuts)

/-- In a map a value is refused, and a second field before the first one has its value. -/
theorem refused_ignored_of_pending :
    let f : Identifier := ⟨"f", by decide⟩
    let g : Identifier := ⟨"g", by decide⟩
    let p : Pipeline := ⟨[.checker { top := .value }, .observer .discard]⟩
    let es : List Event := [⟨.mapStart, none⟩, ⟨.value .null, none⟩, ⟨.fieldStart f, none⟩]
    let c : Checker := ⟨[.field f, .map (some f) [f]], .value, false⟩
    ¬p.CutsFields es ∧ p.keepSending es = ⟨[.checker c, .observer .discard]⟩ ∧
      (c.enter (.fieldStart g)).2 =
        some (.error (.structural (Path.root.field f) (.fieldWhilePending g f))) ∧
      (∀ later, p.keepSending (es ++ ⟨.fieldStart g, none⟩ :: later) =
        p.keepSending (es ++ later)) ∧
      ∀ kind i, (c.enter kind).2 ≠ some (.broken i) := by
  intro f g p es c
  have hcuts : ¬p.CutsFields es := by simp [es, CutsFields, Checker.CutsField]
  have hkeep : p.keepSending es = ⟨[.checker c, .observer .discard]⟩ := rfl
  obtain ⟨c', rest, hkeep', hignored, -, hbroken⟩ :=
    refused_ignored .value [.observer .discard] es
  obtain ⟨rfl, -⟩ : c' = c ∧ rest = [.observer .discard] := by
    simpa using congrArg Pipeline.elements (hkeep'.symm.trans hkeep)
  have hlater := (hignored ⟨.fieldStart g, none⟩ _ rfl (by simp [Checker.CutsField])).2
  exact ⟨hcuts, hkeep, rfl, hlater, hbroken hcuts⟩

/-- **An end is refused and leaves its mark** if it comes while a field awaits its value: another
field is refused before it and finds the checker broken after it, and the end of the map is
accepted. -/
theorem end_closes_pending_field :
    let f : Identifier := ⟨"f", by decide⟩
    let g : Identifier := ⟨"g", by decide⟩
    let close : Event := ⟨.close, none⟩
    let p : Pipeline := keepSending ⟨[.checker { top := .value }]⟩
      [⟨.mapStart, none⟩, ⟨.fieldStart f, none⟩]
    (p.send close).fault = some (.error (.structural .root (.endWhilePending f))) ∧
      (p.send close).elements ≠ p.elements ∧
      (p.send ⟨.fieldStart g, none⟩).fault =
        some (.error (.structural (Path.root.field f) (.fieldWhilePending g f))) ∧
      ((p.keepSending [close]).send ⟨.fieldStart g, none⟩).fault =
        some (.broken (.fieldStillPending g f)) ∧
      ((p.keepSending [close]).send close).fault = none := by
  intro f g close p
  refine ⟨rfl, fun h ↦ ?_, rfl, rfl, rfl⟩
  have hchecker : Element.checker ⟨[.map (some f) [f]], .value, false⟩ =
      .checker ⟨[.field f, .map (some f) [f]], .value, false⟩ := (List.cons.inj h).1
  simp at hchecker

end Pipeline

end ValueStream
