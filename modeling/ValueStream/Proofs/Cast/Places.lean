import ValueStream.Proofs.Cast.Scalar
import ValueStream.Proofs.Cast.Typers
import ValueStream.Proofs.Pipeline.Row

/-!
# Where a cast reports its errors

A cast is told the place of each event, and whatever it finds wrong with the event it reports there.
This is plain of the errors that it makes itself. The others come from the schema, which is told
the place as well and may report what it likes, so that it has to be asked for (`ReportsPlaces`); a
table reports at the place that it is told.

A cast hands on one event for each that comes, up to the one that it refuses. So the number of
events handed on says which one is refused, and the place that was reported ahead for this event is
where the error is.
-/

namespace ValueStream

/-! ## Errors at a place -/

/-- Errors are reported at the place. -/
def ReportsAt {α : Type} (place : Path) (r : Except StreamError α) : Prop :=
  ∀ e, r = .error e → e.path = place

namespace ReportsAt

variable {α β : Type} {place : Path}

@[simp] theorem ok (a : α) : ReportsAt place (.ok a) := nofun

theorem error {e : StreamError} (h : e.path = place) : ReportsAt place (.error e : Except _ α) := by
  rintro _ ⟨⟩
  exact h

theorem bind {r : Except StreamError α} {f : α → Except StreamError β} (hr : ReportsAt place r)
    (hf : ∀ a, ReportsAt place (f a)) : ReportsAt place (r >>= f) := by
  cases r with
  | error e => exact error (hr e rfl)
  | ok a => exact hf a

end ReportsAt

/-- The error, found at a place. -/
def StreamError.foundAt (place : Path) (e : StreamError) : StreamError := ⟨place, e.kind⟩

/-- The result, where an error is found at a place. -/
def foundAt {α : Type} (place : Path) (r : Except StreamError α) : Except StreamError α :=
  r.mapError (·.foundAt place)

section
variable {α : Type} (p q : Path)

@[simp] theorem foundAt_ok (a : α) : foundAt p (.ok a) = .ok a := rfl

@[simp] theorem foundAt_error (e : StreamError) :
    foundAt p (.error e : Except _ α) = .error (e.foundAt p) := rfl

@[simp] theorem StreamError.foundAt_value (cause : ValueCause) :
    (value q cause).foundAt p = value p cause := rfl

theorem ReportsAt.foundAt (r : Except StreamError α) : ReportsAt p (foundAt p r) := by
  cases r with
  | error e => exact .error rfl
  | ok a => exact .ok a

end

/-- Errors for fields are reported at the places of the fields. -/
def FieldTyper.ReportsPlaces (typer : FieldTyper) : Prop :=
  ∀ name place, ReportsAt place (typer name place)

/-- What the schema refuses it reports at the place that it is told. -/
structure Schema.ReportsPlaces (schema : Schema) : Prop where
  /-- Struct types without an answer. -/
  typer : ∀ type place, ReportsAt place (schema.typer type place)
  /-- Fields without a type. -/
  fields : ∀ type place typer, schema.typer type place = .ok (some typer) → typer.ReportsPlaces
  /-- Values that it casts itself. -/
  replacement : ∀ v a place outcome,
    schema.replacement v a place = some outcome → ReportsAt place outcome

/-- A table reports at the places that it is told. -/
theorem SchemaTable.reportsPlaces (t : SchemaTable) : t.schema.ReportsPlaces where
  typer type place e h := by
    revert h
    simp only [schema, SchemaTable.typer]
    split <;> grind [StreamError.value]
  fields type place typer h name p e he := by
    simp only [schema, SchemaTable.typer] at h
    split at h
    · cases h
    · cases h
    · next fields _ =>
      obtain rfl : fields.typer = typer := by simpa using h
      simp only [FieldTypes.typer] at he
      split at he <;> grind [StreamError.value]
  replacement v a place outcome h e he := by
    simp only [schema, SchemaTable.replacement] at h
    split at h
    · split at h
      · obtain ⟨digits, -, houtcome⟩ := Option.map_eq_some_iff.1 h
        split at houtcome <;> grind [StreamError.value]
      · cases h
    · cases h

/-! ## Scalars -/

namespace Cast

variable {v : Value} {slot : TypeRef} {place : Path}

@[simp] theorem foundAt_mismatch (p q : Path) :
    (mismatch v slot q).foundAt p = mismatch v slot p := rfl

/-- The built-in casts make no use of the place but in errors. -/
theorem foundAt_toNamed (a : AtomicType) (p q : Path) :
    foundAt p (toNamed a v slot q) = toNamed a v slot p := by
  rw [toNamed, toNamed]
  split
  · rfl
  · fun_cases toBoolean v slot q <;> simp_all [toBoolean]
  · fun_cases toBuffer v slot q <;> simp_all [toBuffer]
  · fun_cases toText v slot q <;> simp_all [toText]
  · fun_cases toInteger _ v slot q <;> simp_all [toInteger]
  · fun_cases toFloat _ v slot q <;> simp_all [toFloat]
  · fun_cases toTimestamp v slot q <;> simp_all [toTimestamp]
  · fun_cases toSymbolMap v slot q <;> simp_all [toSymbolMap]
  · fun_cases toEnum a.name v slot q <;> simp_all [toEnum]
  · fun_cases toEnum a.name v slot q <;> simp_all [toEnum]

theorem toNamed_reportsAt (a : AtomicType) : ReportsAt place (toNamed a v slot place) :=
  foundAt_toNamed a place place ▸ .foundAt place _

theorem unrestricted_reportsAt (a : AtomicType) :
    ReportsAt place (unrestricted a v slot place) := by
  rw [unrestricted.eq_def]
  split
  · split
    · exact .ok _
    · exact .error rfl
  · exact toNamed_reportsAt a

theorem checkRestriction_reportsAt (a : AtomicType) :
    ReportsAt place (checkRestriction a v place) := by
  rw [checkRestriction]
  split
  · exact .ok _
  · split
    · exact .ok _
    · exact .error rfl

theorem named_reportsAt {schema : Schema} (h : schema.ReportsPlaces) (a : AtomicType) :
    ReportsAt place (named schema v a slot place) := by
  rw [named]
  have hchecked := fun w ↦
    ReportsAt.bind (@checkRestriction_reportsAt w place a) fun _ ↦ ReportsAt.ok w
  split
  · next outcome houtcome => exact (h.replacement v a place outcome houtcome).bind hchecked
  · exact (unrestricted_reportsAt a).bind hchecked

theorem scalar_reportsAt {schema : Schema} (h : schema.ReportsPlaces) (target : TypeRef) :
    ReportsAt place (scalar schema v slot place target) := by
  fun_induction scalar schema v slot place target with
  | case1 => exact .ok _
  | case2 inner _ ih => exact ih
  | case3 a => exact named_reportsAt h a
  | case4 => exact .error rfl

end Cast

/-! ## One event -/

namespace Caster

/-- All that the caster asks reports at the places that it is told. -/
structure ReportsPlaces (c : Caster) : Prop where
  /-- The schema. -/
  schema : c.schema.ReportsPlaces
  /-- The types of fields. -/
  types : c.Types FieldTyper.ReportsPlaces

/-- The event at the place is refused there, if it is for an error. -/
def Outcome.ReportsAt (place : Path) (o : Outcome) : Prop :=
  ∀ e, o.2 = .error (.error e) → e.path = place

variable {c : Caster} {place : Path}

theorem refuse_reportsAt (c : Caster) {e : StreamError} (h : e.path = place) :
    (c.refuse e).ReportsAt place := by
  rintro _ ⟨⟩
  exact h

@[simp] theorem ok_reportsAt (c : Caster) (kind : EventKind) :
    Outcome.ReportsAt place (c, .ok kind) := nofun

@[simp] theorem broken_reportsAt (c : Caster) (i : Invariant) :
    Outcome.ReportsAt place (c, .error (.broken i)) := nofun

theorem castValue_reportsAt (h : c.ReportsPlaces) (slot : TypeRef) (v : Value) :
    (c.castValue place slot v).ReportsAt place := by
  rw [castValue]
  dsimp only
  split
  · exact ok_reportsAt _ _
  · next e he => exact refuse_reportsAt _ (Cast.scalar_reportsAt h.schema slot e he)

theorem startList_reportsAt (slot : TypeRef) (type : ListType) :
    (c.startList place slot type).ReportsAt place := by
  rw [startList]
  split
  · exact ok_reportsAt _ _
  · exact refuse_reportsAt _ rfl

theorem startStruct_reportsAt (h : c.ReportsPlaces) (slot : TypeRef) (type : QualifiedName) :
    (c.startStruct place slot type).ReportsAt place := by
  rw [startStruct]
  split
  · exact refuse_reportsAt _ rfl
  · split
    · next e he => exact refuse_reportsAt _ (h.schema.typer type place e he)
    · exact ok_reportsAt _ _

theorem startMap_reportsAt (h : c.ReportsPlaces) (slot : TypeRef) :
    (c.startMap place slot).ReportsAt place := by
  rw [startMap]
  split
  · exact ok_reportsAt _ _
  · split
    · exact startStruct_reportsAt h slot _
    · exact refuse_reportsAt _ rfl

theorem startField_reportsAt (h : c.ReportsPlaces) (name : Identifier) :
    (c.startField place name).ReportsAt place := by
  rw [startField]
  split
  · next fieldType typer rest hframes =>
    have htyper : typer.ReportsPlaces := by
      have hall := h.types.frames
      rw [hframes, List.forall_mem_cons] at hall
      exact hall.1
    split
    · exact ok_reportsAt _ _
    · next e he => exact refuse_reportsAt _ (htyper name place e he)
  · exact broken_reportsAt _ _

theorem close_reportsAt : (c.close place).ReportsAt place := by
  rw [close]
  split
  · exact broken_reportsAt _ _
  · dsimp only
    split
    · exact ok_reportsAt _ _
    · split
      · exact ok_reportsAt _ _
      · exact refuse_reportsAt _ rfl
    · exact broken_reportsAt _ _

theorem intoSlot_reportsAt {take : TypeRef → Outcome}
    (h : ∀ slot, (take slot).ReportsAt place) : (c.intoSlot take).ReportsAt place := by
  rw [intoSlot]
  split
  · exact h _
  · exact broken_reportsAt _ _

/-- **An event is refused at its place.** -/
theorem step_reportsAt (h : c.ReportsPlaces) (kind : EventKind) :
    (c.step place kind).ReportsAt place := by
  cases kind with
  | value v => exact intoSlot_reportsAt fun slot ↦ castValue_reportsAt h slot v
  | listStart type => exact intoSlot_reportsAt fun slot ↦ startList_reportsAt slot type
  | mapStart => exact intoSlot_reportsAt fun slot ↦ startMap_reportsAt h slot
  | structStart type => exact intoSlot_reportsAt fun slot ↦ startStruct_reportsAt h slot type
  | fieldStart name => exact startField_reportsAt h name
  | close => exact close_reportsAt

theorem new_reportsPlaces (type : TypeRef) {schema : Schema} (h : schema.ReportsPlaces)
    (start : Path) : (new type schema start).ReportsPlaces :=
  ⟨h, .new (fun _ _ ↦ .ok _) h.fields type start⟩

end Caster

/-! ## Events in a row -/

namespace Caster

/-- The passage of events through a caster. -/
def passage (c : Caster) (inputs : List (Event × Option Path)) : Passage Caster :=
  passAll Element.castStep c inputs

variable {c c' : Caster} {e : Event} {ahead : Option Path}

theorem passage_cons_ok {kind : EventKind}
    (h : c.step (c.start ++ ahead.getD .root) e.kind = (c', .ok kind))
    (later : List (Event × Option Path)) :
    c.passage ((e, ahead) :: later) =
      (c'.passage later).behind [(e.withKind kind, some (c.start ++ ahead.getD .root))] := by
  have hstep : Element.castStep c ahead e =
      .forward (e.withKind kind) (some (c.start ++ ahead.getD .root)) c' c' := by
    simp [Element.castStep, h]
  rw [passage, passAll_cons (by rw [hstep]; rfl), hstep]
  rfl

theorem passage_cons_error {fault : Fault}
    (h : c.step (c.start ++ ahead.getD .root) e.kind = (c', .error fault))
    (later : List (Event × Option Path)) :
    c.passage ((e, ahead) :: later) = { handed := [], state := c', fault := some fault } := by
  simp [passage, passAll, Element.castStep, h, Step.stop, Step.handed]

/-- After any events a caster goes on with its schema and its start. -/
theorem passage_goesOn {P : FieldTyper → Prop} (h : c.Types P)
    (inputs : List (Event × Option Path)) : c.GoesOn P (c.passage inputs).state := by
  induction inputs generalizing c with
  | nil => exact h.goesOn
  | cons input later ih =>
    obtain ⟨e, ahead⟩ := input
    have hstep := step_goesOn h (c.start ++ ahead.getD .root) e.kind
    rcases houtcome : c.step (c.start ++ ahead.getD .root) e.kind with ⟨c', fault | kind⟩
    · rw [houtcome] at hstep
      rw [passage_cons_error houtcome]
      exact hstep
    · rw [houtcome] at hstep
      rw [passage_cons_ok houtcome]
      exact hstep.trans (ih hstep.types)

/-- **The event after those handed on is the one refused, and the error is at its place.** -/
theorem passage_error (h : c.ReportsPlaces) {inputs : List (Event × Option Path)} {e : StreamError}
    (herror : (c.passage inputs).fault = some (.error e)) :
    ∃ x, inputs[(c.passage inputs).handed.length]? = some x ∧
      e.path = c.start ++ x.2.getD .root := by
  induction inputs generalizing c with
  | nil => cases herror
  | cons input later ih =>
    obtain ⟨event, ahead⟩ := input
    have hreports := @step_reportsAt c (c.start ++ ahead.getD .root) h event.kind
    have hgoesOn := step_goesOn h.types (c.start ++ ahead.getD .root) event.kind
    rcases hstep : c.step (c.start ++ ahead.getD .root) event.kind with ⟨c', fault | kind⟩
    · rw [hstep] at hreports
      rw [passage_cons_error hstep] at herror ⊢
      obtain rfl : fault = .error e := Option.some.inj herror
      exact ⟨(event, ahead), rfl, hreports e rfl⟩
    · rw [hstep] at hgoesOn
      rw [passage_cons_ok hstep] at herror ⊢
      obtain ⟨x, hx, hpath⟩ := ih ⟨hgoesOn.schema ▸ h.schema, hgoesOn.types⟩ herror
      exact ⟨x, by simpa [Passage.behind] using hx, by rw [hpath, hgoesOn.start]⟩

end Caster

/-- A cast in a pipeline does what the caster does by itself. -/
theorem Element.passAll_cast_eq_passage (c : Caster) (inputs : List (Event × Option Path)) :
    (Element.cast c).passAll inputs = (c.passage inputs).map .cast :=
  passAll_map (fun _ _ _ ↦ rfl) c inputs

end ValueStream
