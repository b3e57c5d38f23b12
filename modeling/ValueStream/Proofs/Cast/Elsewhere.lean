import ValueStream.Proofs.Cast.Places

/-!
# A cast that is told other places

The places that a cast is told go into its errors and into what it asks the schema. If the schema
answers the same wherever it is asked, apart from the places of its own errors (`IgnoresPlaces`),
then events come through the cast alike whatever places are reported ahead: what it hands on is the
same, and so is what stops it, if for an error then for one of the same kind (`passage_elsewhere`).
-/

namespace ValueStream

/-! ## Results that differ in places -/

/-- The results are the same, except that errors may be at other places. -/
inductive SameElsewhere {α : Type} : Except StreamError α → Except StreamError α → Prop
  /-- Both give the same. -/
  | ok (a : α) : SameElsewhere (.ok a) (.ok a)
  /-- Both fail with errors of one kind. -/
  | error {e e' : StreamError} (kind : e.kind = e'.kind) : SameElsewhere (.error e) (.error e')

namespace SameElsewhere

variable {α β : Type} {r r' : Except StreamError α}

theorem foundAt (p : Path) (r : Except StreamError α) : SameElsewhere r (foundAt p r) := by
  cases r with
  | error e => exact .error rfl
  | ok a => exact .ok a

theorem bind (h : SameElsewhere r r') {f f' : α → Except StreamError β}
    (hf : ∀ a, SameElsewhere (f a) (f' a)) : SameElsewhere (r >>= f) (r' >>= f') := by
  cases h with
  | ok a => exact hf a
  | error kind => exact .error kind

end SameElsewhere

/-- The types of fields are the same wherever they are asked for. -/
def FieldTyper.IgnoresPlaces (typer : FieldTyper) : Prop :=
  ∀ name p q, SameElsewhere (typer name p) (typer name q)

/-- The schema answers the same wherever it is asked. -/
structure Schema.IgnoresPlaces (schema : Schema) : Prop where
  /-- The types of the fields of a struct. -/
  typer : ∀ type p q, SameElsewhere (schema.typer type p) (schema.typer type q)
  /-- The type of a field. -/
  fields : ∀ type place typer, schema.typer type place = .ok (some typer) → typer.IgnoresPlaces
  /-- Values that it casts itself. -/
  replacement : ∀ v a p q,
    (schema.replacement v a p = none ∧ schema.replacement v a q = none) ∨
      ∃ r r', schema.replacement v a p = some r ∧ schema.replacement v a q = some r' ∧
        SameElsewhere r r'

/-- A table answers the same wherever it is asked. -/
theorem SchemaTable.ignoresPlaces (t : SchemaTable) : t.schema.IgnoresPlaces where
  typer type p q := by
    simp only [schema, SchemaTable.typer]
    split
    · exact .ok _
    · exact .error rfl
    · exact .ok _
  fields type place typer h name p q := by
    simp only [schema, SchemaTable.typer] at h
    split at h
    · cases h
    · cases h
    · next fields _ =>
      obtain rfl : fields.typer = typer := by simpa using h
      simp only [FieldTypes.typer]
      split
      · exact .ok _
      · exact .error rfl
  replacement v a p q := by
    simp only [schema, SchemaTable.replacement]
    split
    · cases v with
      | scalar s =>
        cases s with
        | string s =>
          dsimp only
          cases variableText s.toList with
          | none => exact .inl ⟨rfl, rfl⟩
          | some digits =>
            refine .inr ⟨_, _, rfl, rfl, ?_⟩
            dsimp only
            cases Integer.read .int64 (String.ofList digits) with
            | none => exact .error rfl
            | some n => exact .ok _
        | _ => exact .inl ⟨rfl, rfl⟩
      | _ => exact .inl ⟨rfl, rfl⟩
    · exact .inl ⟨rfl, rfl⟩

/-! ## Scalars -/

namespace Cast

variable {v : Value} {slot : TypeRef} {p q : Path}

theorem toNamed_elsewhere (a : AtomicType) :
    SameElsewhere (toNamed a v slot p) (toNamed a v slot q) :=
  foundAt_toNamed a q p ▸ .foundAt q _

theorem unrestricted_elsewhere (a : AtomicType) :
    SameElsewhere (unrestricted a v slot p) (unrestricted a v slot q) := by
  rw [unrestricted.eq_def, unrestricted.eq_def]
  split
  · split
    · exact .ok _
    · exact .error rfl
  · exact toNamed_elsewhere a

theorem checkRestriction_elsewhere (a : AtomicType) :
    SameElsewhere (checkRestriction a v p) (checkRestriction a v q) := by
  rw [checkRestriction, checkRestriction]
  split
  · exact .ok _
  · split
    · exact .ok _
    · exact .error rfl

theorem named_elsewhere {schema : Schema} (h : schema.IgnoresPlaces) (a : AtomicType) :
    SameElsewhere (named schema v a slot p) (named schema v a slot q) := by
  have hchecked := fun w ↦
    SameElsewhere.bind (@checkRestriction_elsewhere w p q a) fun _ ↦ SameElsewhere.ok w
  rw [named, named]
  obtain ⟨hp, hq⟩ | ⟨r, r', hp, hq, hsame⟩ := h.replacement v a p q
  · rw [hp, hq]
    exact (unrestricted_elsewhere a).bind hchecked
  · rw [hp, hq]
    exact hsame.bind hchecked

theorem scalar_elsewhere {schema : Schema} (h : schema.IgnoresPlaces) :
    ∀ target, SameElsewhere (scalar schema v slot p target) (scalar schema v slot q target)
  | .nullable inner => by
    by_cases hnull : v = .scalar .null
    · subst hnull
      exact .ok _
    · rw [scalar_nullable hnull, scalar_nullable hnull]
      exact scalar_elsewhere h inner
  | .atomic a => by
    rw [scalar, scalar]
    exact named_elsewhere h a
  | .list _ => by
    rw [scalar, scalar]
    exact .error rfl

end Cast

/-! ## One event -/

/-- The fault, which is found at a place if it is an error. -/
def Fault.foundAt (place : Path) : Fault → Fault
  | .error e => .error (e.foundAt place)
  | .broken i => .broken i

namespace Caster

/-- All that the caster asks answers the same wherever it is asked. -/
structure IgnoresPlaces (c : Caster) : Prop where
  /-- The schema. -/
  schema : c.schema.IgnoresPlaces
  /-- The types of fields. -/
  types : c.Types FieldTyper.IgnoresPlaces

/-- The outcomes are the same, except that errors may be at other places. -/
structure Outcome.SameElsewhere (o o' : Outcome) : Prop where
  /-- The state. -/
  state : o.1 = o'.1
  /-- What comes of the event. -/
  result : o.2.mapError (Fault.foundAt .root) = o'.2.mapError (Fault.foundAt .root)

variable {c : Caster} {p q : Path}

theorem Outcome.SameElsewhere.refl (o : Outcome) : o.SameElsewhere o := ⟨rfl, rfl⟩

theorem refuse_elsewhere (c : Caster) {e e' : StreamError} (h : e.kind = e'.kind) :
    (c.refuse e).SameElsewhere (c.refuse e') :=
  ⟨rfl, by simp [refuse, Except.mapError, Fault.foundAt, StreamError.foundAt, h]⟩

theorem castValue_elsewhere (h : c.IgnoresPlaces) (slot : TypeRef) (v : Value) :
    (c.castValue p slot v).SameElsewhere (c.castValue q slot v) := by
  have hscalar := @Cast.scalar_elsewhere v slot p q c.schema h.schema slot
  rw [castValue, castValue]
  dsimp only
  generalize Cast.scalar c.schema v slot p slot = r at hscalar
  generalize Cast.scalar c.schema v slot q slot = r' at hscalar
  cases hscalar with
  | ok w => exact .refl _
  | error kind => exact refuse_elsewhere _ kind

theorem startList_elsewhere (slot : TypeRef) (type : ListType) :
    (c.startList p slot type).SameElsewhere (c.startList q slot type) := by
  rw [startList, startList]
  split
  · exact .refl _
  · exact refuse_elsewhere _ rfl

theorem startStruct_elsewhere (h : c.IgnoresPlaces) (slot : TypeRef) (type : QualifiedName) :
    (c.startStruct p slot type).SameElsewhere (c.startStruct q slot type) := by
  have htyper := h.schema.typer type p q
  rw [startStruct, startStruct]
  split
  · exact refuse_elsewhere _ rfl
  · generalize c.schema.typer type p = r at htyper
    generalize c.schema.typer type q = r' at htyper
    cases htyper with
    | ok typer => exact .refl _
    | error kind => exact refuse_elsewhere _ kind

theorem startMap_elsewhere (h : c.IgnoresPlaces) (slot : TypeRef) :
    (c.startMap p slot).SameElsewhere (c.startMap q slot) := by
  rw [startMap, startMap]
  split
  · exact .refl _
  · split
    · exact startStruct_elsewhere h slot _
    · exact refuse_elsewhere _ rfl

theorem startField_elsewhere (h : c.IgnoresPlaces) (name : Identifier) :
    (c.startField p name).SameElsewhere (c.startField q name) := by
  rw [startField, startField]
  split
  · next fieldType typer rest hframes =>
    have htyper : typer.IgnoresPlaces := by
      have hall := h.types.frames
      rw [hframes, List.forall_mem_cons] at hall
      exact hall.1
    have htype := htyper name p q
    generalize typer name p = r at htype
    generalize typer name q = r' at htype
    cases htype with
    | ok type => exact .refl _
    | error kind => exact refuse_elsewhere _ kind
  · exact .refl _

theorem close_elsewhere : (c.close p).SameElsewhere (c.close q) := by
  rw [close, close]
  split
  · exact .refl _
  · dsimp only
    split
    · exact .refl _
    · split
      · exact .refl _
      · exact refuse_elsewhere _ rfl
    · exact .refl _

theorem intoSlot_elsewhere {take take' : TypeRef → Outcome}
    (h : ∀ slot, (take slot).SameElsewhere (take' slot)) :
    (c.intoSlot take).SameElsewhere (c.intoSlot take') := by
  rw [intoSlot, intoSlot]
  split
  · exact h _
  · exact .refl _

/-- **An event comes through a cast alike at all places.** -/
theorem step_elsewhere (h : c.IgnoresPlaces) (kind : EventKind) :
    (c.step p kind).SameElsewhere (c.step q kind) := by
  cases kind with
  | value v => exact intoSlot_elsewhere fun slot ↦ castValue_elsewhere h slot v
  | listStart type => exact intoSlot_elsewhere fun slot ↦ startList_elsewhere slot type
  | mapStart => exact intoSlot_elsewhere fun slot ↦ startMap_elsewhere h slot
  | structStart type => exact intoSlot_elsewhere fun slot ↦ startStruct_elsewhere h slot type
  | fieldStart name => exact startField_elsewhere h name
  | close => exact close_elsewhere

theorem new_ignoresPlaces (type : TypeRef) {schema : Schema} (h : schema.IgnoresPlaces)
    (start : Path) : (new type schema start).IgnoresPlaces :=
  ⟨h, .new (fun _ _ _ ↦ .ok _) h.fields type start⟩

/-! ## Events in a row -/

variable {xs ys : List (Event × Option Path)}

/-- **Events come through a cast alike whatever places are reported ahead.** -/
theorem passage_elsewhere (h : c.IgnoresPlaces) (hxs : xs.map Prod.fst = ys.map Prod.fst) :
    (c.passage xs).handed.map Prod.fst = (c.passage ys).handed.map Prod.fst ∧
      (c.passage xs).fault.map (Fault.foundAt .root) =
        (c.passage ys).fault.map (Fault.foundAt .root) := by
  induction xs generalizing c ys with
  | nil =>
    obtain rfl : ys = [] := by simpa using hxs.symm
    exact ⟨rfl, rfl⟩
  | cons x xs ih =>
    obtain ⟨e, ahead⟩ := x
    obtain ⟨⟨e, ahead'⟩, ys, rfl, rfl, hlater⟩ := List.map_eq_cons_iff.1 hxs.symm
    have hgoesOn := step_goesOn h.types (c.start ++ ahead.getD .root) e.kind
    obtain ⟨hstate, hresult⟩ := @step_elsewhere c (c.start ++ ahead.getD .root)
      (c.start ++ ahead'.getD .root) h e.kind
    rcases hstep : c.step (c.start ++ ahead.getD .root) e.kind with ⟨d, fault | kind⟩ <;>
      rcases hstep' : c.step (c.start ++ ahead'.getD .root) e.kind with ⟨d', fault' | kind'⟩ <;>
      rw [hstep, hstep'] at hresult hstate <;>
      simp only [Except.mapError, Except.error.injEq, Except.ok.injEq, reduceCtorEq] at hresult
    · rw [passage_cons_error hstep, passage_cons_error hstep']
      exact ⟨rfl, congrArg some hresult⟩
    · obtain rfl : d = d' := hstate
      subst hresult
      rw [hstep] at hgoesOn
      obtain ⟨hhanded, hfault⟩ := ih ⟨hgoesOn.schema ▸ h.schema, hgoesOn.types⟩ hlater.symm
      rw [passage_cons_ok hstep, passage_cons_ok hstep']
      exact ⟨by simpa [Passage.behind] using hhanded, hfault⟩

end Caster

end ValueStream
