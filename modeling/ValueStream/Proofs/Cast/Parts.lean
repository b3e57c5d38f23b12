import ValueStream.Proofs.Cast.Conformance
import ValueStream.Proofs.Value.Arranged

/-!
# Casts part by part

A cast takes each part of a value for itself: the type that it asks for comes from the types further
out, and never from the other elements or fields. So a cast is described by what stands at each
location of the result (`PartsCast`), and in that description the fields of a map or struct have no
order. It follows that a value can be cast if and only if the arranged value can, and that the two
results have the same at each location (`partsCast_arranged_iff`).

The description goes by locations in the value that is cast. What a schema casts in place of the
built-in casts may have parts of its own, which have no place there: it stands at its location as a
whole.
-/

namespace ValueStream

/-! ## Parts and their locations -/

namespace Value

/-- The part of a value at the end of steps. -/
def part? : Value → List Segment → Option Value
  | v, [] => some v
  | .map fields, .field name :: rest => (fields.lookup name).bind fun v ↦ part? v rest
  | .struct _ fields, .field name :: rest => (fields.lookup name).bind fun v ↦ part? v rest
  | .list _ elements, .index i :: rest => elements[i]?.bind fun v ↦ part? v rest
  | _, _ => none

@[simp] theorem part?_nil (v : Value) : v.part? [] = some v := by
  rw [part?]

theorem part?_append (v : Value) (steps more : List Segment) :
    v.part? (steps ++ more) = (v.part? steps).bind (·.part? more) := by
  induction steps generalizing v with
  | nil => simp
  | cons step steps ih => cases v <;> cases step <;> simp [part?, ih, Option.bind_assoc]

/-- The part at a location, or null where there is none. -/
def at_ (v : Value) (p : Path) : Value := (v.part? p.segments).getD .null

theorem lookup_of_mem {fields : Fields} (hkeys : (Fields.keys fields).Nodup) {name : Identifier}
    {v : Value} (h : (name, v) ∈ fields) : fields.lookup name = some v := by
  obtain ⟨before, after, rfl⟩ := List.append_of_mem h
  simp only [Fields.keys_append, Fields.keys_cons, List.nodup_append] at hkeys
  refine List.lookup_eq_some_iff.2 ⟨before, after, rfl, fun f hf ↦ ?_⟩
  exact bne_iff_ne.2 fun heq ↦
    hkeys.2.2 f.1 (List.mem_map_of_mem hf) name List.mem_cons_self heq.symm

theorem part?_field {w : Value} {fields : Fields} (hw : w.fields? = some fields)
    (hkeys : (Fields.keys fields).Nodup) {name : Identifier} {v : Value}
    (h : (name, v) ∈ fields) {root : Value} {p : Path} (hroot : root.part? p.segments = some w) :
    root.part? (p.field name).segments = some v := by
  have hlookup := lookup_of_mem hkeys h
  rw [Path.segments_field, part?_append, hroot]
  cases w <;> cases hw <;> simp [part?, hlookup]

theorem part?_index {type : ListType} {elements : List Value} {i : Nat} {v : Value}
    (h : elements[i]? = some v) {root : Value} {p : Path}
    (hroot : root.part? p.segments = some (.list type elements)) :
    root.part? (p.index i).segments = some v := by
  rw [Path.segments_index, part?_append, hroot]
  simp [part?, h]

theorem at_of_part? {root w : Value} {p : Path} (h : root.part? p.segments = some w) :
    root.at_ p = w := by
  rw [at_, h, Option.getD_some]

end Value

/-! ## What maps and structs become -/

/-- What a map, or a struct of a type, becomes in a slot, if the slot takes it. -/
def TypeRef.fieldsTarget (slot : TypeRef) (schema : Schema) :
    Option QualifiedName → Option FieldsTarget
  | none => if slot.takesMaps then some .map else (slot.inferredStruct schema).map .struct
  | some type => slot.structTarget type

namespace Value

variable {schema : Schema} {slot : TypeRef} {place : Path} {v w : Value}

/-- A map and a struct are cast alike but for what they become. -/
theorem castAt_of_fields {fields : Fields} (hv : v.fields? = some fields) :
    v.castAt schema slot place =
      match slot.fieldsTarget schema v.structType? with
      | none => .error (.typeCast place slot v.typeOf)
      | some target =>
        schema.fieldTyper place (v.structType?.or target.type?) >>= fun typer ↦
          target.ofFields <$> castFields schema typer place fields := by
  cases v with
  | scalar s => cases hv
  | list type elements => cases hv
  | struct type fields =>
    cases hv
    rw [castAt, structType?, TypeRef.fieldsTarget]
    cases slot.structTarget type with
    | none => rfl
    | some target => simp [Schema.fieldTyper]
  | map fields =>
    cases hv
    rw [castAt, structType?, TypeRef.fieldsTarget]
    cases slot.takesMaps with
    | true => rfl
    | false =>
      cases slot.inferredStruct schema with
      | none => rfl
      | some type =>
        simp only [Bool.false_eq_true, if_false, Option.map_some, Option.none_or,
          FieldsTarget.type?, Schema.fieldTyper]
        cases schema.typer type place <;> rfl

theorem castAt_fields_eq_ok_iff {fields : Fields} (hv : v.fields? = some fields) :
    v.castAt schema slot place = .ok w ↔
      ∃ target typer ws, slot.fieldsTarget schema v.structType? = some target ∧
        schema.fieldTyper place (v.structType?.or target.type?) = .ok typer ∧
        castFields schema typer place fields = .ok ws ∧ target.ofFields ws = w := by
  rw [castAt_of_fields hv]
  cases slot.fieldsTarget schema v.structType? with
  | none => simp
  | some target => simp [bind_eq_ok_iff, map_eq_ok_iff]

/-- The elements of a list are cast one by one. -/
theorem castElements_eq_ok {elements ws : List Value} {i : Nat}
    (h : castElements schema slot place i elements = .ok ws) :
    ws.length = elements.length ∧ ∀ (j : Nat) (v : Value), elements[j]? = some v →
      ∃ w, ws[j]? = some w ∧ v.castAt schema slot (place.index (i + j)) = .ok w := by
  induction elements generalizing i ws with
  | nil =>
    obtain rfl : [] = ws := by simpa [castElements] using h
    exact ⟨rfl, by simp⟩
  | cons v elements ih =>
    obtain ⟨w, others, hw, hothers, rfl⟩ := castElements_cons_eq_ok_iff.1 h
    obtain ⟨hlength, hcasts⟩ := ih hothers
    refine ⟨congrArg (· + 1) hlength, fun j u hu ↦ ?_⟩
    cases j with
    | zero =>
      obtain rfl : v = u := by simpa using hu
      exact ⟨w, rfl, hw⟩
    | succ j =>
      obtain ⟨w', hw', hcast⟩ := hcasts j u (by simpa using hu)
      exact ⟨w', by simpa using hw', by rwa [Nat.add_comm j 1, ← Nat.add_assoc]⟩

theorem exists_castElements {elements : List Value} {i : Nat}
    (h : ∀ (j : Nat) (v : Value), elements[j]? = some v →
      ∃ w, v.castAt schema slot (place.index (i + j)) = .ok w) :
    ∃ ws, castElements schema slot place i elements = .ok ws := by
  induction elements generalizing i with
  | nil => exact ⟨[], by simp [castElements]⟩
  | cons v elements ih =>
    obtain ⟨w, hw⟩ := h 0 v rfl
    obtain ⟨ws, hws⟩ := ih (i := i + 1) fun j u hu ↦ by
      have hu := h (j + 1) u (by simpa using hu)
      rwa [Nat.add_comm j 1, ← Nat.add_assoc] at hu
    exact ⟨w :: ws, castElements_cons_eq_ok_iff.2 ⟨w, ws, hw, hws, rfl⟩⟩

/-- The fields of a map or struct are cast one by one, each to the type of its name. -/
theorem castFields_eq_ok {typer : FieldTyper} {fields ws : Fields}
    (h : castFields schema typer place fields = .ok ws) :
    Fields.keys ws = Fields.keys fields ∧ ∀ f ∈ fields, ∃ slot w,
      typer f.1 (place.field f.1) = .ok slot ∧
        f.2.castAt schema slot (place.field f.1) = .ok w ∧ (f.1, w) ∈ ws := by
  induction fields generalizing ws with
  | nil =>
    obtain rfl : [] = ws := by simpa [castFields] using h
    exact ⟨rfl, by simp⟩
  | cons f fields ih =>
    obtain ⟨slot, w, others, hslot, hw, hothers, rfl⟩ := castFields_cons_eq_ok_iff.1 h
    obtain ⟨hkeys, hcasts⟩ := ih hothers
    refine ⟨congrArg (f.1 :: ·) hkeys, List.forall_mem_cons.2
      ⟨⟨slot, w, hslot, hw, List.mem_cons_self⟩, fun g hg ↦ ?_⟩⟩
    obtain ⟨slot', w', hslot', hw', hmem⟩ := hcasts g hg
    exact ⟨slot', w', hslot', hw', List.mem_cons_of_mem _ hmem⟩

theorem exists_castFields {typer : FieldTyper} {fields : Fields}
    (h : ∀ f ∈ fields, ∃ slot w, typer f.1 (place.field f.1) = .ok slot ∧
      f.2.castAt schema slot (place.field f.1) = .ok w) :
    ∃ ws, castFields schema typer place fields = .ok ws := by
  induction fields with
  | nil => exact ⟨[], by simp [castFields]⟩
  | cons f fields ih =>
    obtain ⟨⟨slot, w, hslot, hw⟩, hfields⟩ := List.forall_mem_cons.1 h
    obtain ⟨ws, hws⟩ := ih hfields
    exact ⟨_, castFields_cons_eq_ok_iff.2 ⟨slot, w, ws, hslot, hw, hws, rfl⟩⟩

end Value

/-! ## Parts that are cast -/

/-- The value has a map wherever the other one has, and a struct of the type wherever the other one
has one of it. Lists are lists, and whatever stands for a scalar is not asked. -/
inductive Value.KeepsTags : Value → Value → Prop
  /-- A scalar may have become anything. -/
  | scalar (s : Scalar) (w : Value) : KeepsTags (.scalar s) w
  /-- A list, element by element. -/
  | list {type type' : ListType} {vs ws : List Value}
    (elements : ∀ (i : Nat) (v w : Value), vs[i]? = some v → ws[i]? = some w → KeepsTags v w) :
    KeepsTags (.list type vs) (.list type' ws)
  /-- A map or struct, field by field. -/
  | fields {v w : Value} {fs gs : Fields} (hv : v.fields? = some fs) (hw : w.fields? = some gs)
    (tag : w.structType? = v.structType?)
    (fields : ∀ name v w, (name, v) ∈ fs → (name, w) ∈ gs → KeepsTags v w) : KeepsTags v w

section
variable (schema : Schema) (base : Path) (result : Path → Value) (keep : Prop)

/-- The parts of a value at a path are cast to what stands at their locations, if lists are told by
their types and maps and structs by their starts alone. If tags are to be kept, maps and structs
start as they did. -/
inductive PartsCast : TypeRef → Path → Value → Prop
  /-- A scalar. -/
  | scalar {slot : TypeRef} {p : Path} {s : Scalar}
    (cast : Cast.scalar schema (.scalar s) slot (base ++ p) slot = .ok (result p)) :
    PartsCast slot p (.scalar s)
  /-- A list, the type of which may change, and its elements. -/
  | list {slot : TypeRef} {p : Path} {given type target : ListType} {elements ws : List Value}
    (taken : slot.listTarget given = some (type, target)) (cast : result p = .list type ws)
    (nonempty : elements = [] → target.allowsEmpty = true)
    (parts : ∀ (i : Nat) (v : Value), elements[i]? = some v →
      PartsCast target.element (p.index i) v) :
    PartsCast slot p (.list given elements)
  /-- A map or struct, and its fields. -/
  | fields {slot : TypeRef} {p : Path} {v : Value} {fs : Fields} {target : FieldsTarget}
    {typer : FieldTyper} (hv : v.fields? = some fs)
    (taken : slot.fieldsTarget schema v.structType? = some target)
    (typed : schema.fieldTyper (base ++ p) (v.structType?.or target.type?) = .ok typer)
    (tag : keep → target.type? = v.structType?) (slots : Identifier → TypeRef)
    (types : ∀ f ∈ fs, typer f.1 (base ++ p.field f.1) = .ok (slots f.1))
    (parts : ∀ f ∈ fs, PartsCast (slots f.1) (p.field f.1) f.2) : PartsCast slot p v

end

section
variable {schema : Schema} {base : Path} {result : Path → Value} {keep : Prop} {slot : TypeRef}
  {p place : Path} {v w : Value}

/-! ### From a cast and back -/

@[simp] theorem FieldsTarget.fields?_ofFields (target : FieldsTarget) (fields : Fields) :
    (target.ofFields fields).fields? = some fields := by
  cases target <;> rfl

@[simp] theorem FieldsTarget.structType?_ofFields (target : FieldsTarget) (fields : Fields) :
    (target.ofFields fields).structType? = target.type? := by
  cases target <;> rfl

/-- The type of a field in a map or struct at a place, or that of every value if it has none. -/
def FieldTyper.typeIn (typer : FieldTyper) (place : Path) (name : Identifier) : TypeRef :=
  (typer name (place.field name)).toOption.getD .value

theorem FieldTyper.typeIn_of_ok {typer : FieldTyper} {place : Path} {name : Identifier}
    (h : typer name (place.field name) = .ok slot) : typer.typeIn place name = slot := by
  rw [typeIn, h]
  rfl

theorem Value.KeepsTags.of_fields (h : v.KeepsTags w) {fs gs : Fields} (hv : v.fields? = some fs)
    (hw : w.fields? = some gs) :
    w.structType? = v.structType? ∧
      ∀ name u u', (name, u) ∈ fs → (name, u') ∈ gs → u.KeepsTags u' := by
  cases h with
  | scalar s => cases hv
  | list elements => cases hv
  | fields hfs hgs tag hfields =>
    obtain rfl := Option.some.inj (hv.symm.trans hfs)
    obtain rfl := Option.some.inj (hw.symm.trans hgs)
    exact ⟨tag, hfields⟩

namespace PartsCast

private theorem of_castAt_fields {root : Value} {fs : Fields} (hv : v.fields? = some fs)
    (hkeys : (Fields.keys fs).Nodup)
    (ih : ∀ f ∈ fs, ∀ {w slot p}, (keep → f.2.KeepsTags w) → root.part? p.segments = some w →
      f.2.castAt schema slot (base ++ p) = .ok w →
        PartsCast schema base root.at_ keep slot p f.2)
    (hkeep : keep → v.KeepsTags w) (hroot : root.part? p.segments = some w)
    (h : v.castAt schema slot (base ++ p) = .ok w) :
    PartsCast schema base root.at_ keep slot p v := by
  obtain ⟨target, typer, ws, htaken, htyped, hws, rfl⟩ :=
    (Value.castAt_fields_eq_ok_iff hv).1 h
  obtain ⟨hwskeys, hcasts⟩ := Value.castFields_eq_ok hws
  have hplace : ∀ name, (base ++ p).field name = base ++ p.field name :=
    fun name ↦ (Path.append_push ..).symm
  -- The parts of the result are the casts of the fields, which its keys tell apart.
  have htags := fun h ↦ (hkeep h).of_fields hv (target.fields?_ofFields ws)
  refine .fields hv htaken htyped (fun h ↦ ?_) (typer.typeIn (base ++ p)) (fun f hf ↦ ?_)
    fun f hf ↦ ?_
  · simpa using (htags h).1
  · obtain ⟨slot, -, hslot, -, -⟩ := hcasts f hf
    rw [FieldTyper.typeIn_of_ok hslot, ← hplace]
    exact hslot
  · obtain ⟨slot, w, hslot, hw, hmem⟩ := hcasts f hf
    rw [FieldTyper.typeIn_of_ok hslot]
    exact ih f hf (fun h ↦ (htags h).2 f.1 f.2 w hf hmem)
      (Value.part?_field (target.fields?_ofFields ws) (hwskeys ▸ hkeys) hmem hroot)
      (hplace f.1 ▸ hw)

/-- The parts of a value that can be cast are cast to the parts of the result. -/
theorem of_castAt {root : Value} (hv : v.WellFormed) (hkeep : keep → v.KeepsTags w)
    (hroot : root.part? p.segments = some w) (h : v.castAt schema slot (base ++ p) = .ok w) :
    PartsCast schema base root.at_ keep slot p v := by
  induction v using Value.induct generalizing w slot p with
  | scalar s =>
    rw [Value.castAt] at h
    exact .scalar (by rw [h, Value.at_of_part? hroot])
  | map fs ih | struct type fs ih =>
    rw [Value.WellFormed, Value.fieldsWellFormed_iff] at hv
    exact of_castAt_fields rfl hv.1 (fun f hf ↦ ih f hf (hv.2 f hf)) hkeep hroot h
  | list type elements ih =>
    rw [Value.WellFormed, Value.elementsWellFormed_iff] at hv
    obtain ⟨type', target, ws, htaken, hws, hnonempty, rfl⟩ := Value.castAt_list_eq_ok_iff.1 h
    obtain ⟨hlength, hcasts⟩ := Value.castElements_eq_ok hws
    refine .list htaken (Value.at_of_part? hroot) (fun hnil ↦ hnonempty ?_) fun i u hu ↦ ?_
    · rw [← List.length_eq_zero_iff, hlength, hnil, List.length_nil]
    · obtain ⟨w, hw, hcast⟩ := hcasts i u hu
      have hmem := List.mem_of_getElem? hu
      rw [Nat.zero_add] at hcast
      refine ih u hmem (hv u hmem) (fun h ↦ ?_) (Value.part?_index hw hroot)
        ((Path.append_push base p _).symm ▸ hcast)
      cases hkeep h with
      | list elements => exact elements i u w hu hw
      | fields hfs => cases hfs

/-- A value, the parts of which are cast, can be cast. -/
theorem exists_castAt (h : PartsCast schema base result keep slot p v) :
    ∃ w, v.castAt schema slot (base ++ p) = .ok w := by
  induction h with
  | scalar cast => exact ⟨_, by rw [Value.castAt, cast]⟩
  | @list slot p given type target elements ws taken cast nonempty parts ih =>
    obtain ⟨us, hus⟩ := @Value.exists_castElements schema _ (base ++ p) elements 0 fun i v hv ↦ by
      obtain ⟨w, hw⟩ := ih i v hv
      exact ⟨w, by rw [Nat.zero_add]; exact (Path.append_push base p _) ▸ hw⟩
    have hlength := (Value.castElements_eq_ok hus).1
    refine ⟨_, Value.castAt_list_eq_ok_iff.2 ⟨type, target, us, taken, hus, fun hnil ↦ ?_, rfl⟩⟩
    exact nonempty (List.length_eq_zero_iff.1 (by rw [← hlength, hnil, List.length_nil]))
  | @fields slot p v fs target typer hv taken typed tag slots types parts ih =>
    have hplace : ∀ name, base ++ p.field name = (base ++ p).field name :=
      fun name ↦ Path.append_push ..
    obtain ⟨us, hus⟩ := @Value.exists_castFields schema (base ++ p) typer fs fun f hf ↦ by
      obtain ⟨w, hw⟩ := ih f hf
      exact ⟨slots f.1, w, hplace f.1 ▸ types f hf, hplace f.1 ▸ hw⟩
    exact ⟨_, (Value.castAt_fields_eq_ok_iff hv).2 ⟨target, typer, us, taken, typed, hus, rfl⟩⟩

end PartsCast

/-! ### Arranged values -/

theorem Value.fields?_arranged (orders : QualifiedName → List Identifier) {fs : Fields}
    (hv : v.fields? = some fs) (hkeys : (Fields.keys fs).Nodup) :
    (v.arranged orders).structType? = v.structType? ∧
      ∃ out, (v.arranged orders).fields? = some out ∧
        out.Perm (fs.map fun f ↦ (f.1, f.2.arranged orders)) := by
  rw [← Value.arrangedFields_eq_map]
  cases v with
  | scalar s => cases hv
  | list type elements => cases hv
  | map fields =>
    cases hv
    exact ⟨by simp [arranged, structType?], _, by simp [arranged, fields?], .refl _⟩
  | struct type fields =>
    cases hv
    have hkeys' : (Fields.keys (arrangedFields orders fs)).Nodup :=
      keys_arrangedFields fs ▸ hkeys
    exact ⟨by simp [arranged, structType?], _, by simp only [arranged, fields?],
      Fields.arrange_perm (orders type) hkeys'⟩

namespace PartsCast

theorem fields_iff {fs : Fields} (hv : v.fields? = some fs) :
    PartsCast schema base result keep slot p v ↔
      ∃ (target : FieldsTarget) (typer : FieldTyper) (slots : Identifier → TypeRef),
      slot.fieldsTarget schema v.structType? = some target ∧
        schema.fieldTyper (base ++ p) (v.structType?.or target.type?) = .ok typer ∧
        (keep → target.type? = v.structType?) ∧ ∀ f ∈ fs,
          typer f.1 (base ++ p.field f.1) = .ok (slots f.1) ∧
            PartsCast schema base result keep (slots f.1) (p.field f.1) f.2 := by
  constructor
  · intro h
    cases h with
    | scalar => cases hv
    | list => cases hv
    | fields hfs taken typed tag slots types parts =>
      obtain rfl := Option.some.inj (hv.symm.trans hfs)
      exact ⟨_, _, slots, taken, typed, tag, fun f hf ↦ ⟨types f hf, parts f hf⟩⟩
  · rintro ⟨target, typer, slots, taken, typed, tag, hfields⟩
    exact .fields hv taken typed tag slots (fun f hf ↦ (hfields f hf).1)
      fun f hf ↦ (hfields f hf).2

theorem list_iff {given : ListType} {elements : List Value} :
    PartsCast schema base result keep slot p (.list given elements) ↔ ∃ type target ws,
      slot.listTarget given = some (type, target) ∧ result p = .list type ws ∧
        (elements = [] → target.allowsEmpty = true) ∧ ∀ (i : Nat) (v : Value),
          elements[i]? = some v →
            PartsCast schema base result keep target.element (p.index i) v := by
  constructor
  · intro h
    cases h with
    | list taken cast nonempty parts => exact ⟨_, _, _, taken, cast, nonempty, parts⟩
    | fields hfs => cases hfs
  · rintro ⟨type, target, ws, taken, cast, nonempty, parts⟩
    exact .list taken cast nonempty parts

private theorem fields_arranged_iff (orders : QualifiedName → List Identifier) {fs : Fields}
    (hv : v.fields? = some fs) (hkeys : (Fields.keys fs).Nodup)
    (ih : ∀ f ∈ fs, ∀ {slot p}, PartsCast schema base result keep slot p (f.2.arranged orders) ↔
      PartsCast schema base result keep slot p f.2) :
    PartsCast schema base result keep slot p (v.arranged orders) ↔
      PartsCast schema base result keep slot p v := by
  obtain ⟨htag, out, hout, hperm⟩ := Value.fields?_arranged orders hv hkeys
  rw [fields_iff hv, fields_iff hout, htag]
  -- What is asked of the fields is asked of each by itself.
  have hfields : ∀ motive : Identifier → Value → Prop,
      (∀ f ∈ fs, motive f.1 (f.2.arranged orders) ↔ motive f.1 f.2) →
        ((∀ f ∈ out, motive f.1 f.2) ↔ ∀ f ∈ fs, motive f.1 f.2) := by
    intro motive hmotive
    simp only [hperm.mem_iff, List.forall_mem_map]
    exact forall₂_congr hmotive
  refine exists_congr fun target ↦ exists_congr fun typer ↦ exists_congr fun slots ↦
    and_congr_right fun _ ↦ and_congr_right fun _ ↦ and_congr_right fun _ ↦ ?_
  exact hfields (fun name u ↦ typer name (base ++ p.field name) = .ok (slots name) ∧
    PartsCast schema base result keep (slots name) (p.field name) u)
    fun f hf ↦ and_congr_right fun _ ↦ ih f hf

/-- **The parts of a value are cast as those of the arranged value are.** -/
theorem arranged_iff (orders : QualifiedName → List Identifier) (hv : v.WellFormed) :
    PartsCast schema base result keep slot p (v.arranged orders) ↔
      PartsCast schema base result keep slot p v := by
  induction v using Value.induct generalizing slot p with
  | scalar s => rw [Value.arranged]
  | map fs ih | struct type fs ih =>
    rw [Value.WellFormed, Value.fieldsWellFormed_iff] at hv
    exact fields_arranged_iff orders rfl hv.1 fun f hf _ _ ↦ ih f hf (hv.2 f hf)
  | list type elements ih =>
    rw [Value.WellFormed, Value.elementsWellFormed_iff] at hv
    rw [Value.arranged, Value.arrangedElements_eq_map, list_iff, list_iff, List.map_eq_nil_iff]
    refine exists_congr fun type' ↦ exists_congr fun target ↦ exists_congr fun ws ↦
      and_congr_right fun _ ↦ and_congr_right fun _ ↦ and_congr_right fun _ ↦ ?_
    simp only [List.getElem?_map, Option.map_eq_some_iff, forall_exists_index, and_imp,
      forall_apply_eq_imp_iff₂]
    refine forall_congr' fun i ↦ forall₂_congr fun u hu ↦ ?_
    have hmem := List.mem_of_getElem? hu
    exact ih u hmem (hv u hmem)

end PartsCast

/-- **A value can be cast if and only if the arranged value can.** -/
theorem Value.exists_castAt_arranged_iff (orders : QualifiedName → List Identifier)
    (hv : v.WellFormed) :
    (∃ w, (v.arranged orders).castAt schema slot place = .ok w) ↔
      ∃ w, v.castAt schema slot place = .ok w := by
  have hcast : ∀ u : Value, u.WellFormed →
      ((∃ w, u.castAt schema slot place = .ok w) ↔
        ∃ result, PartsCast schema place result False slot .root u) := by
    intro u hu
    constructor
    · rintro ⟨w, hw⟩
      rw [← place.append_root] at hw
      exact ⟨w.at_, .of_castAt hu nofun (w.part?_nil) hw⟩
    · rintro ⟨result, h⟩
      simpa using h.exists_castAt
  rw [hcast _ hv.arranged, hcast v hv]
  exact exists_congr fun result ↦ PartsCast.arranged_iff orders hv

end

end ValueStream
