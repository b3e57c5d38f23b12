import ValueStream.Proofs.Value.Arranged

/-!
# Values that arrive in another order

Where the order that is given names all fields of a struct, it alone says in which order they leave:
how they came makes no difference (`Fields.arrange_eq_of_perm`). What shows this is that fields
taken in one by one, of which some leave early and some wait, come to the same as waiting for all of
them (`Fields.arrangeFrom_eq_rest`), and fields that have all waited leave as the order says.

A value that differs from another in nothing but the order of the fields of such structs, wherever
these stand in it, is the other one shuffled, and the two are the same value once arranged.
-/

namespace ValueStream

namespace Fields

variable {order turns : List Identifier} {held more : Fields}

/-! ## Fields that have all waited -/

/-- The field of a name is the same, and so are the others, in whichever order the fields are. -/
theorem take?_of_perm {name : Identifier} {v : Value} {held' : Fields} (hkeys : (keys held).Nodup)
    (h : held.Perm more) (htake : take? held name = some (v, held')) :
    ∃ more', take? more name = some (v, more') ∧ held'.Perm more' := by
  obtain ⟨hperm, -, -⟩ := take?_perm hkeys htake
  have hmem : (name, v) ∈ more := h.mem_iff.1 (hperm.mem_iff.2 List.mem_cons_self)
  cases htake' : take? more name with
  | none => exact absurd (List.mem_map_of_mem hmem) (take?_eq_none_iff.1 htake')
  | some taken =>
    obtain ⟨w, more'⟩ := taken
    obtain ⟨hperm', hname, -⟩ := take?_perm ((perm_keys h).nodup_iff.1 hkeys) htake'
    -- The name is no key of what remains, so that the values are those of one field.
    obtain rfl : v = w := by
      rcases List.mem_cons.1 (hperm'.mem_iff.1 hmem) with heq | hmem'
      · exact (Prod.mk.inj heq).2
      · exact absurd (List.mem_map_of_mem hmem') hname
    exact ⟨more', rfl, ((hperm.symm.trans h).trans hperm').cons_inv⟩

theorem rest_eq_of_perm (hkeys : (keys held).Nodup) (h : held.Perm more) :
    rest held turns = rest more turns := by
  induction turns generalizing held more with
  | nil => rfl
  | cons name turns ih =>
    rw [rest, rest]
    cases htake : take? held name with
    | none =>
      have hname : name ∉ keys more :=
        fun hmem ↦ take?_eq_none_iff.1 htake ((perm_keys h).mem_iff.2 hmem)
      rw [take?_eq_none_iff.2 hname]
      exact ih hkeys h
    | some taken =>
      obtain ⟨v, held'⟩ := taken
      obtain ⟨more', htake', hperm⟩ := take?_of_perm hkeys h htake
      obtain ⟨-, -, hkeys'⟩ := take?_perm hkeys htake
      rw [htake']
      exact congrArg _ (ih hkeys' hperm)

theorem rest_of_perm_cons {name : Identifier} {v : Value} (hkeys : (keys held).Nodup)
    (h : held.Perm ((name, v) :: more)) (turns : List Identifier) :
    rest held (name :: turns) = (name, v) :: rest more turns := by
  have hname : name ∉ keys more := (List.nodup_cons.1 ((perm_keys h).nodup_iff.1 hkeys)).1
  have hmore : more.filter (·.1 != name) = more := by
    refine List.filter_eq_self.2 fun f hf ↦ bne_iff_ne.2 ?_
    rintro rfl
    exact hname (List.mem_map_of_mem hf)
  have htake : take? ((name, v) :: more) name = some (v, more) := by simp [take?, hmore]
  rw [rest_eq_of_perm hkeys h, rest, htake]

/-! ## Fields that leave early -/

/-- Fields that leave before others come leave as they would with them. -/
theorem rest_append {fields : Fields} (hkeys : (keys (held ++ fields)).Nodup) :
    rest (held ++ fields) turns =
      (ready held turns).1 ++ rest ((ready held turns).2.2 ++ fields) (ready held turns).2.1 := by
  induction turns generalizing held with
  | nil => rfl
  | cons name turns ih =>
    rw [ready]
    cases htake : take? held name with
    | none => rfl
    | some taken =>
      obtain ⟨v, held'⟩ := taken
      have hheld : (keys held).Nodup := (List.nodup_append.1 (keys_append .. ▸ hkeys)).1
      have hperm : (held ++ fields).Perm ((name, v) :: (held' ++ fields)) :=
        (take?_perm hheld htake).1.append_right fields
      have hkeys' := (List.nodup_cons.1 ((perm_keys hperm).nodup_iff.1 hkeys)).2
      rw [rest_of_perm_cons hkeys hperm, ih hkeys']
      rfl

/-- If the order names all fields to come, taking them in one by one comes to waiting for all. -/
theorem arrangeFrom_eq_rest {fields : Fields} (hkeys : (keys (held ++ fields)).Nodup)
    (hfields : ∀ name ∈ keys fields, name ∈ order) :
    arrangeFrom order turns held fields = rest (held ++ fields) turns := by
  induction fields generalizing turns held with
  | nil => rw [List.append_nil, arrangeFrom]
  | cons f fields ih =>
    obtain ⟨name, v⟩ := f
    obtain ⟨hname, hfields⟩ : name ∈ order ∧ ∀ key ∈ keys fields, key ∈ order :=
      List.forall_mem_cons.1 hfields
    have hmiddle : (held ++ (name, v) :: fields).Perm ((name, v) :: (held ++ fields)) :=
      List.perm_middle
    have hkeys' := (perm_keys hmiddle).nodup_iff.1 hkeys
    by_cases hturn : turns.head? = some name
    · obtain ⟨later, rfl⟩ := List.head?_eq_some_iff.1 hturn
      have hnodup : (keys (held ++ fields)).Nodup := (List.nodup_cons.1 hkeys').2
      have hready : (held ++ fields).Perm
          ((ready held later).1 ++ ((ready held later).2.2 ++ fields)) := by
        rw [← List.append_assoc]
        exact (ready_perm (List.nodup_append.1 (keys_append .. ▸ hnodup)).1).append_right fields
      have hstill := (perm_keys hready).nodup_iff.1 hnodup
      rw [keys_append] at hstill
      rw [arrangeFrom_of_turn v fields hname, rest_of_perm_cons hkeys hmiddle, rest_append hnodup,
        ih (List.nodup_append.1 hstill).2.1 hfields]
    · rw [arrangeFrom_of_early v fields hname hturn, ih hkeys' hfields,
        rest_eq_of_perm hkeys hmiddle, List.cons_append]

/-- Fields that the order names all leave in one order, however they come. -/
theorem arrange_eq_of_perm {fields : Fields} (hkeys : (keys fields).Nodup)
    (hfields : ∀ name ∈ keys fields, name ∈ order) (h : fields.Perm more) :
    arrange order fields = arrange order more := by
  have hmore : ∀ name ∈ keys more, name ∈ order :=
    fun name hname ↦ hfields name ((perm_keys h).mem_iff.2 hname)
  rw [arrange, arrange, arrangeFrom_eq_rest (by simpa using hkeys) hfields,
    arrangeFrom_eq_rest (by simpa using (perm_keys h).nodup_iff.1 hkeys) hmore]
  exact rest_eq_of_perm (by simpa using hkeys) (by simpa using h)

end Fields

/-! ## Shuffled values -/

/-- The second value is the first with the fields of some of its structs in another order. The order
for the type of each of these structs names all of its fields, and the structs may stand anywhere in
the value. -/
inductive Value.Shuffled (orders : QualifiedName → List Identifier) : Value → Value → Prop
  /-- Nothing changes. -/
  | refl (v : Value) : Shuffled orders v v
  /-- One change comes after another. -/
  | trans {u v w : Value} (first : Shuffled orders u v) (second : Shuffled orders v w) :
    Shuffled orders u w
  /-- The fields of a struct, all of which the order names, come in another order. -/
  | fields {type : QualifiedName} {fields shuffled : Fields}
    (named : ∀ name ∈ Fields.keys fields, name ∈ orders type) (perm : fields.Perm shuffled) :
    Shuffled orders (.struct type fields) (.struct type shuffled)
  /-- An element of a list changes. -/
  | element {v w : Value} (type : ListType) (before after : List Value)
    (change : Shuffled orders v w) :
    Shuffled orders (.list type (before ++ v :: after)) (.list type (before ++ w :: after))
  /-- The value of a field of a map changes. -/
  | mapField {v w : Value} (name : Identifier) (before after : Fields)
    (change : Shuffled orders v w) :
    Shuffled orders (.map (before ++ (name, v) :: after)) (.map (before ++ (name, w) :: after))
  /-- The value of a field of a struct changes. -/
  | structField {v w : Value} (type : QualifiedName) (name : Identifier) (before after : Fields)
    (change : Shuffled orders v w) :
    Shuffled orders (.struct type (before ++ (name, v) :: after))
      (.struct type (before ++ (name, w) :: after))

namespace Value.Shuffled

variable {orders : QualifiedName → List Identifier} {v w : Value}

private theorem fieldsWellFormed_replace {name : Identifier} {before after : Fields}
    (hchange : v.WellFormed → w.WellFormed)
    (h : FieldsWellFormed (before ++ (name, v) :: after)) :
    FieldsWellFormed (before ++ (name, w) :: after) := by
  simp only [fieldsWellFormed_iff, List.forall_mem_append, List.forall_mem_cons] at h ⊢
  exact ⟨h.1, hchange h.2.1, h.2.2⟩

/-- Keys stay distinct. -/
theorem wellFormed (hvw : Shuffled orders v w) (h : v.WellFormed) : w.WellFormed := by
  induction hvw with
  | refl v => exact h
  | trans _ _ ihfirst ihsecond => exact ihsecond (ihfirst h)
  | fields named perm =>
    simp only [WellFormed, fieldsWellFormed_iff] at h ⊢
    exact ⟨(Fields.perm_keys perm).nodup_iff.1 h.1, fun f hf ↦ h.2 f (perm.mem_iff.2 hf)⟩
  | element type before after _ ih =>
    simp only [WellFormed, elementsWellFormed_iff, List.forall_mem_append,
      List.forall_mem_cons] at h ⊢
    exact ⟨h.1, ih h.2.1, h.2.2⟩
  | mapField name before after _ ih | structField type name before after _ ih =>
    rw [WellFormed] at h ⊢
    exact ⟨by simpa using h.1, fieldsWellFormed_replace ih h.2⟩

/-- **A shuffled value is the same value once arranged.** -/
theorem arranged_eq (hvw : Shuffled orders v w) (h : v.WellFormed) :
    v.arranged orders = w.arranged orders := by
  induction hvw with
  | refl v => rfl
  | trans first _ ihfirst ihsecond => exact (ihfirst h).trans (ihsecond (first.wellFormed h))
  | @fields type fields shuffled named perm =>
    rw [WellFormed] at h
    have hkeys := @keys_arrangedFields orders fields
    have hperm : (arrangedFields orders fields).Perm (arrangedFields orders shuffled) := by
      simpa only [arrangedFields_eq_map] using perm.map _
    rw [arranged, arranged,
      Fields.arrange_eq_of_perm (hkeys.symm ▸ h.1) (hkeys.symm ▸ named) hperm]
  | element type before after _ ih =>
    simp only [WellFormed, elementsWellFormed_iff, List.forall_mem_append,
      List.forall_mem_cons] at h
    simp [arranged, arrangedElements_eq_map, ih h.2.1]
  | mapField name before after _ ih | structField type name before after _ ih =>
    simp only [WellFormed, fieldsWellFormed_iff, List.forall_mem_append,
      List.forall_mem_cons] at h
    simp [arranged, arrangedFields_eq_map, ih h.2.2.1]

end Value.Shuffled

end ValueStream
