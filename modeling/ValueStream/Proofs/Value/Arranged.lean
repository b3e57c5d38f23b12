import ValueStream.Value.Arranged

/-!
# What becomes of the fields of a struct

Fields that are arranged are the same fields, and the order that is given governs only those that it
names: these leave as a part of the order, and the others as they came. The names whose turn is to
come lose one at the front for each field that leaves (`keys_ready`), which makes the order of the
fields plain; that no field is lost rests on the turn of a field that is still to leave being still
to come.
-/

namespace ValueStream

namespace Fields

variable {order turns : List Identifier} {held : Fields}

theorem perm_keys {fields : Fields} (h : held.Perm fields) : (keys held).Perm (keys fields) :=
  h.map _

/-! ## Fields that are held back -/

theorem take?_eq_none_iff {name : Identifier} : take? held name = none ↔ name ∉ keys held := by
  simp only [take?, Option.map_eq_none_iff, List.lookup_eq_none_iff, keys, List.mem_map, not_exists,
    not_and, bne_iff_ne, ne_eq]
  exact ⟨fun h f hf heq ↦ h f hf heq.symm, fun h f hf heq ↦ h f hf heq.symm⟩

theorem take?_eq_some {name : Identifier} {v : Value} {held' : Fields} (hkeys : (keys held).Nodup)
    (h : take? held name = some (v, held')) :
    ∃ before after, held = before ++ (name, v) :: after ∧ held' = before ++ after := by
  obtain ⟨w, hw, hpair⟩ := Option.map_eq_some_iff.1 h
  obtain ⟨rfl, rfl⟩ := Prod.mk.inj hpair
  obtain ⟨before, after, rfl, -⟩ := List.lookup_eq_some_iff.1 hw
  refine ⟨before, after, rfl, ?_⟩
  simp only [keys_append, keys_cons, List.nodup_append, List.nodup_cons] at hkeys
  obtain ⟨-, ⟨hafter, -⟩, hbefore⟩ := hkeys
  have hne : ∀ f ∈ before ++ after, (f.1 != name) = true := by
    intro f hf
    rw [bne_iff_ne]
    rintro rfl
    rcases List.mem_append.1 hf with hf | hf
    · exact hbefore _ (List.mem_map_of_mem hf) _ List.mem_cons_self rfl
    · exact hafter (List.mem_map_of_mem hf)
  rw [← List.filter_eq_self.2 hne]
  simp

theorem take?_perm {name : Identifier} {v : Value} {held' : Fields} (hkeys : (keys held).Nodup)
    (h : take? held name = some (v, held')) :
    held.Perm ((name, v) :: held') ∧ name ∉ keys held' ∧ (keys held').Nodup := by
  obtain ⟨before, after, rfl, rfl⟩ := take?_eq_some hkeys h
  have hperm : (before ++ (name, v) :: after).Perm ((name, v) :: (before ++ after)) :=
    List.perm_middle
  exact ⟨hperm, List.nodup_cons.1 ((perm_keys hperm).nodup_iff.1 hkeys)⟩

/-- What leaves takes its turns. -/
theorem keys_ready (held : Fields) (turns : List Identifier) :
    keys (ready held turns).1 ++ (ready held turns).2.1 = turns := by
  induction turns generalizing held with
  | nil => rfl
  | cons name turns ih =>
    rw [ready]
    cases take? held name with
    | none => rfl
    | some taken => simp [ih]

theorem ready_perm (hkeys : (keys held).Nodup) :
    held.Perm ((ready held turns).1 ++ (ready held turns).2.2) := by
  induction turns generalizing held with
  | nil => exact .refl _
  | cons name turns ih =>
    rw [ready]
    cases htake : take? held name with
    | none => exact .refl _
    | some taken =>
      obtain ⟨v, held'⟩ := taken
      obtain ⟨hperm, -, hkeys'⟩ := take?_perm hkeys htake
      exact hperm.trans ((ih hkeys').cons _)

/-- What leaves and what stays are among the fields held back. -/
theorem keys_ready_subset (held : Fields) (turns : List Identifier) :
    keys (ready held turns).1 ++ keys (ready held turns).2.2 ⊆ keys held := by
  induction turns generalizing held with
  | nil => exact List.Subset.refl _
  | cons name turns ih =>
    rw [ready]
    cases htake : take? held name with
    | none => exact List.Subset.refl _
    | some taken =>
      have hname : name ∈ keys held := by
        rw [← Decidable.not_not (p := name ∈ keys held), ← take?_eq_none_iff, htake]
        simp
      obtain ⟨v, -, hpair⟩ := Option.map_eq_some_iff.1 htake
      have hfilter : taken.2.Sublist held := by
        rw [← hpair]
        exact List.filter_sublist
      exact List.cons_subset.2
        ⟨hname, List.Subset.trans (ih taken.2) (hfilter.map Prod.fst).subset⟩

/-- A field that is still to leave keeps its turn. -/
theorem mem_turns_ready {fields : Fields}
    (hkeys : (keys ((ready held turns).1 ++ fields)).Nodup) {key : Identifier}
    (hkey : key ∈ keys fields) (hturn : key ∈ turns) : key ∈ (ready held turns).2.1 := by
  rw [keys_append] at hkeys
  have hout : key ∉ keys (ready held turns).1 := fun hmem ↦
    (List.nodup_append.1 hkeys).2.2 key hmem key hkey rfl
  rw [← keys_ready held turns] at hturn
  exact (List.mem_append.1 hturn).resolve_left hout

/-- The field whose turn it is then is not held back. -/
theorem ready_blocked (held : Fields) (turns : List Identifier) :
    ∀ turn ∈ (ready held turns).2.1.head?, turn ∉ keys (ready held turns).2.2 := by
  induction turns generalizing held with
  | nil => simp [ready]
  | cons name turns ih =>
    rw [ready]
    cases htake : take? held name with
    | none => simpa using take?_eq_none_iff.1 htake
    | some taken => exact ih _

theorem ready_of_blocked (h : ∀ turn ∈ turns.head?, turn ∉ keys held) :
    ready held turns = ([], turns, held) := by
  cases turns with
  | nil => rfl
  | cons turn later => rw [ready, take?_eq_none_iff.2 (h turn rfl)]

theorem keys_rest_sublist (held : Fields) (turns : List Identifier) :
    (keys (rest held turns)).Sublist turns := by
  induction turns generalizing held with
  | nil => exact .refl _
  | cons name turns ih =>
    rw [rest]
    cases take? held name with
    | none => exact (ih held).cons name
    | some taken => exact (ih taken.2).cons_cons name

theorem rest_perm (hkeys : (keys held).Nodup) (hturns : ∀ name ∈ keys held, name ∈ turns) :
    (rest held turns).Perm held := by
  induction turns generalizing held with
  | nil =>
    obtain rfl : held = [] :=
      List.eq_nil_iff_forall_not_mem.2 fun f hf ↦ nomatch hturns f.1 (List.mem_map_of_mem hf)
    exact .refl _
  | cons name turns ih =>
    rw [rest]
    cases htake : take? held name with
    | none =>
      have hname := take?_eq_none_iff.1 htake
      exact ih hkeys fun key hkey ↦
        (List.mem_cons.1 (hturns key hkey)).resolve_left fun heq ↦ hname (heq ▸ hkey)
    | some taken =>
      obtain ⟨v, held'⟩ := taken
      obtain ⟨hperm, hname, hkeys'⟩ := take?_perm hkeys htake
      have hturns' : ∀ key ∈ keys held', key ∈ turns := by
        intro key hkey
        have hmem : key ∈ keys held :=
          (perm_keys hperm).mem_iff.2 (List.mem_cons_of_mem _ hkey)
        exact (List.mem_cons.1 (hturns key hmem)).resolve_left fun heq ↦ hname (heq ▸ hkey)
      exact ((ih hkeys' hturns').cons _).trans hperm.symm

/-! ## One more field -/

section
variable {name : Identifier} (v : Value) (fields : Fields)

theorem arrangeFrom_of_notMem (hname : name ∉ order) (turns : List Identifier) (held : Fields) :
    arrangeFrom order turns held ((name, v) :: fields) =
      (name, v) :: arrangeFrom order turns held fields := by
  simp [arrangeFrom, hname]

theorem arrangeFrom_of_turn (hname : name ∈ order) (later : List Identifier) (held : Fields) :
    arrangeFrom order (name :: later) held ((name, v) :: fields) =
      (name, v) :: ((ready held later).1 ++
        arrangeFrom order (ready held later).2.1 (ready held later).2.2 fields) := by
  simp [arrangeFrom, hname]

theorem arrangeFrom_of_early (hname : name ∈ order) (hturn : turns.head? ≠ some name)
    (held : Fields) :
    arrangeFrom order turns held ((name, v) :: fields) =
      arrangeFrom order turns ((name, v) :: held) fields := by
  cases turns with
  | nil => simp [arrangeFrom, hname]
  | cons turn later =>
    have hne : turn ≠ name := by simpa using hturn
    simp [arrangeFrom, hname, hne]

end

/-! ## Fields that leave -/

/-- The fields that the order names leave as a part of it. -/
theorem keys_arrangeFrom_sublist (order turns : List Identifier) (held fields : Fields) :
    ((keys (arrangeFrom order turns held fields)).filter (· ∈ order)).Sublist turns := by
  induction fields generalizing turns held with
  | nil => exact List.filter_sublist.trans (keys_rest_sublist held turns)
  | cons f fields ih =>
    obtain ⟨name, v⟩ := f
    by_cases hname : name ∈ order
    · by_cases hturn : turns.head? = some name
      · obtain ⟨later, rfl⟩ := List.head?_eq_some_iff.1 hturn
        -- Those that leave now take their turns, and the later ones those that remain.
        have hready : ((keys (ready held later).1).filter (· ∈ order)).Sublist
            (keys (ready held later).1) := List.filter_sublist
        have hlater := hready.append (ih (ready held later).2.1 (ready held later).2.2)
        rw [keys_ready] at hlater
        simpa [arrangeFrom_of_turn v fields hname, hname] using hlater
      · rw [arrangeFrom_of_early v fields hname hturn]
        exact ih turns _
    · simpa [arrangeFrom_of_notMem v fields hname, hname] using ih turns held

private theorem filter_eq_nil (h : ∀ name ∈ keys held, name ∈ order) :
    held.filter (·.1 ∉ order) = [] := by
  refine List.filter_eq_nil_iff.2 fun f hf ↦ ?_
  simpa using h f.1 (List.mem_map_of_mem hf)

/-- The fields that the order does not name leave as they came. -/
theorem filter_arrangeFrom (hturns : ∀ name ∈ turns, name ∈ order)
    (hheld : ∀ name ∈ keys held, name ∈ order) (fields : Fields) :
    (arrangeFrom order turns held fields).filter (·.1 ∉ order) =
      fields.filter (·.1 ∉ order) := by
  induction fields generalizing turns held with
  | nil =>
    exact filter_eq_nil fun name hname ↦ hturns name ((keys_rest_sublist held turns).subset hname)
  | cons f fields ih =>
    obtain ⟨name, v⟩ := f
    by_cases hname : name ∈ order
    · by_cases hturn : turns.head? = some name
      · obtain ⟨later, rfl⟩ := List.head?_eq_some_iff.1 hturn
        have hlater : ∀ turn ∈ keys (ready held later).1 ++ (ready held later).2.1,
            turn ∈ order := by
          rw [keys_ready]
          exact fun turn hmem ↦ hturns turn (List.mem_cons_of_mem _ hmem)
        have hout := filter_eq_nil fun turn hmem ↦ hlater turn (List.mem_append_left _ hmem)
        have hrest := ih (fun turn hmem ↦ hlater turn (List.mem_append_right _ hmem))
          fun key hkey ↦ hheld key (keys_ready_subset held later (List.mem_append_right _ hkey))
        rw [arrangeFrom_of_turn v fields hname]
        simp only [List.filter_cons, List.filter_append, hout, hrest]
        simp [hname]
      · rw [arrangeFrom_of_early v fields hname hturn, ih hturns (by simpa using ⟨hname, hheld⟩)]
        simp [hname]
    · rw [arrangeFrom_of_notMem v fields hname]
      rw [List.filter_cons, List.filter_cons, ih hturns hheld]

/-- No field is lost yet: keys are distinct among the fields held back and those to come, and the
turn of each that the order names is still to come. -/
structure Awaited (order turns : List Identifier) (held fields : Fields) : Prop where
  /-- The keys are distinct. -/
  nodup : (keys (held ++ fields)).Nodup
  /-- What is held back has its turn still to come. -/
  held : ∀ name ∈ keys held, name ∈ turns
  /-- So has what is to come, if it is named. -/
  fields : ∀ name ∈ keys fields, name ∈ order → name ∈ turns

namespace Awaited

variable {name : Identifier} {v : Value} {fields : Fields}

theorem new (order : List Identifier) (hkeys : (keys fields).Nodup) :
    Awaited order order [] fields :=
  ⟨hkeys, by simp, fun _ _ h ↦ h⟩

private theorem nodup_cons (h : Awaited order turns held ((name, v) :: fields)) :
    name ∉ keys (held ++ fields) ∧ (keys (held ++ fields)).Nodup := by
  have hmiddle : (held ++ (name, v) :: fields).Perm ((name, v) :: (held ++ fields)) :=
    List.perm_middle
  exact List.nodup_cons.1 ((perm_keys hmiddle).nodup_iff.1 h.nodup)

/-- A field passes that the order does not name. -/
theorem pass (h : Awaited order turns held ((name, v) :: fields)) :
    Awaited order turns held fields :=
  ⟨h.nodup_cons.2, h.held, fun key hkey ↦ h.fields key (List.mem_cons_of_mem _ hkey)⟩

/-- A field comes early. -/
theorem hold (h : Awaited order turns held ((name, v) :: fields)) (hname : name ∈ order) :
    Awaited order turns ((name, v) :: held) fields := by
  refine ⟨List.nodup_cons.2 h.nodup_cons, ?_, h.pass.fields⟩
  simpa using ⟨h.fields name List.mem_cons_self hname, h.held⟩

/-- A field takes its turn, and those leave with it that have waited for it. -/
theorem turn {later : List Identifier}
    (h : Awaited order (name :: later) held ((name, v) :: fields)) :
    (held ++ fields).Perm ((ready held later).1 ++ ((ready held later).2.2 ++ fields)) ∧
      Awaited order (ready held later).2.1 (ready held later).2.2 fields := by
  obtain ⟨hfresh, hnodup⟩ := h.nodup_cons
  have hready : (held ++ fields).Perm
      ((ready held later).1 ++ ((ready held later).2.2 ++ fields)) := by
    rw [← List.append_assoc]
    exact (ready_perm (List.nodup_append.1 (keys_append .. ▸ hnodup)).1).append_right fields
  -- The fields that leave now, those held back and those to come share no key.
  have hdisjoint := (perm_keys hready).nodup_iff.1 hnodup
  have hlater : ∀ key ∈ keys ((ready held later).2.2 ++ fields), key ∈ name :: later →
      key ∈ (ready held later).2.1 := by
    intro key hkey hmem
    have hkey' : key ∈ keys (held ++ fields) :=
      (perm_keys hready).mem_iff.2 (keys_append .. ▸ List.mem_append_right _ hkey)
    have hne : key ≠ name := fun heq ↦ hfresh (heq ▸ hkey')
    exact mem_turns_ready hdisjoint hkey ((List.mem_cons.1 hmem).resolve_left hne)
  rw [keys_append] at hdisjoint
  refine ⟨hready, (List.nodup_append.1 hdisjoint).2.1, fun key hkey ↦ ?_, fun key hkey horder ↦ ?_⟩
  · exact hlater key (by simp [hkey])
      (h.held key (keys_ready_subset held later (List.mem_append_right _ hkey)))
  · exact hlater key (by simp [hkey]) (h.fields key (List.mem_cons_of_mem _ hkey) horder)

end Awaited

/-- No field is lost while its turn is still to come. -/
theorem arrangeFrom_perm {fields : Fields} (h : Awaited order turns held fields) :
    (arrangeFrom order turns held fields).Perm (held ++ fields) := by
  induction fields generalizing turns held with
  | nil =>
    rw [List.append_nil]
    exact rest_perm (by simpa using h.nodup) h.held
  | cons f fields ih =>
    obtain ⟨name, v⟩ := f
    have hmiddle : (held ++ (name, v) :: fields).Perm ((name, v) :: (held ++ fields)) :=
      List.perm_middle
    by_cases hname : name ∈ order
    · by_cases hturn : turns.head? = some name
      · obtain ⟨later, rfl⟩ := List.head?_eq_some_iff.1 hturn
        obtain ⟨hready, hlater⟩ := h.turn
        rw [arrangeFrom_of_turn v fields hname]
        exact ((((ih hlater).append_left _).trans hready.symm).cons (name, v)).trans hmiddle.symm
      · rw [arrangeFrom_of_early v fields hname hturn]
        exact (ih (h.hold hname)).trans hmiddle.symm
    · rw [arrangeFrom_of_notMem v fields hname]
      exact ((ih h.pass).cons (name, v)).trans hmiddle.symm

/-! ## Fields in order -/

/-- No field is lost or doubled. -/
theorem arrange_perm (order : List Identifier) {fields : Fields} (hkeys : (keys fields).Nodup) :
    (arrange order fields).Perm fields :=
  arrangeFrom_perm (.new order hkeys)

theorem keys_arrange_sublist (order : List Identifier) (fields : Fields) :
    ((keys (arrange order fields)).filter (· ∈ order)).Sublist order :=
  keys_arrangeFrom_sublist order order [] fields

theorem filter_arrange (order : List Identifier) (fields : Fields) :
    (arrange order fields).filter (·.1 ∉ order) = fields.filter (·.1 ∉ order) :=
  filter_arrangeFrom (fun _ h ↦ h) (by simp) fields

end Fields

/-! ## Arranged values are well formed -/

namespace Value

variable {orders : QualifiedName → List Identifier}

theorem keys_arrangedFields (fields : Fields) :
    Fields.keys (arrangedFields orders fields) = Fields.keys fields := by
  simp [arrangedFields_eq_map, Fields.keys, Function.comp_def]

mutual

theorem WellFormed.arranged : ∀ {v : Value}, v.WellFormed → (v.arranged orders).WellFormed
  | .scalar s, h => h
  | .map fields, h => by
    simp only [WellFormed, Value.arranged] at h ⊢
    exact ⟨keys_arrangedFields fields ▸ h.1, FieldsWellFormed.arranged h.2⟩
  | .list type elements, h => by
    simp only [WellFormed, Value.arranged] at h ⊢
    exact ElementsWellFormed.arranged h
  | .struct type fields, h => by
    simp only [WellFormed, Value.arranged] at h ⊢
    -- The order changes, and neither the keys nor the values do.
    have hkeys : (Fields.keys (arrangedFields orders fields)).Nodup :=
      keys_arrangedFields fields ▸ h.1
    have hperm := Fields.arrange_perm (orders type) hkeys
    refine ⟨(Fields.perm_keys hperm).nodup_iff.2 hkeys, fieldsWellFormed_iff.2 fun f hf ↦ ?_⟩
    exact fieldsWellFormed_iff.1 (FieldsWellFormed.arranged h.2) f (hperm.mem_iff.1 hf)

theorem ElementsWellFormed.arranged : ∀ {elements : List Value}, ElementsWellFormed elements →
    ElementsWellFormed (arrangedElements orders elements)
  | [], h => h
  | v :: elements, h => by
    simp only [ElementsWellFormed, arrangedElements] at h ⊢
    exact ⟨WellFormed.arranged h.1, ElementsWellFormed.arranged h.2⟩

theorem FieldsWellFormed.arranged : ∀ {fields : List (Identifier × Value)},
    FieldsWellFormed fields → FieldsWellFormed (arrangedFields orders fields)
  | [], h => h
  | (name, v) :: fields, h => by
    simp only [FieldsWellFormed, arrangedFields] at h ⊢
    exact ⟨WellFormed.arranged h.1, FieldsWellFormed.arranged h.2⟩

end

end Value

end ValueStream
