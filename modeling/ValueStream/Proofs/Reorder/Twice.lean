import ValueStream.Proofs.Pipeline.CheckerFirst
import ValueStream.Proofs.Reorder.Arranged
import ValueStream.Proofs.Value.Shuffled

/-!
# Reordering twice

A second reorder with the same orders finds nothing to do. The fields that leave the first one come
to the second one in the turns in which they left: a field that the order does not name passes
again, a field whose turn it was takes its turn again, with those behind it that had waited for it,
and the fields that waited to the end wait to the end again. They do not wait in the same order,
since the first time they were held back as they came; but the order in which they leave does not
depend on that (`Fields.rest_eq_of_perm`). Which fields are missing, and which names the order
repeats, makes no difference to any of this.

So arranged values are arranged (`Value.arranged_arranged`), and whatever stands behind two reorders
in a row is told what it would be told behind one of them (`Pipeline.reorder_twice`).
-/

namespace ValueStream

namespace Fields

variable {order : List Identifier}

/-- Fields that come in their turns leave as they come. -/
theorem arrangeFrom_of_turns (turns : List Identifier) (fields : Fields) {out : Fields}
    (hout : ∀ name ∈ keys out, name ∈ order) :
    arrangeFrom order (keys out ++ turns) [] (out ++ fields) =
      out ++ arrangeFrom order turns [] fields := by
  induction out with
  | nil => rfl
  | cons f out ih =>
    obtain ⟨name, v⟩ := f
    obtain ⟨hname, hout⟩ : name ∈ order ∧ ∀ key ∈ keys out, key ∈ order :=
      List.forall_mem_cons.1 hout
    have hready : ready [] (keys out ++ turns) = ([], keys out ++ turns, []) :=
      ready_of_blocked (by simp)
    rw [keys_cons, List.cons_append, List.cons_append, arrangeFrom_of_turn v _ hname, hready]
    simpa using ih hout

/-- What has left leaves in the same way again, from the same turns and with nothing held back. -/
theorem arrangeFrom_arrangeFrom {turns : List Identifier} {held fields : Fields}
    (hturns : ∀ name ∈ turns, name ∈ order) (h : Awaited order turns held fields) :
    arrangeFrom order turns [] (arrangeFrom order turns held fields) =
      arrangeFrom order turns held fields := by
  induction fields generalizing turns held with
  | nil =>
    have hkeys : (keys held).Nodup := by simpa using h.nodup
    have hperm : (rest held turns).Perm held := rest_perm hkeys h.held
    have hkeys' : (keys (rest held turns)).Nodup := (perm_keys hperm).nodup_iff.2 hkeys
    have hnamed : ∀ name ∈ keys (rest held turns), name ∈ order := fun name hname ↦
      hturns name ((keys_rest_sublist held turns).subset hname)
    rw [arrangeFrom, arrangeFrom_eq_rest hkeys' hnamed, List.nil_append]
    exact rest_eq_of_perm hkeys' hperm
  | cons f fields ih =>
    obtain ⟨name, v⟩ := f
    by_cases hname : name ∈ order
    · by_cases hturn : turns.head? = some name
      · obtain ⟨later, rfl⟩ := List.head?_eq_some_iff.1 hturn
        -- The turns to come are those of the fields that leave now, then those that remain.
        have hlater : ∀ key ∈ keys (ready held later).1 ++ (ready held later).2.1,
            key ∈ order := by
          rw [keys_ready]
          exact fun key hkey ↦ hturns key (List.mem_cons_of_mem _ hkey)
        have hleave : ∀ key ∈ keys ((name, v) :: (ready held later).1), key ∈ order :=
          List.forall_mem_cons.2 ⟨hname, fun key hkey ↦ hlater key (List.mem_append_left _ hkey)⟩
        have hnow := arrangeFrom_of_turns (ready held later).2.1
          (arrangeFrom order (ready held later).2.1 (ready held later).2.2 fields) hleave
        have hsoon := ih (fun key hkey ↦ hlater key (List.mem_append_right _ hkey)) h.turn.2
        rw [keys_cons, List.cons_append, keys_ready, hsoon] at hnow
        rw [arrangeFrom_of_turn v fields hname]
        exact hnow
      · rw [arrangeFrom_of_early v fields hname hturn]
        exact ih hturns (h.hold hname)
    · rw [arrangeFrom_of_notMem v fields hname, arrangeFrom_of_notMem v _ hname,
        ih hturns h.pass]

/-- Fields in the order they go stay as they are. -/
theorem arrange_arrange (order : List Identifier) {fields : Fields} (hkeys : (keys fields).Nodup) :
    arrange order (arrange order fields) = arrange order fields :=
  arrangeFrom_arrangeFrom (fun _ h ↦ h) (.new order hkeys)

end Fields

namespace Value

variable {orders : QualifiedName → List Identifier}

/-- Fields whose values are arranged stay as they are. -/
theorem arrangedFields_eq_self {fields : Fields}
    (h : ∀ f ∈ fields, f.2.arranged orders = f.2) : arrangedFields orders fields = fields := by
  rw [arrangedFields_eq_map]
  calc fields.map (fun f ↦ (f.1, f.2.arranged orders))
      = fields.map id := List.map_congr_left fun f hf ↦ Prod.ext rfl (h f hf)
    _ = fields := List.map_id fields

mutual

/-- **Arranged values are arranged.** -/
theorem arranged_arranged : ∀ {v : Value}, v.WellFormed →
    (v.arranged orders).arranged orders = v.arranged orders
  | .scalar s, _ => rfl
  | .map fields, h => by
    simp only [WellFormed] at h
    rw [arranged, arranged, arrangedFields_eq_self (arranged_of_mem_fields h.2)]
  | .list type elements, h => by
    simp only [WellFormed] at h
    rw [arranged, arranged, arrangedElements_arrangedElements h]
  | .struct type fields, h => by
    simp only [WellFormed] at h
    have hkeys : (Fields.keys (arrangedFields orders fields)).Nodup :=
      keys_arrangedFields fields ▸ h.1
    -- The values are arranged already, in whichever order the fields are.
    have hvalues : arrangedFields orders (Fields.arrange (orders type)
        (arrangedFields orders fields)) =
          Fields.arrange (orders type) (arrangedFields orders fields) :=
      arrangedFields_eq_self fun f hf ↦
        arranged_of_mem_fields h.2 f ((Fields.arrange_perm _ hkeys).mem_iff.1 hf)
    rw [arranged, arranged, hvalues, Fields.arrange_arrange _ hkeys]

theorem arrangedElements_arrangedElements : ∀ {elements : List Value},
    ElementsWellFormed elements →
      arrangedElements orders (arrangedElements orders elements) =
        arrangedElements orders elements
  | [], _ => rfl
  | v :: elements, h => by
    simp only [ElementsWellFormed] at h
    rw [arrangedElements, arrangedElements, arranged_arranged h.1,
      arrangedElements_arrangedElements h.2]

theorem arranged_of_mem_fields : ∀ {fields : List (Identifier × Value)},
    FieldsWellFormed fields → ∀ f ∈ arrangedFields orders fields, f.2.arranged orders = f.2
  | [], _ => by simp [arrangedFields]
  | (name, v) :: fields, h => by
    simp only [FieldsWellFormed] at h
    rw [arrangedFields]
    exact List.forall_mem_cons.2 ⟨arranged_arranged h.1, arranged_of_mem_fields h.2⟩

end

end Value

/-! ## Pipelines -/

namespace Pipeline

variable (orders : QualifiedName → List Identifier)

/-- A checker is set up ahead of a reorder, and none for what stands behind it. -/
theorem ofElements_reorder_cons (rest : List Element) :
    ofElements (.reorder { orders := orders } :: rest) =
      ⟨.checker { top := .value } :: .reorder { orders := orders } :: rest⟩ := by
  have hjoin := joinAll_cons ⟨[]⟩ (.reorder { orders := orders }) rest
  exact hjoin.trans (joinAll_of_hasChecker rfl rest)

/-- **A second reorder changes nothing.** Whatever stands behind two reorders with the same orders
takes the notes that it takes behind one of them, comes to the same state and stops the run with the
same fault, if it does. If nothing does, it is told the events of the arranged value. -/
theorem reorder_twice {v : Value} (h : v.WellFormed) :
    let reorder : Element := .reorder { orders := orders }
    (∀ rest : List Element,
      let once := (ofElements (reorder :: rest)).visit v
      let twice := (ofElements (reorder :: reorder :: rest)).visit v
      twice.notes = once.notes ∧ twice.fault = once.fault ∧
        twice.elements.drop 3 = once.elements.drop 2) ∧
    ∀ id, (ofElements [reorder, reorder, .observer (.note id)]).visit v =
      { elements := [.checker { top := .value, done := true }, reorder, reorder,
          .observer (.note id)]
        notes := (v.arranged orders).events.map fun e ↦ .seen id e none } := by
  intro reorder
  have hchecker := Element.passAll_checker_events h
  have hfirst := Element.passAll_reorder (@Reorder.passes_value (fun _ ↦ none) orders v h .root)
  have hsecond := Element.passAll_reorder
    (@Reorder.passes_value (fun _ ↦ none) orders (v.arranged orders) h.arranged .root)
  rw [Value.arranged_arranged h] at hsecond
  constructor
  · intro rest
    obtain ⟨c, -, hcheckerOnce⟩ := sendRow_cons_of_passes rfl hchecker (reorder :: rest)
    obtain ⟨c', -, hcheckerTwice⟩ :=
      sendRow_cons_of_passes rfl hchecker (reorder :: reorder :: rest)
    obtain ⟨r, -, honce⟩ := sendRow_cons_of_passes rfl hfirst rest
    obtain ⟨r', -, htwice⟩ := sendRow_cons_of_passes rfl hfirst (reorder :: rest)
    obtain ⟨r'', -, hagain⟩ := sendRow_cons_of_passes rfl hsecond rest
    simp only [ofElements_reorder_cons, visit_eq_sendRow, hcheckerOnce, hcheckerTwice,
      honce, htwice, hagain, reorder]
    simp
  · intro id
    rw [ofElements_reorder_cons, visit_eq_sendRow]
    refine sendRow_cons_of_passes_all rfl hchecker
      (sendRow_cons_of_passes_all rfl hfirst (sendRow_cons_of_passes_all rfl hsecond ?_))
    rw [sendRow_note, ← Value.fst_placed .root, List.map_map, List.map_map]
    rfl

/-- A name stands twice in the order, a field of the order is missing, and one that the order does
not name comes between; in the list of another field that waits a struct is reordered too. -/
theorem reorder_twice_of_repeated :
    let a : Identifier := ⟨"a", by decide⟩
    let b : Identifier := ⟨"b", by decide⟩
    let c : Identifier := ⟨"c", by decide⟩
    let x : Identifier := ⟨"x", by decide⟩
    let t : QualifiedName := ⟨"m@v1", "T", by decide, by decide⟩
    let orders : QualifiedName → List Identifier := fun _ ↦ [a, b, a, c]
    let inner : Value := .struct t [(b, .null), (a, .null)]
    let v : Value := .struct t [(c, .list .opaque_ [inner]), (x, .null), (a, .null)]
    let out : Value := .struct t [(x, .null), (a, .null),
      (c, .list .opaque_ [.struct t [(a, .null), (b, .null)]])]
    v.WellFormed ∧
      ((ofElements [.reorder { orders := orders }, .reorder { orders := orders },
        .observer (.note "n")]).visit v).notes = out.events.map fun e ↦ .seen "n" e none := by
  intro a b c x t orders inner v out
  have h : v.WellFormed := by
    simp [v, inner, Value.WellFormed, Value.FieldsWellFormed, Value.ElementsWellFormed, Value.null,
      Fields.keys, a, b, c, x]
  have harranged : v.arranged orders = out := rfl
  have hvisit := (reorder_twice orders h).2 "n"
  rw [harranged] at hvisit
  exact ⟨h, congrArg Run.notes hvisit⟩

end Pipeline

end ValueStream
