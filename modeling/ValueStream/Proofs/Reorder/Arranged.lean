import ValueStream.Pipeline.Blueprint
import ValueStream.Proofs.Checker.Passage
import ValueStream.Proofs.Reorder.Struct

/-!
# A reorder hands on arranged values

What comes out of a reorder for the events of a value are the events of the arranged value, sent to
where the reorder sends: behind it, or to the field that a struct further out holds back. Then the
value of a field of the innermost struct is complete, if no part is open in the field (`arranges`,
by recursion on the value). The fields of a struct are taken in with the names whose turn is to
come and the fields held back as in `Fields.arrangeFrom`, which gives what remains to be sent from
there on (`passes_structFields`).

What is sent depends on the frames further out only in where it goes, so that all of this is stated
for arbitrary frames; a part that is open in a field shows as one more level of depth and in nothing
else. The recursion is on the value that comes. The fields that leave are in another order, and no
recursion on the arranged value would fit.
-/

namespace ValueStream

namespace Reorder

/-! ## Passages -/

/-- The events pass the reorder, which goes over to another state and hands on others. -/
def Passes (r : Reorder) (xs : List (Event × Path)) (r' : Reorder) (out : List (Event × Path)) :
    Prop :=
  passAll (fun r ahead e ↦ r.step (ahead.getD .root) e) r (xs.map fun x ↦ (x.1, some x.2)) =
    { handed := out.map fun x ↦ (x.1, some x.2), state := r' }

namespace Passes

variable {r r' r'' : Reorder} {xs ys out out' : List (Event × Path)}

theorem nil (r : Reorder) : Passes r [] r [] := rfl

theorem single {x : Event × Path} (h : (r.step x.2 x.1).Yields r' out) : Passes r [x] r' out := by
  have hcons := @passAll_cons _ (fun r ahead e ↦ Reorder.step r (Option.getD ahead .root) e) r
    (some x.2) x.1 h.fault []
  rw [Passes, List.map_singleton, hcons]
  simp [h.state, h.handed, Passage.behind]

theorem append (h : Passes r xs r' out) (h' : Passes r' ys r'' out') :
    Passes r (xs ++ ys) r'' (out ++ out') := by
  rw [Passes, List.map_append, passAll_append h, h']
  simp [Passage.behind]

theorem cons {x : Event × Path} (h : (r.step x.2 x.1).Yields r' out)
    (h' : Passes r' ys r'' out') : Passes r (x :: ys) r'' (out ++ out') :=
  (single h).append h'

end Passes

/-! ## Parts of a field in progress -/

variable {stamp : Path → Option Path} {r r' : Reorder} {out : List (Event × Path)}

/-- A map or list, the parts of which pass on their own. -/
theorem passes_part (hr : InField r.frames) {start : Event}
    (hstart : start.kind = .mapStart ∨ ∃ type, start.kind = .listStart type) {p : Path}
    {stamped : Option Path} {xs ys : List (Event × Path)}
    (hparts : ∀ frames, InField frames → Passes { r with frames := deepen frames } xs
      { r with frames := deepen (sendAll frames ys).1 } (sendAll frames ys).2)
    (hdone : (complete { r with
      frames := (sendAll r.frames ((start, p) :: (ys ++ [(⟨.close, stamped⟩, p)]))).1 }
      (.value .null)).Yields r' out) :
    Passes r ((start, p) :: (xs ++ [(⟨.close, stamped⟩, p)])) r'
      ((sendAll r.frames ((start, p) :: (ys ++ [(⟨.close, stamped⟩, p)]))).2 ++ out) := by
  have hnow := step_inField hr (fun type h ↦ by simp [h] at hstart) (fun h ↦ by simp [h] at hstart)
    (complete_start { r with frames := (send r.frames p start).1 } hstart)
  rw [List.append_nil] at hnow
  have hinner := hparts _ (hr.send p start)
  simp only [sendAll_cons, sendAll_append, sendAll_nil] at hdone ⊢
  have hclose := step_close_deepen ((hr.send p start).sendAll ys) hdone
  simpa using Passes.cons hnow (hinner.append (.single hclose))

/-- While a field is in progress the events of the value come to those of the arranged value, and
then a value of the field is complete. -/
def Arranges (stamp : Path → Option Path) (v : Value) : Prop :=
  ∀ (r r' : Reorder) (out : List (Event × Path)) (p : Path), InField r.frames →
    (complete { r with frames := (sendAll r.frames ((v.arranged r.orders).placed stamp p)).1 }
      (.value .null)).Yields r' out →
    Passes r (v.placed stamp p) r'
      ((sendAll r.frames ((v.arranged r.orders).placed stamp p)).2 ++ out)

/-- A value inside a part that is open in a field leaves the field in progress. -/
theorem Arranges.inside {v : Value} (h : Arranges stamp v) (r : Reorder) (p : Path)
    {frames : List OpenStruct} (hframes : InField frames) :
    Passes { r with frames := deepen frames } (v.placed stamp p)
      { r with frames := deepen (sendAll frames ((v.arranged r.orders).placed stamp p)).1 }
      (sendAll frames ((v.arranged r.orders).placed stamp p)).2 := by
  have hdone := complete_value_deepen r
    (sendAll frames ((v.arranged r.orders).placed stamp p)).1 .null
  have hv := h { r with frames := deepen frames } _ [] p hframes.deepen
    (by rw [sendAll_deepen]; exact hdone)
  rwa [sendAll_deepen, List.append_nil] at hv

/-! ## One field of a struct -/

section
variable {v : Value} {g : OpenStruct} {turns : List Identifier} {held : Fields} {name : Identifier}

/-- A field that is not held back passes, and after it those that leave with it. -/
theorem Arranges.passingField (hv : Arranges stamp v) (r : Reorder) {g' after : OpenStruct}
    (hcurrent : g.current = none)
    (hstart : g.startField (g.base.field name) name = (g', none)) (hholding : g'.holding = none)
    (hname : g'.current = some name) {out : Fields}
    (hdone : ∀ outer, (complete { r with frames := g' :: outer } (.value .null)).Yields
      { r with frames := after :: (sendAll outer (Value.placedFields stamp g.base out)).1 }
      (sendAll outer (Value.placedFields stamp g.base out)).2)
    (frames : List OpenStruct) :
    Passes { r with frames := g :: deepen frames } (Value.placedFields stamp g.base [(name, v)])
      { r with frames := after :: deepen (sendAll frames
        (Value.placedFields stamp g.base ((name, v.arranged r.orders) :: out))).1 }
      (sendAll frames
        (Value.placedFields stamp g.base ((name, v.arranged r.orders) :: out))).2 := by
  have hnow := step_fieldStart (r := r) hcurrent hstart (deepen frames) (stamp (g.base.field name))
  rw [send_of_holding_none hholding, send_deepen] at hnow
  have hvalue := fun outer r' out ↦ hv ⟨r.orders, g' :: deepen outer⟩ r' out (g.base.field name)
    (inField_cons.2 (by simp [hname]))
  simp only [sendAll_of_holding_none hholding, sendAll_deepen] at hvalue
  have hpasses := Passes.cons (x := (⟨.fieldStart name, stamp (g.base.field name)⟩,
    g.base.field name)) hnow (hvalue _ _ _ (hdone _))
  simp only [Value.placedFields_cons, sendAll_cons, sendAll_append, sendAll_deepen] at hpasses ⊢
  simpa using hpasses

/-- A field that comes early is held back, and nothing leaves. -/
theorem Arranges.earlyField (hv : Arranges stamp v) (r : Reorder) (hg : g.Tracks stamp turns held)
    (hstart : g.startField (g.base.field name) name =
      ({ g with current := some name, holding := some [] }, none))
    (hturn : turns.head? ≠ some name) (frames : List OpenStruct) :
    Passes { r with frames := g :: frames } (Value.placedFields stamp g.base [(name, v)])
      { r with frames := { g with
        held := (name, (Value.placedFields stamp g.base
          [(name, v.arranged r.orders)]).map Prod.fst) :: g.held } :: frames } [] := by
  have hnow := step_fieldStart (r := r) hg.idle.2.1 hstart frames (stamp (g.base.field name))
  -- From the start of the field on the frame keeps what is sent, and no frame further out sees it.
  have hkeep := fun events ↦
    sendAll_of_holding (f := { g with current := some name, holding := some events }) rfl frames
  rw [← sendAll_singleton _ (_, g.base.field name), hkeep] at hnow
  have hvalue := fun events r' out ↦
    hv ⟨r.orders, { g with current := some name, holding := some events } :: frames⟩ r' out
      (g.base.field name) (inField_cons.2 rfl)
  simp only [hkeep] at hvalue
  have hpasses := Passes.cons (x := (⟨.fieldStart name, stamp (g.base.field name)⟩,
    g.base.field name)) hnow (hvalue _ _ _ (complete_of_early .null frames hg hturn _))
  simpa using hpasses

/-- What a struct does with a field is what is done with the field when fields are arranged. -/
theorem Arranges.structField (hv : Arranges stamp v) (r : Reorder)
    (hg : g.Tracks stamp turns held) (hforwarded : name ∉ g.forwarded)
    (hheld : name ∉ Fields.keys held) :
    ∃ g' turns' held' now, g'.Tracks stamp turns' held' ∧ g'.order = g.order ∧ g'.base = g.base ∧
      (g'.forwarded ++ Fields.keys held' ⊆ name :: (g.forwarded ++ Fields.keys held)) ∧
      (∀ fields, Fields.arrangeFrom g.order turns held ((name, v.arranged r.orders) :: fields) =
        now ++ Fields.arrangeFrom g.order turns' held' fields) ∧
      ∀ frames, Passes { r with frames := g :: deepen frames }
        (Value.placedFields stamp g.base [(name, v)])
        { r with
          frames := g' :: deepen (sendAll frames (Value.placedFields stamp g.base now)).1 }
        (sendAll frames (Value.placedFields stamp g.base now)).2 := by
  by_cases horder : name ∈ g.order
  · by_cases hturn : turns.head? = some name
    · obtain ⟨later, rfl⟩ := List.head?_eq_some_iff.1 hturn
      refine ⟨_, _, _, (name, v.arranged r.orders) :: (Fields.ready held later).1,
        hg.leave (v.arranged r.orders), rfl, rfl, ?_,
        fun fields ↦ Fields.arrangeFrom_of_turn _ fields horder later held, ?_⟩
      · have hkeys := Fields.keys_ready_subset held later
        intro key hkey
        have hmem : key ∈ g.forwarded ∨ key = name ∨
            key ∈ Fields.keys (Fields.ready held later).1 ++
              Fields.keys (Fields.ready held later).2.2 := by
          simpa [OpenStruct.advance, or_assoc] using hkey
        rcases hmem with hmem | rfl | hmem
        · simp [hmem]
        · simp
        · simp [hkeys hmem]
      · -- What has waited for this field leaves when it is complete.
        refine hv.passingField r hg.idle.2.1
          (hg.startField_of_turn horder hforwarded hheld _) hg.idle.1 rfl fun outer ↦ ?_
        rw [complete_value _ _ (v.arranged r.orders)]
        exact complete_of_turn _ outer hg
    · refine ⟨_, turns, _, [], hg.hold hturn (v.arranged r.orders), rfl, rfl, ?_,
        fun fields ↦ Fields.arrangeFrom_of_early _ fields horder hturn held, fun frames ↦ ?_⟩
      · intro key hkey
        simpa [or_left_comm] using hkey
      · simpa using hv.earlyField r hg (hg.startField_of_early horder hturn hforwarded hheld _)
          hturn (deepen frames)
  · refine ⟨g, turns, held, [(name, v.arranged r.orders)], hg, rfl, rfl,
      List.subset_cons_self _ _, fun fields ↦ Fields.arrangeFrom_of_notMem _ fields horder _ _, ?_⟩
    refine hv.passingField r hg.idle.2.1 (hg.startField_of_notMem horder _) hg.idle.1 rfl
      fun outer ↦ ?_
    simpa using complete_of_notMem .null outer hg horder

end

mutual

/-- **A reorder arranges values.** -/
theorem arranges : ∀ {v : Value}, v.WellFormed → Arranges stamp v
  | .scalar s, _ => by
    intro r r' out p hr hdone
    simp only [Value.arranged, Value.placed_scalar, sendAll_singleton] at hdone ⊢
    rw [complete_value _ _ (.scalar s)] at hdone
    exact .single (step_inField hr (by simp) (by simp) hdone)
  | .map fields, h => by
    intro r r' out p hr hdone
    simp only [Value.WellFormed] at h
    simp only [Value.arranged, Value.placed_map] at hdone ⊢
    exact passes_part hr (.inl rfl) (passes_mapFields r p h.2) hdone
  | .list type elements, h => by
    intro r r' out p hr hdone
    simp only [Value.WellFormed] at h
    simp only [Value.arranged, Value.placed_list] at hdone ⊢
    exact passes_part hr (.inr ⟨type, rfl⟩) (passes_placedElements r p 0 h) hdone
  | .struct type fields, h => by
    intro r r' out p hr hdone
    simp only [Value.WellFormed] at h
    simp only [Value.arranged, Value.placed_struct] at hdone ⊢
    rw [sendAll_cons] at hdone ⊢
    -- The start is sent from outside the struct, whose frame has all turns to come.
    have hstart := step_structStart r p type (stamp p)
    have hfields := passes_structFields (stamp p) h.1 h.2
      (OpenStruct.tracks_new (r.orders type) p) (by simp) _ hdone
    simpa [Fields.arrange] using Passes.cons hstart hfields

theorem passes_placedElements (r : Reorder) (p : Path) (i : Nat) : ∀ {elements : List Value},
    Value.ElementsWellFormed elements → ∀ frames, InField frames →
      Passes { r with frames := deepen frames } (Value.placedElements stamp p i elements)
        { r with frames := deepen (sendAll frames
          (Value.placedElements stamp p i (Value.arrangedElements r.orders elements))).1 }
        (sendAll frames
          (Value.placedElements stamp p i (Value.arrangedElements r.orders elements))).2
  | [], _, frames, _ => by simpa [Value.arrangedElements] using Passes.nil _
  | v :: elements, h, frames, hframes => by
    simp only [Value.ElementsWellFormed] at h
    simp only [Value.placedElements_cons, Value.arrangedElements, sendAll_append]
    have hv := (arranges h.1).inside r (p.index i) hframes
    exact hv.append (passes_placedElements r p (i + 1) h.2 _ (hframes.sendAll _))

theorem passes_mapFields (r : Reorder) (p : Path) : ∀ {fields : List (Identifier × Value)},
    Value.FieldsWellFormed fields → ∀ frames, InField frames →
      Passes { r with frames := deepen frames } (Value.placedFields stamp p fields)
        { r with frames := deepen (sendAll frames
          (Value.placedFields stamp p (Value.arrangedFields r.orders fields))).1 }
        (sendAll frames (Value.placedFields stamp p (Value.arrangedFields r.orders fields))).2
  | [], _, frames, _ => by simpa [Value.arrangedFields] using Passes.nil _
  | (name, v) :: fields, h, frames, hframes => by
    simp only [Value.FieldsWellFormed] at h
    simp only [Value.placedFields_cons, Value.arrangedFields, sendAll_cons, sendAll_append]
    have hstart := step_fieldStart_deepen r hframes (p.field name) name (stamp (p.field name))
    have hsent := hframes.send (p.field name) ⟨.fieldStart name, stamp (p.field name)⟩
    have hvalue := (arranges h.1).inside r (p.field name) hsent
    exact .cons hstart (hvalue.append (passes_mapFields r p h.2 _ (hsent.sendAll _)))

theorem passes_structFields {r r' : Reorder} {out : List (Event × Path)}
    (stamped : Option Path) : ∀ {fields : List (Identifier × Value)},
      (Fields.keys fields).Nodup → Value.FieldsWellFormed fields →
      ∀ {g : OpenStruct} {turns : List Identifier} {held : Fields}, g.Tracks stamp turns held →
      (∀ name ∈ Fields.keys fields, name ∉ g.forwarded ∧ name ∉ Fields.keys held) →
      ∀ frames,
      (complete { r with frames := (sendAll frames (Value.placedFields stamp g.base
        (Fields.arrangeFrom g.order turns held (Value.arrangedFields r.orders fields)) ++
          [(⟨.close, stamped⟩, g.base)])).1 } (.value .null)).Yields r' out →
      Passes { r with frames := g :: deepen frames }
        (Value.placedFields stamp g.base fields ++ [(⟨.close, stamped⟩, g.base)]) r'
        ((sendAll frames (Value.placedFields stamp g.base
          (Fields.arrangeFrom g.order turns held (Value.arrangedFields r.orders fields)) ++
            [(⟨.close, stamped⟩, g.base)])).2 ++ out)
  | [], _, _, g, turns, held, hg, _, frames, hdone => by
    simp only [Value.arrangedFields, Fields.arrangeFrom] at hdone ⊢
    exact .single (step_structEnd hg frames g.base stamped hdone)
  | (name, v) :: fields, hkeys, h, g, turns, held, hg, hfresh, frames, hdone => by
    simp only [Value.FieldsWellFormed] at h
    obtain ⟨hname, hkeys⟩ : name ∉ Fields.keys fields ∧ (Fields.keys fields).Nodup :=
      List.nodup_cons.1 hkeys
    obtain ⟨⟨hforwarded, hheld⟩, hfresh⟩ : (name ∉ g.forwarded ∧ name ∉ Fields.keys held) ∧
        ∀ key ∈ Fields.keys fields, key ∉ g.forwarded ∧ key ∉ Fields.keys held :=
      List.forall_mem_cons.1 hfresh
    obtain ⟨g', turns', held', now, hg', horder, hbase, hseen, harrange, hfield⟩ :=
      (arranges h.1).structField r hg hforwarded hheld
    -- The fields to come are new to the struct still, since keys are distinct.
    have hfresh' : ∀ key ∈ Fields.keys fields,
        key ∉ g'.forwarded ∧ key ∉ Fields.keys held' := by
      intro key hkey
      have hne : key ≠ name := fun heq ↦ hname (heq ▸ hkey)
      have hunseen : key ∉ g'.forwarded ++ Fields.keys held' := by
        intro hmem
        have hkey' := (List.mem_cons.1 (hseen hmem)).resolve_left hne
        exact (List.mem_append.1 hkey').elim (hfresh key hkey).1 (hfresh key hkey).2
      exact ⟨fun hmem ↦ hunseen (List.mem_append_left _ hmem),
        fun hmem ↦ hunseen (List.mem_append_right _ hmem)⟩
    rw [Value.arrangedFields, harrange, Value.placedFields_append, List.append_assoc,
      sendAll_append] at hdone ⊢
    have hlater := @passes_structFields r r' out stamped fields hkeys h.2 g' turns' held' hg'
      hfresh' (sendAll frames (Value.placedFields stamp g.base now)).1
    rw [horder, hbase] at hlater
    have hsplit := Value.placedFields_append stamp g.base [(name, v)] fields
    rw [List.singleton_append] at hsplit
    rw [hsplit, List.append_assoc, List.append_assoc]
    exact (hfield frames).append (hlater hdone)

end

/-- Before any event a reorder hands on the arranged value and is as it was. -/
theorem passes_value (orders : QualifiedName → List Identifier) {v : Value} (h : v.WellFormed)
    (p : Path) :
    Passes { orders := orders } (v.placed stamp p) { orders := orders }
      ((v.arranged orders).placed stamp p) := by
  have hv := @arranges stamp v h { orders := orders } { orders := orders } [] p (by simp [InField])
  rw [sendAll_noFrames, List.append_nil] at hv
  exact hv (yields_stop _)

end Reorder

/-! ## Behind a reorder -/

/-- A reorder in a pipeline does what it does by itself. -/
theorem Element.passAll_reorder {r r' : Reorder} {xs out : List (Event × Path)}
    (h : r.Passes xs r' out) :
    (Element.reorder r).passAll (xs.map fun x ↦ (x.1, some x.2)) =
      { handed := out.map fun x ↦ (x.1, some x.2), state := .reorder r' } := by
  have hmap := @passAll_map _ _ (fun r ahead e ↦ Reorder.step r (ahead.getD .root) e)
    (fun e ahead event ↦ Element.step ahead event e) .reorder (fun _ _ _ ↦ rfl) r
    (xs.map fun x ↦ (x.1, some x.2))
  rw [Element.passAll, hmap, h]
  rfl

/-- The elements behind a reorder and its checker see the events of the arranged value. -/
theorem Pipeline.visit_reorder (orders : QualifiedName → List Identifier) (rest : List Element)
    {v : Value} (h : v.WellFormed) {after : List Element} {notes : List Note}
    (hrest : sendRow rest (((v.arranged orders).placed (fun _ ↦ none) .root).map
      fun x ↦ (x.1, some x.2)) = { elements := after, notes := notes }) :
    Pipeline.visit ⟨.checker { top := .value } :: .reorder { orders := orders } :: rest⟩ v =
      { elements := .checker { top := .value, done := true } :: .reorder { orders := orders } ::
          after
        notes := notes } := by
  have hreorder := Element.passAll_reorder
    (@Reorder.passes_value (fun _ ↦ none) orders v h .root)
  rw [Pipeline.visit_eq_sendRow]
  exact sendRow_cons_of_passes_all rfl (Element.passAll_checker_events h)
    (sendRow_cons_of_passes_all rfl hreorder hrest)

/-- **Behind a reorder the events are those of the arranged value.** Nothing stops them, no other
event comes, and nothing is left behind in the reorder. The fields of a struct, each with its own
value arranged, are neither lost nor doubled; those that the order names leave as a part of the
order, and the others as they came. -/
theorem Pipeline.reorder_hands_on_arranged (orders : QualifiedName → List Identifier) (id : String)
    {v : Value} (h : v.WellFormed) :
    Pipeline.visit (.ofElements [.reorder { orders := orders }, .observer (.note id)]) v =
      { elements := [.checker { top := .value, done := true }, .reorder { orders := orders },
          .observer (.note id)]
        notes := (v.arranged orders).events.map fun e ↦ .seen id e none } ∧
    ∀ (type : QualifiedName) (fields : Fields), (Fields.keys fields).Nodup →
      let arrived := fields.map fun f ↦ (f.1, f.2.arranged orders)
      ∃ out, (Value.struct type fields).arranged orders = .struct type out ∧ out.Perm arrived ∧
        ((Fields.keys out).filter (· ∈ orders type)).Sublist (orders type) ∧
        out.filter (·.1 ∉ orders type) = arrived.filter (·.1 ∉ orders type) := by
  refine ⟨Pipeline.visit_reorder orders [.observer (.note id)] h ?_, fun type fields hkeys ↦ ?_⟩
  · rw [sendRow_note, ← Value.fst_placed .root, List.map_map, List.map_map]
    rfl
  · have hkeys' : (Fields.keys (fields.map fun f ↦ (f.1, f.2.arranged orders))).Nodup := by
      simpa [Fields.keys, Function.comp_def] using hkeys
    refine ⟨_, by rw [Value.arranged, Value.arrangedFields_eq_map], ?_⟩
    exact ⟨Fields.arrange_perm _ hkeys', Fields.keys_arrange_sublist _ _, Fields.filter_arrange _ _⟩

/-- Of three fields the first waits until the last is through, the other one passes. -/
theorem Pipeline.reorder_hands_on_arranged_of_late :
    let a : Identifier := ⟨"a", by decide⟩
    let b : Identifier := ⟨"b", by decide⟩
    let x : Identifier := ⟨"x", by decide⟩
    let t : QualifiedName := ⟨"m@v1", "T", by decide, by decide⟩
    let fields : Fields := [(b, .null), (x, .null), (a, .null)]
    let out : Fields := [(x, .null), (a, .null), (b, .null)]
    Value.WellFormed (.struct t fields) ∧ (Fields.keys fields).Nodup ∧ out.Perm fields ∧
      Pipeline.visit (.ofElements [.reorder { orders := fun _ ↦ [a, b] }, .observer (.note "n")])
        (.struct t fields) =
        { elements := [.checker { top := .value, done := true },
            .reorder { orders := fun _ ↦ [a, b] }, .observer (.note "n")]
          notes := (Value.struct t out).events.map fun e ↦ .seen "n" e none } := by
  intro a b x t fields out
  have hkeys : (Fields.keys fields).Nodup := by decide
  have h : Value.WellFormed (.struct t fields) := by
    rw [Value.WellFormed]
    exact ⟨hkeys, by simp [Value.FieldsWellFormed, Value.WellFormed, fields, Value.null]⟩
  have harranged : (Value.struct t fields).arranged (fun _ ↦ [a, b]) = .struct t out := rfl
  obtain ⟨hvisit, hstruct⟩ := Pipeline.reorder_hands_on_arranged (fun _ ↦ [a, b]) "n" h
  obtain ⟨out', hout, hperm, -⟩ := hstruct t fields hkeys
  rw [harranged] at hvisit hout
  obtain ⟨-, rfl⟩ := Value.struct.inj hout
  exact ⟨h, hkeys, hperm, hvisit⟩

end ValueStream
