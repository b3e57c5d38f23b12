import ValueStream.Proofs.Checker.Passage
import ValueStream.Proofs.Reorder.Buffered
import ValueStream.Proofs.Reorder.Ended

/-!
# Only what must wait is kept

At each point of a stream a reorder keeps an event only if it has to: the event belongs to a field
of an open struct, and a field that is to leave before that one is not complete
(`OpenPart.MustWait`). The frames show it, for each holds back just the fields that come early
(`OpenStruct.HoldsEarly`). And when the end of a part leaves nothing of the part is left behind.

Events that are the same cannot be told apart by what becomes of them. To say of each whether it has
left, it is taken with the place where it belongs. For the proof the events are numbered by their
stamps (`toldApart`), which is all the same to the reorder, and `original` takes the numbers back.
-/

namespace ValueStream

open Nesting

variable {α β : Type}

namespace OpenPart

/-- Whether the part is a struct. -/
def isStruct (u : OpenPart α) : Bool := u.start matches .structStart _

/-- Where the fields of a struct are to leave in an order, what is of a field must wait as long as
an earlier one is not complete. -/
def MustWait (order : List Identifier) (u : OpenPart α) (x : α) : Prop :=
  ∃ name xs earlier, ((name, xs) ∈ u.complete ∨ u.current = some (name, xs)) ∧ x ∈ xs ∧
    [earlier, name].Sublist order ∧ earlier ∉ u.names

theorem MustWait.map {order : List Identifier} {u : OpenPart α} {x : α} (h : u.MustWait order x)
    (f : α → β) : (u.map f).MustWait order (f x) := by
  obtain ⟨name, xs, earlier, hname, hx, horder, hearlier⟩ := h
  refine ⟨name, xs.map f, earlier, ?_, List.mem_map_of_mem hx, horder, ?_⟩
  · refine hname.imp (fun hmem ↦ ?_) fun hcurrent ↦ by simp [OpenPart.map, hcurrent]
    exact List.mem_map_of_mem (f := fun y ↦ (y.1, y.2.map f)) hmem
  · rwa [names_map]

end OpenPart

namespace OpenStruct

/-- The frame of an open struct holds back what comes early and nothing else. -/
structure HoldsEarly (order : List Identifier) (u : OpenPart α) (f : OpenStruct) : Prop where
  /-- The order. -/
  order_eq : f.order = order
  /-- The fields before the turn are complete and have been forwarded. -/
  passed : ∀ name ∈ order.take f.next, name ∈ u.names ∧ name ∈ f.forwarded
  /-- No field after it has been, and those that are complete are held. -/
  waiting : ∀ name ∈ order.drop (f.next + 1),
    name ∉ f.forwarded ∧ (name ∈ u.names → name ∈ f.held.map Prod.fst)
  /-- No others are held. -/
  held : ∀ name ∈ f.held.map Prod.fst, name ∈ u.names ∧ name ∈ order.drop (f.next + 1)
  /-- Between two fields nothing is being held back, and the field whose turn it is has not come. -/
  idle : u.current = none → f.holding = none ∧ ∀ name, order[f.next]? = some name → name ∉ u.names
  /-- In a field events are held back if and only if the order names it and it is not its turn. -/
  busy : ∀ name xs, u.current = some (name, xs) →
    (f.holding.isSome = true ↔ name ∈ order ∧ order[f.next]? ≠ some name)

/-- It only matters which fields are complete and which one is in progress. -/
theorem HoldsEarly.of_map {order : List Identifier} {u : OpenPart α} {f : OpenStruct} {g : α → β}
    (h : f.HoldsEarly order (u.map g)) : f.HoldsEarly order u where
  order_eq := h.order_eq
  passed := u.names_map g ▸ h.passed
  waiting := u.names_map g ▸ h.waiting
  held := u.names_map g ▸ h.held
  idle hu := u.names_map g ▸ h.idle (by simp [OpenPart.map, hu])
  busy name xs hu := h.busy name (xs.map g) (by simp [OpenPart.map, hu])

variable {order : List Identifier} {inner : List Event} {u : OpenPart Event} {f : OpenStruct}
  {name : Identifier}

/-- What has been forwarded ends before the turn or with it. -/
theorem Progress.exists_forwarded_eq {current : Option (Identifier × List Event)}
    (h : f.Progress inner current) :
    ∃ k, f.next ≤ k ∧ k ≤ f.next + 1 ∧ f.forwarded = f.order.take k := by
  cases h with
  | idle _ _ _ hforwarded | other _ _ _ _ hforwarded | early _ _ _ _ _ _ hforwarded =>
    exact ⟨f.next, Nat.le_refl _, Nat.le_succ _, hforwarded⟩
  | turn _ _ _ _ hforwarded => exact ⟨f.next + 1, Nat.le_succ _, Nat.le_refl _, hforwarded⟩

/-- A field whose turn has not come comes after the one whose turn it is. -/
theorem mem_drop_succ (horder : f.order = order) (hname : name ∈ order.drop f.next)
    (hturn : f.nextField ≠ some name) :
    ∃ earlier, f.nextField = some earlier ∧ name ∈ order.drop (f.next + 1) := by
  cases hdrop : order.drop f.next with
  | nil => simp [hdrop] at hname
  | cons earlier later =>
    have hnext : f.nextField = some earlier := by
      rw [nextField, horder, getElem?_of_turn hdrop]
    rw [hdrop, List.mem_cons] at hname
    rw [drop_of_turn hdrop]
    exact ⟨earlier, hnext, hname.resolve_left fun heq ↦ hturn (heq ▸ hnext)⟩

/-- The field whose turn it is is not complete. -/
theorem Matches.turn_incomplete (h : f.Matches order inner u) (hname : f.nextField = some name) :
    name ∉ u.names := by
  intro hcomplete
  have hturns := drop_of_nextField h.accounts.order_eq hname
  exact h.blocked name hname (h.accounts.waiting name hcomplete (by simp [hturns]))

theorem Matches.holdsEarly (h : f.Matches order inner u) (hnodup : order.Nodup) :
    f.HoldsEarly order u where
  order_eq := h.accounts.order_eq
  passed name hname := by
    obtain ⟨k, hk, -, hforwarded⟩ := h.progress.exists_forwarded_eq
    rw [hforwarded, h.accounts.order_eq]
    exact ⟨h.accounts.passed name hname, List.take_subset_take_left order hk hname⟩
  waiting name hname := by
    obtain ⟨k, -, hk, hforwarded⟩ := h.progress.exists_forwarded_eq
    rw [hforwarded, h.accounts.order_eq]
    refine ⟨fun hmem ↦ List.disjoint_take_drop hnodup hk hmem hname, fun hcomplete ↦ ?_⟩
    exact h.accounts.waiting name hcomplete (List.drop_subset_drop_left order (Nat.le_succ _) hname)
  held name hname := by
    have hturn : f.nextField ≠ some name := fun heq ↦ h.blocked name heq hname
    obtain ⟨x, hx, rfl⟩ := List.mem_map.1 hname
    obtain ⟨hdrop, es, hes, -⟩ := h.accounts.held x hx
    obtain ⟨-, -, hlater⟩ := mem_drop_succ h.accounts.order_eq hdrop hturn
    exact ⟨List.mem_map.2 ⟨_, hes, rfl⟩, hlater⟩
  idle hu := by
    refine ⟨(h.idle hu).2, fun name hname ↦ h.turn_incomplete ?_⟩
    rwa [nextField, h.accounts.order_eq]
  busy name es hu := by
    rw [← h.accounts.order_eq, ← nextField]
    cases h.progress with
    | idle hnone => simp [hu] at hnone
    | other hcurrent _ hname hholding =>
      obtain ⟨rfl, -⟩ : name = _ ∧ _ := by simpa [hu] using hcurrent
      simp [hholding, hname]
    | turn hcurrent _ hname hholding =>
      obtain ⟨rfl, -⟩ : name = _ ∧ _ := by simpa [hu] using hcurrent
      simp [hholding, hname]
    | early hcurrent _ hname hturn hholding =>
      obtain ⟨rfl, -⟩ : name = _ ∧ _ := by simpa [hu] using hcurrent
      simp [hholding, hname, hturn]

/-- A field that waits leaves after the one whose turn it is, which is not complete. -/
theorem Matches.exists_earlier (h : f.Matches order inner u) (hname : name ∈ order.drop f.next)
    (hturn : f.nextField ≠ some name) :
    ∃ earlier, [earlier, name].Sublist order ∧ earlier ∉ u.names := by
  obtain ⟨earlier, hnext, hlater⟩ := mem_drop_succ h.accounts.order_eq hname hturn
  refine ⟨earlier, ?_, h.turn_incomplete hnext⟩
  have hsublist : [earlier, name].Sublist (order.drop f.next) := by
    rw [drop_of_nextField h.accounts.order_eq hnext]
    exact (List.singleton_sublist.2 hlater).cons_cons earlier
  exact hsublist.trans (List.drop_sublist _ _)

/-- What is kept for a struct must wait. -/
theorem Matches.mustWait (h : f.Matches order inner u) {e : Event} (he : e ∈ f.waits) :
    u.MustWait order e := by
  rw [waits, List.mem_append] at he
  obtain he | he := he
  · cases h.progress with
    | idle _ _ hholding => simp [hholding] at he
    | other _ _ _ hholding => simp [hholding] at he
    | turn _ _ _ hholding => simp [hholding] at he
    | @early name es kept hu hcurrent hname hturn hholding hkept =>
      rw [h.accounts.order_eq] at hname
      obtain ⟨earlier, horder, hearlier⟩ :=
        h.exists_earlier (h.accounts.mem_drop hcurrent hname) hturn
      refine ⟨name, es, earlier, .inr hu, hkept.mem_iff.2 (List.mem_append_left _ ?_), horder,
        hearlier⟩
      simpa [hholding] using he
  · obtain ⟨x, hx, he⟩ := List.mem_flatMap.1 he
    obtain ⟨hdrop, es, hes, hperm⟩ := h.accounts.held x hx
    have hturn : f.nextField ≠ some x.1 := fun heq ↦
      h.blocked x.1 heq (List.mem_map.2 ⟨x, hx, rfl⟩)
    obtain ⟨earlier, horder, hearlier⟩ := h.exists_earlier hdrop hturn
    exact ⟨x.1, es, earlier, .inl hes, hperm.mem_iff.2 he, horder, hearlier⟩

end OpenStruct

namespace Reorder

variable {orders : QualifiedName → List Identifier} {all handed inner : List Event}
  {fs : List OpenStruct} {us : List (OpenPart Event)}

/-- What is said of a frame and an open part that it is of. -/
def FrameOf (orders : QualifiedName → List Identifier) (f : OpenStruct) (u : OpenPart α) : Prop :=
  ∃ type, u.start = .structStart type ∧ f.HoldsEarly (orders type) u

theorem forall₂_deepen {us : List (OpenPart α)} (h : List.Forall₂ (FrameOf orders) fs us) :
    List.Forall₂ (FrameOf orders) (deepen fs) us := by
  cases h with
  | nil => exact .nil
  | cons hf h =>
    obtain ⟨type, hstart, hf⟩ := hf
    exact .cons ⟨type, hstart, { hf with }⟩ h

theorem Follows.frames (h : Follows orders all handed inner fs us)
    (horders : ∀ type, (orders type).Nodup) :
    List.Forall₂ (FrameOf orders) fs (us.filter OpenPart.isStruct) := by
  induction h with
  | nil => exact .nil
  | @part inner fs u us hstart _ ih =>
    have hu : u.isStruct = false := by
      cases hkind : u.start <;> simp_all [OpenPart.isStruct]
    rw [List.filter_cons_of_neg (by simp [hu])]
    exact forall₂_deepen ih
  | @struct inner f fs u us type hstart hf _ ih =>
    rw [List.filter_cons_of_pos (by simp [OpenPart.isStruct, hstart])]
    exact .cons ⟨type, hstart, hf.holdsEarly (horders type)⟩ (forall₂_deepen ih)

theorem Follows.mustWait (h : Follows orders all handed inner fs us) {e : Event}
    (he : e ∈ fs.flatMap OpenStruct.waits) :
    ∃ u ∈ us, ∃ type, u.start = .structStart type ∧ u.MustWait (orders type) e := by
  induction h with
  | nil => simp at he
  | part _ _ ih =>
    rw [flatMap_waits_deepen] at he
    obtain ⟨u, hu, hwait⟩ := ih he
    exact ⟨u, List.mem_cons_of_mem _ hu, hwait⟩
  | @struct inner f fs u us type hstart hf _ ih =>
    rw [List.flatMap_cons, flatMap_waits_deepen, List.mem_append] at he
    obtain he | he := he
    · exact ⟨u, List.mem_cons_self, type, hstart, hf.mustWait he⟩
    · obtain ⟨u, hu, hwait⟩ := ih he
      exact ⟨u, List.mem_cons_of_mem _ hu, hwait⟩

end Reorder

/-! ## Events told apart -/

section
variable (es : List Event)

/-- Events that say the same, each stamped with its position among them and with nothing else. -/
def toldApart : List Event :=
  (locate .root [] es).mapIdx fun i x ↦ ⟨x.1.kind, some (Path.root.index i)⟩

/-- The event, and its place, at the position that an event is stamped with. In any case it says
what the event does. -/
def original (e : Event) : Event × Path :=
  match e.path.bind Path.last with
  | some (.index i) =>
    let x := (locate .root [] es)[i]?
    (⟨e.kind, x.bind (·.1.path)⟩, (x.map Prod.snd).getD .root)
  | _ => (e, .root)

theorem kind_original (e : Event) : (original es e).1.kind = e.kind := by
  unfold original
  split <;> rfl

theorem map_original : (toldApart es).map (original es) = locate .root [] es := by
  refine List.ext_getElem (by simp [toldApart]) fun i hi hi' ↦ ?_
  simp [toldApart, original, Path.last, Path.index, Path.push, hi']

/-- These events as the inputs of a stage. -/
def inputsApart : List (Event × Option Path) := (toldApart es).map fun e ↦ (e, none)

theorem fst_inputsApart : (inputsApart es).map Prod.fst = toldApart es := by
  simp [inputsApart, Function.comp_def]

theorem map_original_inputsApart :
    ((inputsApart es).map fun x ↦ original es x.1) = locate .root [] es := by
  rw [← map_original es, inputsApart, List.map_map]
  rfl

theorem kinds_toldApart : (toldApart es).map Event.kind = es.map Event.kind := by
  have hkinds := congrArg (List.map (·.1.kind)) (map_original es)
  rw [List.map_map] at hkinds
  have hlocate : (locate .root [] es).map (·.1.kind) = es.map Event.kind := by
    conv_rhs => rw [← fst_locate .root [] es, List.map_map]
    rfl
  rw [← hlocate, ← hkinds]
  exact List.map_congr_left fun e _ ↦ (kind_original es e).symm

end

namespace Reorder

/-! ## What is kept and what has left -/

/-- What the frames say of the events that have come, of those that have been handed on and of those
that are kept, each at the place where it belongs. -/
structure KeepsEarly (orders : QualifiedName → List Identifier) (es : List Event)
    (frames : List OpenStruct) (handed kept : List (Event × Path)) : Prop where
  /-- There is a frame for each open struct. -/
  structs : List.Forall₂ (FrameOf orders) frames
    ((openParts (·.1.kind) (locate .root [] es)).filter OpenPart.isStruct)
  /-- The frames keep what is kept. -/
  waits_eq : frames.flatMap OpenStruct.waits = kept.map Prod.fst
  /-- What has come has been handed on or is kept. -/
  conserved : (locate .root [] es).Perm (handed ++ kept)
  /-- What is kept must wait in some open struct. -/
  waiting : ∀ x ∈ kept, ∃ u ∈ openParts (·.1.kind) (locate .root [] es),
    ∃ type, u.start = .structStart type ∧ u.MustWait (orders type) x
  /-- When the end of a part leaves all that is inside has left. -/
  ended : ∀ before x after, handed = before ++ x :: after → x.1.kind = .close →
    ∀ y ∈ locate .root [] es, x.2.Encloses y.2 → y ∈ before

theorem waits_through (g : Event → Event) (f : OpenStruct) :
    (f.through g).waits = f.waits.map g := by
  cases hholding : f.holding <;>
    simp [OpenStruct.through, OpenStruct.waits, hholding, List.map_flatMap, List.flatMap_map]

theorem flatMap_waits_through {g h : Event → Event} {r r' : Reorder}
    (hr : r.through g = r'.through h) :
    (r.frames.flatMap OpenStruct.waits).map g = (r'.frames.flatMap OpenStruct.waits).map h := by
  have hframes := congrArg (fun r : Reorder ↦ r.frames.flatMap OpenStruct.waits) hr
  simpa only [through, List.flatMap_map, waits_through, ← List.map_flatMap] using hframes

section
variable {orders : QualifiedName → List Identifier} {es : List Event}

/-- What is handed on when the events are told apart, each event at the place where it belongs. -/
def handedApart (orders : QualifiedName → List Identifier) (es : List Event) :
    List (Event × Path) :=
  (passage { orders := orders } (inputsApart es)).handed.map fun x ↦ original es x.1

theorem beginsStream_inputsApart (h : BeginsStream .value (es.map Event.kind)) :
    BeginsStream .value (kindsOf (inputsApart es)) := by
  rwa [kindsOf, inputsApart, List.map_map, ← kinds_toldApart] at *

/-- The same events come to the same, once those that are told apart are taken back. -/
theorem passage_inputsApart {inputs : List (Event × Option Path)}
    (hinputs : inputs.map Prod.fst = es) :
    (passage { orders := orders } (inputsApart es)).SameThrough (fun e ↦ (original es e).1) id
      (passage { orders := orders } inputs) := by
  refine passage_through (fun e ↦ congrArg EventKind.form (kind_original es e)) (fun _ ↦ rfl) rfl ?_
  have hfst := congrArg (List.map Prod.fst) (map_original_inputsApart es)
  rw [fst_locate, List.map_map] at hfst
  exact hfst.trans hinputs.symm

theorem formsAt_original (es : List Event) (xs : List (Event × Option Path)) :
    formsAt (fun e ↦ (original es e).2) xs = (xs.map fun x ↦ original es x.1).map formAt := by
  rw [formsAt, List.map_map]
  refine List.map_congr_left fun x _ ↦ ?_
  rw [Function.comp, formAt, formAt, kind_original]

/-- An end comes behind what it encloses. -/
theorem handedApart_ended (h : BeginsStream .value (es.map Event.kind))
    {kept : List (Event × Path)}
    (hconserved : (locate .root [] es).Perm (handedApart orders es ++ kept))
    {before after : List (Event × Path)} {x y : Event × Path}
    (hhanded : handedApart orders es = before ++ x :: after) (hclose : x.1.kind = .close)
    (hy : y ∈ locate .root [] es) (hinside : x.2.Encloses y.2) : y ∈ before := by
  have hplace : (locate .root [] es).map Prod.snd =
      (locate .root [] (toldApart es)).map Prod.snd := by
    have hforms := congrArg (List.map EventKind.form) (kinds_toldApart es)
    rw [List.map_map, List.map_map] at hforms
    have hlocate := congrArg (List.map Prod.snd) (@locate_forms .root [] _ _ hforms)
    rw [List.map_map, List.map_map] at hlocate
    exact hlocate.symm
  rw [← map_original_inputsApart, ← fst_inputsApart, List.map_map] at hplace
  obtain ⟨v, hv, hcome, hleft⟩ := @passage_located _ (fun e ↦ (original es e).2) orders
    (beginsStream_inputsApart h) hplace
  rw [formsAt_original] at hcome hleft
  have hperm : (((v.arranged orders).placed some .root).map formAt).Perm
      ((v.placed some .root).map formAt) :=
    ((Value.locatedEvents_arranged_perm .root hv).map _).map _
  have harranged : (v.arranged orders).WellFormed := hv.arranged
  rw [map_original_inputsApart] at hcome
  exact mem_before_of_close harranged hperm hconserved hcome hleft hclose hhanded hy hinside

end

/-- **A reorder keeps only what must wait**, at each point of a stream. -/
theorem passage_keepsEarly {orders : QualifiedName → List Identifier}
    (horders : ∀ type, (orders type).Nodup) {inputs : List (Event × Option Path)} {es : List Event}
    (hinputs : inputs.map Prod.fst = es) (h : BeginsStream .value (es.map Event.kind)) :
    ∃ frames handed kept, passage { orders := orders } inputs =
        { handed := (passage { orders := orders } inputs).handed, state := ⟨orders, frames⟩ } ∧
      (passage { orders := orders } inputs).handed.map Prod.fst = handed.map Prod.fst ∧
      KeepsEarly orders es frames handed kept := by
  have hkinds : kindsOf inputs = es.map Event.kind := by
    rw [← hinputs, List.map_map]
    rfl
  obtain ⟨hhanded, hstate, -⟩ := @passage_inputsApart orders es inputs hinputs
  obtain ⟨frames, hpassage, hfollows⟩ := passage_follows horders (hkinds ▸ h)
  obtain ⟨apart, hapart, hfollowsApart⟩ := passage_follows horders (beginsStream_inputsApart h)
  rw [fst_inputsApart] at hfollowsApart
  rw [hinputs] at hfollows
  rw [hapart, hpassage] at hstate
  -- The open parts are the same whether the events are told apart or not.
  have hparts : openParts (·.1.kind) (locate .root [] es) =
      (openParts Event.kind (toldApart es)).map (OpenPart.map (original es)) := by
    rw [← @openParts_map _ _ Event.kind (·.1.kind) _ (kind_original es), map_original]
  have hconserved : (locate .root [] es).Perm
      (handedApart orders es ++ (apart.flatMap OpenStruct.waits).map (original es)) := by
    have hperm := hfollowsApart.perm.map (original es)
    rw [map_original] at hperm
    simpa [handedApart, Function.comp_def] using hperm
  refine ⟨frames, handedApart orders es, (apart.flatMap OpenStruct.waits).map (original es),
    hpassage, ?_, ?_, ?_, hconserved, ?_, ?_⟩
  · rw [handedApart, List.map_map]
    exact hhanded.symm
  · have hframes := hfollows.frames horders
    rw [← fst_locate .root [] es, @openParts_map _ _ (·.1.kind) Event.kind _ (fun _ ↦ rfl),
      List.filter_map, List.forall₂_map_right_iff] at hframes
    exact hframes.imp fun f u ⟨type, hstart, hf⟩ ↦ ⟨type, hstart, hf.of_map⟩
  · rw [List.map_map]
    exact (List.map_id _).symm.trans (flatMap_waits_through hstate).symm
  · intro x hx
    obtain ⟨e, he, rfl⟩ := List.mem_map.1 hx
    obtain ⟨u, hu, type, hstart, hwait⟩ := hfollowsApart.mustWait he
    rw [hparts]
    exact ⟨_, List.mem_map_of_mem hu, type, hstart, hwait.map _⟩
  · exact fun before x after hout hclose y hy hinside ↦
      handedApart_ended h hconserved hout hclose hy hinside

end Reorder

/-! ## In a pipeline -/

namespace Pipeline

/-- **Only what must wait is kept.** Whatever a stream begins with, in front of stages that accept
what comes to them, a reorder has a frame for each open struct that holds back just the fields that
have come early. What has come has gone on to the other stages or must wait, and when the end of a
part has gone on all that is inside went before it. -/
theorem reorder_keeps_early {orders : QualifiedName → List Identifier}
    (horders : ∀ type, (orders type).Nodup) {rest : List Element}
    (hrest : ∀ inputs, (sendRow rest inputs).fault = none) {es : List Event}
    (h : BeginsStream .value (es.map Event.kind)) :
    ∃ c frames handed kept, ∃ inputs : List (Event × Option Path),
      inputs.map Prod.fst = handed.map Prod.fst ∧
      sendAll ⟨.checker { top := .value } :: .reorder { orders := orders } :: rest⟩ es =
        { elements := .checker c :: .reorder ⟨orders, frames⟩ :: (sendRow rest inputs).elements
          notes := (sendRow rest inputs).notes } ∧
      Reorder.KeepsEarly orders es frames handed kept := by
  let start : List (Event × Option Path) := es.map fun e ↦ (e, none)
  let checked := Checker.passage { top := .value } start
  have hkinds : start.map (·.1.kind) = es.map Event.kind := by
    rw [List.map_map]
    rfl
  have hchecked : checked.fault = none := by
    have hfault := congrArg Prod.snd (Checker.passage_state_fault { top := .value } start)
    rw [hkinds] at hfault
    exact hfault.trans ((Checker.run_eq_none_iff .value _).2 h)
  have hevents : checked.handed.map Prod.fst = es := by
    rw [Checker.fst_handed_passage hchecked, List.map_map, Function.comp_def, List.map_id']
  obtain ⟨frames, handed, kept, hpassage, hhanded, hkeeps⟩ :=
    Reorder.passage_keepsEarly horders hevents h
  refine ⟨checked.state, frames, handed, kept, _, hhanded, ?_, hkeeps⟩
  have hchecker : (Element.checker { top := .value }).passAll start =
      { handed := checked.handed, state := .checker checked.state } := by
    rw [Element.passAll_checker, Passage.map, hchecked]
  have hreorder : (Element.reorder { orders := orders }).passAll checked.handed =
      { handed := (Reorder.passage { orders := orders } checked.handed).handed
        state := .reorder ⟨orders, frames⟩ } := by
    rw [Element.passAll_reorder_eq_passage, hpassage]
    rfl
  have hothers : ∀ inputs, sendRow rest inputs =
      { elements := (sendRow rest inputs).elements, notes := (sendRow rest inputs).notes } := by
    intro inputs
    rw [← hrest inputs]
  rw [sendAll_eq_sendRow]
  exact sendRow_cons_of_passes_all rfl hchecker
    (sendRow_cons_of_passes_all rfl hreorder (hothers _))

/-- In both of two structs, the one inside a field of the other one, a field comes that is to leave
second: the field of the inner struct is complete and held there, and that of the outer one is being
held back. -/
theorem reorder_keeps_early_of_nested :
    let a : Identifier := ⟨"a", by decide⟩
    let b : Identifier := ⟨"b", by decide⟩
    let t : QualifiedName := ⟨"m@v1", "T", by decide, by decide⟩
    let orders : QualifiedName → List Identifier := fun _ ↦ [a, b]
    let es : List Event := [⟨.structStart t, none⟩, ⟨.fieldStart b, none⟩, ⟨.structStart t, none⟩,
      ⟨.fieldStart b, none⟩, ⟨.value .null, none⟩]
    (∀ type, (orders type).Nodup) ∧
      (∀ inputs, (sendRow [.observer (.note "n")] inputs).fault = none) ∧
      BeginsStream .value (es.map Event.kind) ∧
      ∃ f g handed kept, Reorder.KeepsEarly orders es [f, g] handed kept ∧
        (f.holding = none ∧ b ∈ f.held.map Prod.fst) ∧ g.holding.isSome = true := by
  intro a b t orders es
  have hab : a ≠ b := by simp [a, b]
  have horders : ∀ type, (orders type).Nodup := fun _ ↦ by simp [orders, hab]
  have hrest : ∀ inputs, (sendRow [.observer (.note "n")] inputs).fault = none := fun inputs ↦ by
    rw [sendRow_note]
  have hbegins : BeginsStream .value (es.map Event.kind) := by
    refine ⟨⟨[.fieldStart a, .value .null, .close, .fieldStart a, .value .null, .close], ?_⟩,
      fun _ _ ↦ rfl⟩
    have hlast : IsFieldStream [a] [.fieldStart a, .value .null] :=
      .cons (by simp) (.value .null) .nil
    have hfresh : b ∉ [a] := by simp [hab.symm]
    exact .struct t (.cons hfresh (.struct t (.cons hfresh (.value .null) hlast)) hlast)
  obtain ⟨_, frames, handed, kept, _, -, -, hkeeps⟩ := reorder_keeps_early horders hrest hbegins
  let place : Path := Path.root.field b
  let early : List (Event × Path) :=
    [(⟨.fieldStart b, none⟩, place.field b), (⟨.value .null, none⟩, place.field b)]
  let inner : OpenPart (Event × Path) := { start := .structStart t, complete := [(b, early)] }
  let outer : OpenPart (Event × Path) :=
    { start := .structStart t
      current := some (b, (⟨.fieldStart b, none⟩, place) :: (⟨.structStart t, none⟩, place) ::
        early) }
  have hopen : (openParts (·.1.kind) (locate .root [] es)).filter OpenPart.isStruct =
      [inner, outer] := rfl
  have hstructs := hkeeps.structs
  rw [hopen] at hstructs
  -- As the first field has not come, it is its turn in both structs.
  have hnext : ∀ {f : OpenStruct} {u : OpenPart (Event × Path)}, f.HoldsEarly [a, b] u →
      a ∉ u.names → f.next = 0 := by
    intro f u hf ha
    by_contra hne
    obtain ⟨k, hk⟩ := Nat.exists_eq_succ_of_ne_zero hne
    exact ha (hf.passed a (by simp [hk])).1
  obtain ⟨f, others, ⟨type, -, hinner⟩, hothers, rfl⟩ := List.forall₂_cons_right_iff.1 hstructs
  obtain ⟨g, last, ⟨type', -, houter⟩, hlast, rfl⟩ := List.forall₂_cons_right_iff.1 hothers
  obtain rfl := List.forall₂_nil_right_iff.1 hlast
  have hf : f.next = 0 := hnext hinner (by simp [inner, OpenPart.names, hab])
  have hg : g.next = 0 := hnext houter (by simp [outer, OpenPart.names])
  have hb : b ∈ (orders type).drop (f.next + 1) := by simp [hf, orders]
  refine ⟨horders, hrest, hbegins, f, g, handed, kept, hkeeps, ⟨(hinner.idle rfl).1, ?_⟩, ?_⟩
  · exact (hinner.waiting b hb).2 (List.mem_singleton.2 rfl)
  · exact (houter.busy b _ rfl).2 (by simp [hg, orders, hab])

end Pipeline

end ValueStream
