import ValueStream.Proofs.Checker.Outline
import ValueStream.Proofs.Pipeline.Relay
import ValueStream.Proofs.Reorder.Frame
import ValueStream.Proofs.Reorder.Struct

/-!
# What all frames keep

A struct that holds nothing back sends what comes to the structs around it, so that what is missing
in one frame may be in another one. `Reorder.Follows` goes through the frames and the open parts
from the innermost on and carries the events along that are kept further in. At the outer end what
has come must be what has been handed on and what is kept (`Follows.perm`), and so nothing is lost
and nothing comes twice.

An event that comes is noted for all open parts first, as one that is kept innermost
(`Follows.note`), and then sent from there (`Follows.sendAll`). With the fields that leave when one
is complete (`Follows.release`) this makes up what any event does (`Follows.step`), and the relation
holds for as long as a checker accepts what comes (`Follows.run`).
-/

namespace ValueStream

namespace Reorder

/-- The frames of a reorder are those of the open parts, of which some events are kept further in.
Every event that has come has been handed on or is kept. -/
inductive Follows (orders : QualifiedName → List Identifier) (all handed : List Event) :
    List Event → List OpenStruct → List (OpenPart Event) → Prop
  /-- Nothing is open. -/
  | nil {inner : List Event} (h : all.Perm (handed ++ inner)) :
    Follows orders all handed inner [] []
  /-- A map or list is innermost, which the frame of the struct around it counts. -/
  | part {inner : List Event} {frames : List OpenStruct} {u : OpenPart Event}
    {us : List (OpenPart Event)} (hstart : ∀ type, u.start ≠ .structStart type)
    (h : Follows orders all handed inner frames us) :
    Follows orders all handed inner (deepen frames) (u :: us)
  /-- A struct is innermost. -/
  | struct {inner : List Event} {f : OpenStruct} {frames : List OpenStruct} {u : OpenPart Event}
    {us : List (OpenPart Event)} {type : QualifiedName} (hstart : u.start = .structStart type)
    (hf : f.Matches (orders type) inner u)
    (h : Follows orders all handed (inner ++ f.waits) frames us) :
    Follows orders all handed inner (f :: deepen frames) (u :: us)

private theorem perm_append_right_comm {α : Type} (xs ys zs : List α) :
    (xs ++ ys ++ zs).Perm (xs ++ zs ++ ys) := by
  rw [List.append_assoc, List.append_assoc]
  exact List.perm_append_comm.append_left xs

theorem flatMap_waits_deepen (frames : List OpenStruct) :
    (deepen frames).flatMap OpenStruct.waits = frames.flatMap OpenStruct.waits := by
  cases frames <;> rfl

/-- When a struct ends, all that is held of it is sent. -/
theorem exists_flush {f : OpenStruct} (hnodup : (f.held.map Prod.fst).Nodup)
    (turns : List Identifier) (hturns : ∀ x ∈ f.held, x.1 ∈ turns) :
    ∃ xs : List (Event × Path), (f.held.flatMap Prod.snd).Perm (xs.map Prod.fst) ∧
      ∀ outer, flush f outer turns = Reorder.sendAll outer xs := by
  induction turns generalizing f with
  | nil =>
    have hheld : f.held = [] :=
      List.eq_nil_iff_forall_not_mem.2 fun x hx ↦ by simpa using hturns x hx
    exact ⟨[], by simp [hheld], fun outer ↦ rfl⟩
  | cons name later ih =>
    obtain ⟨hname, htake⟩ | ⟨before, events, after, hheld, htake⟩ :=
      OpenStruct.takeHeld_cases hnodup name
    · obtain ⟨xs, hperm, hflush⟩ := ih hnodup fun x hx ↦
        (List.mem_cons.1 (hturns x hx)).resolve_left (key_ne_of_mem hname hx)
      refine ⟨xs, hperm, fun outer ↦ ?_⟩
      rw [flush, htake]
      exact hflush outer
    · rw [hheld, nodup_keys_middle] at hnodup
      have hlater : ∀ x ∈ before ++ after, x.1 ∈ later := fun x hx ↦
        (List.mem_cons.1 (hturns x (hheld ▸ mem_middle_of_mem hx))).resolve_left
          (key_ne_of_mem hnodup.1 hx)
      obtain ⟨xs, hperm, hflush⟩ :=
        @ih { f with held := before ++ after } hnodup.2 hlater
      refine ⟨Nesting.locate f.base [] events ++ xs, ?_, fun outer ↦ ?_⟩
      · rw [List.map_append, Nesting.fst_locate, hheld]
        have hevents : ((before ++ (name, events) :: after).flatMap Prod.snd).Perm
            (events ++ (before ++ after).flatMap Prod.snd) := by
          simpa using List.perm_append_comm_assoc ..
        exact hevents.trans (hperm.append_left events)
      · rw [flush, htake]
        simp only [replay_eq_sendAll, hflush, sendAll_append]

namespace Follows

variable {orders : QualifiedName → List Identifier} {all handed inner inner' : List Event}
  {frames : List OpenStruct} {us : List (OpenPart Event)}

theorem congr (h : Follows orders all handed inner frames us) (hinner : inner.Perm inner') :
    Follows orders all handed inner' frames us := by
  induction h generalizing inner' with
  | nil h => exact .nil (h.trans (hinner.append_left handed))
  | part hstart _ ih => exact .part hstart (ih hinner)
  | struct hstart hf _ ih =>
    exact .struct hstart { hf with progress := hf.progress.congr hinner }
      (ih (hinner.append_right _))

/-- An event comes, which is kept further in, to begin with. -/
theorem note (h : Follows orders all handed inner frames us) (e : Event) :
    Follows orders (all ++ [e]) handed (inner ++ [e]) frames (us.map (OpenPart.note e)) := by
  induction h with
  | nil h =>
    refine .nil ?_
    rw [← List.append_assoc]
    exact h.append_right [e]
  | part hstart _ ih => exact .part hstart ih
  | @struct inner f frames u us type hstart hf h ih =>
    exact .struct hstart ⟨hf.accounts, hf.progress.note e, hf.blocked, hf.depth⟩
      (ih.congr (perm_append_right_comm ..))

/-- Events that were kept further in are sent. -/
theorem sendAll (h : Follows orders all handed inner frames us) {xs : List (Event × Path)}
    (hinner : inner.Perm (inner' ++ xs.map Prod.fst)) :
    Follows orders all (handed ++ (Reorder.sendAll frames xs).2.map Prod.fst) inner'
      (Reorder.sendAll frames xs).1 us := by
  induction h generalizing inner' xs with
  | nil h =>
    rw [sendAll_noFrames]
    refine .nil (h.trans ?_)
    rw [List.append_assoc]
    exact (hinner.trans List.perm_append_comm).append_left handed
  | part hstart _ ih =>
    rw [sendAll_deepen]
    exact .part hstart (ih hinner)
  | @struct inner f frames u us type hstart hf h ih =>
    cases hholding : f.holding with
    | none =>
      rw [sendAll_of_holding_none hholding, sendAll_deepen]
      refine .struct hstart { hf with progress := hf.progress.of_holding_none hholding inner' }
        (ih ?_)
      exact (hinner.append_right f.waits).trans (perm_append_right_comm ..)
    | some events =>
      rw [sendAll_of_holding hholding, List.map_nil, List.append_nil]
      refine .struct hstart ⟨{ hf.accounts with }, hf.progress.hold hholding hinner, hf.blocked,
        hf.depth⟩ (h.congr ?_)
      -- What comes is kept here now, and no longer further in.
      have hwaits : OpenStruct.waits { f with holding := some (events ++ xs.map Prod.fst) } =
          events ++ xs.map Prod.fst ++ f.held.flatMap Prod.snd := rfl
      rw [hwaits, OpenStruct.waits, hholding, Option.getD_some, ← List.append_assoc,
        ← List.append_assoc, ← List.append_assoc]
      exact ((hinner.append_right events).trans (perm_append_right_comm ..)).append_right _

/-- What has come and has not been handed on is kept. -/
theorem perm (h : Follows orders all handed inner frames us) :
    all.Perm (handed ++ (inner ++ frames.flatMap OpenStruct.waits)) := by
  induction h with
  | nil h => simpa using h
  | part _ _ ih => rwa [flatMap_waits_deepen]
  | struct _ _ _ ih =>
    rw [List.flatMap_cons, flatMap_waits_deepen]
    rwa [List.append_assoc] at ih

/-- Where a value may come, a field of the innermost struct is in progress. -/
theorem inField (h : Follows orders all handed inner frames us) (takes : OpenPart.TakeValue us) :
    InField frames := by
  induction h with
  | nil => simp [InField]
  | part _ _ ih => exact (ih takes.2).deepen
  | @struct inner f frames u us type hstart hf h ih =>
    obtain ⟨⟨type', hlist⟩ | hcurrent, -⟩ := takes
    · simp [hstart] at hlist
    · rw [inField_cons]
      cases hf.progress with
      | idle h => simp [h] at hcurrent
      | other _ h | turn _ h | early _ h => simp [h]

/-! ### Fields leave -/

/-- The fields leave whose turn has come. -/
theorem release (r : Reorder) {type : QualifiedName} {u : OpenPart Event} {f : OpenStruct}
    (hnodup : (orders type).Nodup) (hstart : u.start = .structStart type) (hu : u.current = none)
    (hf : f.Idle (orders type) u.complete) (h : Follows orders all handed f.waits frames us) :
    ∃ frames' out, (r.release f (deepen frames) (f.order.drop f.next)).Yields
        { r with frames := frames' } out ∧
      Follows orders all (handed ++ out.map Prod.fst) [] frames' (u :: us) := by
  rw [hf.accounts.order_eq]
  generalize hturns : (orders type).drop f.next = turns
  -- Nothing can leave any more.
  have hstop : ∀ {f frames handed}, f.Idle (orders type) u.complete →
      Follows orders all handed f.waits frames us →
      (∀ name ∈ ((orders type).drop f.next).head?, name ∉ f.held.map Prod.fst) →
      ∃ frames' out, (Step.stop none { r with frames := f :: deepen frames }).Yields
          { r with frames := frames' } out ∧
        Follows orders all (handed ++ out.map Prod.fst) [] frames' (u :: us) := by
    intro f frames handed hf h hblocked
    exact ⟨_, [], yields_stop _, .struct hstart (hf.matches hu hblocked) (by simpa using h)⟩
  induction turns generalizing f frames handed with
  | nil => exact hstop hf h (by simp [hturns])
  | cons name later ih =>
    rw [Reorder.release]
    obtain ⟨hname, htake⟩ | ⟨before, events, after, hheld, htake⟩ :=
      OpenStruct.takeHeld_cases hf.accounts.nodup name
    · rw [htake]
      exact hstop hf h (by simpa [hturns] using hname)
    · rw [htake]
      let g : OpenStruct := { f with
        held := before ++ after, next := f.next + 1, forwarded := f.forwarded ++ [name] }
      let xs := Nesting.locate f.base [] events
      have hxs : f.waits.Perm (g.waits ++ xs.map Prod.fst) := by
        rw [Nesting.fst_locate, OpenStruct.waits, OpenStruct.waits, hf.holding, hheld]
        simpa [g, hf.holding] using List.perm_append_comm.append_left _
      have hreplay : replay f.base (deepen frames) [] events =
          (deepen (Reorder.sendAll frames xs).1, (Reorder.sendAll frames xs).2) := by
        rw [replay_eq_sendAll, sendAll_deepen]
      obtain ⟨frames', out, hlater, hfollows⟩ :=
        ih (hf.release hnodup hturns hheld) (h.sendAll hxs) (OpenStruct.drop_of_turn hturns)
      refine ⟨frames', (Reorder.sendAll frames xs).2 ++ out, ?_, ?_⟩
      · simp only [hreplay]
        exact yields_sendFirst hlater _ _
      · rwa [List.map_append, ← List.append_assoc]

/-- A value is complete that belongs to the innermost part. -/
theorem complete (r : Reorder) (horders : ∀ type, (orders type).Nodup)
    (h : Follows orders all handed [] frames us) (takes : OpenPart.TakeValue us) (v : Value) :
    ∃ frames' out, (Reorder.complete { r with frames := frames } (.value v)).Yields
        { r with frames := frames' } out ∧
      Follows orders all (handed ++ out.map Prod.fst) [] frames'
        (OpenPart.completeField us) := by
  cases h with
  | nil h => exact ⟨[], [], yields_stop _, by simpa using .nil h⟩
  | part hstart h => exact ⟨_, [], complete_value_deepen _ _ v, by simpa using .part hstart h⟩
  | @struct _ f frames u us type hstart hf h =>
    rw [List.nil_append] at h
    have hfinish : u.finishField.start = .structStart type := hstart
    cases hholding : f.holding with
    | none =>
      have hu : u.current.isSome = true := by simpa [OpenPart.TakeValue, hstart] using takes.1
      obtain ⟨name, next, hcurrent, hnext, hidle⟩ :=
        hf.finish_passing (horders type) hu hholding
      rw [complete_passed v (deepen frames) f hholding hcurrent hf.depth hnext]
      exact release r (horders type) hfinish rfl hidle h
    | some kept =>
      obtain ⟨name, hcurrent, hturn, hf'⟩ := hf.finish_held hholding
      rw [complete_held v (deepen frames) hholding hcurrent hf.depth hturn]
      exact ⟨_, [], yields_stop _, .struct hfinish hf'
        (by simpa [OpenStruct.waits, hholding] using h)⟩

/-! ### Steps -/

/-- An event goes where it has to. -/
theorem send (h : Follows orders all handed [] frames us) (place : Path) (e : Event) :
    Follows orders (all ++ [e]) (handed ++ (Reorder.send frames place e).2.map Prod.fst) []
      (Reorder.send frames place e).1 (us.map (OpenPart.note e)) := by
  have hsent := @sendAll _ _ _ _ [] _ _ (h.note e) [(e, place)] (by simp)
  rwa [sendAll_singleton] at hsent

/-- **Whatever comes, the frames stay those of the open parts**, and nothing is lost. -/
theorem step (r : Reorder) (hr : r.orders = orders) (horders : ∀ type, (orders type).Nodup)
    (h : Follows orders all handed [] frames us) {e : Event} (harrives : OpenPart.Arrives us e.kind)
    (place : Path) :
    ∃ frames' out, (Reorder.step { r with frames := frames } place e).Yields
        { r with frames := frames' } out ∧
      Follows orders (all ++ [e]) (handed ++ out.map Prod.fst) [] frames'
        (OpenPart.advance us e.kind e) := by
  obtain ⟨kind, stamped⟩ := e
  cases harrives with
  | value hfield hclose takes =>
    have hframes := h.inField takes
    have hsend := h.send place ⟨kind, stamped⟩
    cases kind with
    | fieldStart name => exact absurd rfl (hfield name)
    | close => exact absurd rfl hclose
    | value v =>
      obtain ⟨frames', out, hcomplete, hfollows⟩ := hsend.complete r horders (takes.note _) v
      refine ⟨frames', _, step_inField hframes (by simp) (by simp) hcomplete, ?_⟩
      rwa [List.map_append, ← List.append_assoc]
    | mapStart =>
      refine ⟨_, _, step_inField hframes (by simp) (by simp) (complete_start _ (.inl rfl)), ?_⟩
      rw [List.append_nil]
      exact .part (by simp) hsend
    | listStart type =>
      refine ⟨_, _, step_inField hframes (by simp) (by simp) (complete_start _ (.inr ⟨_, rfl⟩)), ?_⟩
      rw [List.append_nil]
      exact .part (by simp) hsend
    | structStart type =>
      refine ⟨_, _, step_structStart _ place type stamped, .struct rfl ?_ ?_⟩
      · exact hr ▸ OpenStruct.matches_new _ place [] _
      · simpa [OpenStruct.waits] using hsend
  | @field u outer name hstart hcurrent fresh takes =>
    cases h with
    | part hpart h =>
      exact ⟨_, _, step_fieldStart_deepen r (h.inField takes) place name stamped,
        .part hpart (h.send place _)⟩
    | @struct _ f frames u us type htype hf h =>
      obtain ⟨f', hstartField, hwaits, hf'⟩ := hf.startField hcurrent fresh place
      have htype' : OpenPart.start { u with current := some (name, []) } = .structStart type :=
        htype
      rw [← hwaits] at h
      exact ⟨_, _, step_fieldStart (hf.idle hcurrent).1 hstartField _ stamped,
        send (.struct htype' hf' h) place ⟨.fieldStart name, stamped⟩⟩
  | @close u outer hcurrent takes =>
    cases h with
    | part _ h =>
      obtain ⟨frames', out, hcomplete, hfollows⟩ :=
        (h.send place ⟨.close, stamped⟩).complete r horders (takes.note _) .null
      refine ⟨frames', _, step_close_deepen (h.inField takes) hcomplete, ?_⟩
      rwa [List.map_append, ← List.append_assoc]
    | @struct _ f frames u us type htype hf h =>
      let e : Event := ⟨.close, stamped⟩
      obtain ⟨-, hholding⟩ := hf.idle hcurrent
      obtain ⟨held, hheld, hflush⟩ := exists_flush hf.accounts.nodup
        (f.order.drop f.next) fun x hx ↦ hf.accounts.order_eq ▸ (hf.accounts.held x hx).1
      have hwaits : ([] ++ f.waits ++ [e]).Perm ([] ++ (held ++ [(e, place)]).map Prod.fst) := by
        simpa [OpenStruct.waits, hholding] using hheld.append_right [e]
      obtain ⟨frames', out, hcomplete, hfollows⟩ :=
        ((h.note e).sendAll hwaits).complete r horders (takes.note e) .null
      refine ⟨frames', _, step_close_of_flush hholding hf.depth (hflush _) place stamped hcomplete,
        ?_⟩
      rwa [List.map_append, ← List.append_assoc]

/-- The frames stay those of the open parts as long as a checker accepts what comes. -/
theorem run (r : Reorder) (hr : r.orders = orders) (horders : ∀ type, (orders type).Nodup)
    {c : Checker} (hnests : OpenPart.Nests us c.nesting)
    (h : Follows orders all handed [] frames us) {xs : List (Event × Option Path)}
    (hrun : (c.run (kindsOf xs)).2 = none) :
    ∃ frames', (passage { r with frames := frames } xs).fault = none ∧
      (passage { r with frames := frames } xs).state = { r with frames := frames' } ∧
      Follows orders (all ++ xs.map Prod.fst)
        (handed ++ (passage { r with frames := frames } xs).handed.map Prod.fst) [] frames'
        ((xs.map Prod.fst).foldl (fun us e ↦ OpenPart.advance us e.kind e) us) := by
  induction xs generalizing c all handed frames us with
  | nil => exact ⟨frames, rfl, rfl, by simpa [passage] using h⟩
  | cons x xs ih =>
    obtain ⟨e, ahead⟩ := x
    obtain ⟨hkind, hlater⟩ := Checker.run_cons_eq_none_iff.1 hrun
    obtain ⟨frames', out, hyields, hfollows⟩ :=
      h.step r hr horders (hnests.arrives hkind) (ahead.getD .root)
    obtain ⟨last, hfault, hstate, hlast⟩ := ih (hnests.advance hkind e) hfollows hlater
    have hpassage : passage { r with frames := frames } ((e, ahead) :: xs) =
        (passage { r with frames := frames' } xs).behind (out.map fun x ↦ (x.1, some x.2)) := by
      rw [passage, passAll_cons hyields.fault, hyields.state, hyields.handed, passage]
    rw [hpassage]
    refine ⟨last, hfault, hstate, ?_⟩
    simpa [Passage.behind, Function.comp_def] using hlast

end Follows

/-- **After what a stream begins with the frames are those of the open parts**, and what is not kept
has been handed on. -/
theorem passage_follows {orders : QualifiedName → List Identifier}
    (horders : ∀ type, (orders type).Nodup) {xs : List (Event × Option Path)}
    (h : BeginsStream .value (kindsOf xs)) :
    ∃ frames, passage { orders := orders } xs =
        { handed := (passage { orders := orders } xs).handed, state := ⟨orders, frames⟩ } ∧
      Follows orders (xs.map Prod.fst)
        ((passage { orders := orders } xs).handed.map Prod.fst) [] frames
        (openParts Event.kind (xs.map Prod.fst)) := by
  have hnothing : Follows orders [] [] [] [] [] := .nil (.refl [])
  obtain ⟨frames, hfault, hstate, hfollows⟩ := hnothing.run ⟨orders, []⟩ rfl horders .nil
    ((Checker.run_eq_none_iff .value _).2 h)
  refine ⟨frames, ?_, hfollows⟩
  rw [← hfault, ← hstate]

end Reorder

end ValueStream
