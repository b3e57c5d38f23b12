import Mathlib.Data.List.Nodup
import ValueStream.Proofs.Reorder.Overlook
import ValueStream.Proofs.Stream.Unfinished

/-!
# What a frame says of its struct

A frame of a reorder keeps little of the struct that it is of: which fields have left, the events of
those that wait, and whether the field in progress is held back. `OpenStruct.Matches` says for which
open part it stands. The complete fields are accounted for one by one (`Accounts`): those before the
turn are through, and those after it that the order names are held, with all their events and no
others. The field in progress goes one of three ways (`Progress`). What is held of it may be only
part of what has come, since structs further in keep events of it too.

Whatever happens to a struct has its lemma here: a field starts (`Matches.startField`), it is
complete (`Matches.finish_passing`, `Matches.finish_held`), and fields leave when their turn comes
(`Idle.release`). While they are leaving all holds but that the next one must wait (`Idle`).
-/

namespace ValueStream

/-! ## Keys -/

section
variable {α β : Type} {key : α} {value : β} {x : α × β} {xs before after : List (α × β)}

theorem key_ne_of_mem (h : key ∉ xs.map Prod.fst) (hx : x ∈ xs) : x.1 ≠ key := by
  rintro rfl
  exact h (List.mem_map.2 ⟨x, hx, rfl⟩)

theorem nodup_keys_middle :
    ((before ++ (key, value) :: after).map Prod.fst).Nodup ↔
      key ∉ (before ++ after).map Prod.fst ∧ ((before ++ after).map Prod.fst).Nodup := by
  rw [List.map_append, List.map_cons, List.nodup_middle, List.nodup_cons, ← List.map_append]

theorem mem_middle_of_mem {y : α × β} (hx : x ∈ before ++ after) : x ∈ before ++ y :: after :=
  ((List.sublist_cons_self y after).append_left before).subset hx

end

namespace OpenStruct

/-! ## Frames -/

/-- The events that are kept for a struct. -/
def waits (f : OpenStruct) : List Event := f.holding.getD [] ++ f.held.flatMap Prod.snd

/-- What a frame says of the complete fields of a struct that are to leave in an order. -/
structure Accounts (order : List Identifier) (complete : List (Identifier × List Event))
    (f : OpenStruct) : Prop where
  /-- The order. -/
  order_eq : f.order = order
  /-- Whatever comes before the turn is complete. -/
  passed : ∀ name ∈ order.take f.next, name ∈ complete.map Prod.fst
  /-- What is complete and does not come before the turn is held. -/
  waiting : ∀ name ∈ complete.map Prod.fst, name ∈ order.drop f.next → name ∈ f.held.map Prod.fst
  /-- And nothing else is held. -/
  held : ∀ x ∈ f.held, x.1 ∈ order.drop f.next ∧ ∃ es, (x.1, es) ∈ complete ∧ es.Perm x.2
  /-- Each field is held once. -/
  nodup : (f.held.map Prod.fst).Nodup
  /-- The field in progress comes for the first time. -/
  fresh : ∀ name, f.current = some name → name ∉ complete.map Prod.fst

/-- What a frame says of the field in progress, of which some events are kept further in. -/
inductive Progress (inner : List Event) (current : Option (Identifier × List Event))
    (f : OpenStruct) : Prop
  /-- There is none. -/
  | idle (h : current = none) (hcurrent : f.current = none) (hholding : f.holding = none)
    (hforwarded : f.forwarded = f.order.take f.next)
  /-- It passes, since the order does not name it. -/
  | other {name : Identifier} {es : List Event} (h : current = some (name, es))
    (hcurrent : f.current = some name) (hname : name ∉ f.order) (hholding : f.holding = none)
    (hforwarded : f.forwarded = f.order.take f.next)
  /-- It passes, since it is its turn. -/
  | turn {name : Identifier} {es : List Event} (h : current = some (name, es))
    (hcurrent : f.current = some name) (hname : f.nextField = some name)
    (hholding : f.holding = none) (hforwarded : f.forwarded = f.order.take (f.next + 1))
  /-- It comes early and is held back. -/
  | early {name : Identifier} {es kept : List Event} (h : current = some (name, es))
    (hcurrent : f.current = some name) (hname : name ∈ f.order) (hturn : f.nextField ≠ some name)
    (hholding : f.holding = some kept) (hkept : es.Perm (kept ++ inner))
    (hforwarded : f.forwarded = f.order.take f.next)

/-- The frame is that of an open struct whose fields are to leave in an order. -/
structure Matches (order : List Identifier) (inner : List Event) (u : OpenPart Event)
    (f : OpenStruct) : Prop where
  /-- The complete fields. -/
  accounts : f.Accounts order u.complete
  /-- The field in progress. -/
  progress : f.Progress inner u.current
  /-- The field whose turn it is is not held. -/
  blocked : ∀ name, f.nextField = some name → name ∉ f.held.map Prod.fst
  /-- The struct itself is innermost. -/
  depth : f.depth = 0

variable {order : List Identifier} {complete : List (Identifier × List Event)}
  {inner inner' : List Event} {u : OpenPart Event} {f : OpenStruct} {name : Identifier}

theorem matches_new (order : List Identifier) (p : Path) (inner : List Event) (kind : EventKind) :
    Matches order inner { start := kind } { order := order, base := p } where
  accounts := ⟨rfl, by simp, by simp, by simp, by simp, by simp⟩
  progress := .idle rfl rfl rfl rfl
  blocked := by simp
  depth := rfl

/-- An event that is noted for the field in progress is kept further in, to begin with. -/
theorem Progress.note {current : Option (Identifier × List Event)}
    (h : f.Progress inner current) (e : Event) :
    f.Progress (inner ++ [e]) (current.map fun x ↦ (x.1, x.2 ++ [e])) := by
  cases h with
  | idle h hcurrent hholding hforwarded =>
    subst h
    exact .idle rfl hcurrent hholding hforwarded
  | other h hcurrent hname hholding hforwarded =>
    subst h
    exact .other rfl hcurrent hname hholding hforwarded
  | turn h hcurrent hname hholding hforwarded =>
    subst h
    exact .turn rfl hcurrent hname hholding hforwarded
  | early h hcurrent hname hturn hholding hkept hforwarded =>
    subst h
    refine .early rfl hcurrent hname hturn hholding ?_ hforwarded
    rw [← List.append_assoc]
    exact hkept.append_right [e]

/-- Where nothing is held back it does not matter what is kept further in. -/
theorem Progress.of_holding_none {current : Option (Identifier × List Event)}
    (h : f.Progress inner current) (hholding : f.holding = none) (inner' : List Event) :
    f.Progress inner' current := by
  cases h with
  | idle h hcurrent hholding hforwarded => exact .idle h hcurrent hholding hforwarded
  | other h hcurrent hname hholding hforwarded =>
    exact .other h hcurrent hname hholding hforwarded
  | turn h hcurrent hname hholding hforwarded => exact .turn h hcurrent hname hholding hforwarded
  | early _ _ _ _ hsome => simp [hholding] at hsome

theorem Progress.congr {current : Option (Identifier × List Event)} (h : f.Progress inner current)
    (hinner : inner.Perm inner') : f.Progress inner' current := by
  cases h with
  | idle h hcurrent hholding hforwarded => exact .idle h hcurrent hholding hforwarded
  | other h hcurrent hname hholding hforwarded =>
    exact .other h hcurrent hname hholding hforwarded
  | turn h hcurrent hname hholding hforwarded => exact .turn h hcurrent hname hholding hforwarded
  | early h hcurrent hname hturn hholding hkept hforwarded =>
    exact .early h hcurrent hname hturn hholding (hkept.trans (hinner.append_left _)) hforwarded

/-- Where a field is held back it takes in all that was kept further in. -/
theorem Progress.hold {current : Option (Identifier × List Event)} {events : List Event}
    (h : f.Progress inner current) (hholding : f.holding = some events) {es : List Event}
    (hinner : inner.Perm (inner' ++ es)) :
    Progress inner' current { f with holding := some (events ++ es) } := by
  cases h with
  | idle _ _ hnone | other _ _ _ hnone | turn _ _ _ hnone => simp [hholding] at hnone
  | early h hcurrent hname hturn hsome hkept hforwarded =>
    obtain rfl := Option.some.inj (hsome.symm.trans hholding)
    refine .early h hcurrent hname hturn rfl (hkept.trans ?_) hforwarded
    rw [List.append_assoc]
    exact (hinner.trans List.perm_append_comm).append_left _

/-- The field in progress is none of those before the turn. -/
theorem Accounts.mem_drop (h : f.Accounts order complete) (hcurrent : f.current = some name)
    (hname : name ∈ order) : name ∈ order.drop f.next := by
  rw [← List.take_append_drop f.next order, List.mem_append] at hname
  exact hname.resolve_left fun htake ↦ h.fresh name hcurrent (h.passed name htake)

theorem takeHeld_cases (hnodup : (f.held.map Prod.fst).Nodup) (name : Identifier) :
    (name ∉ f.held.map Prod.fst ∧ f.takeHeld name = none) ∨
      ∃ before events after, f.held = before ++ (name, events) :: after ∧
        f.takeHeld name = some (events, { f with held := before ++ after }) := by
  rw [takeHeld]
  cases hlookup : f.held.lookup name with
  | none =>
    rw [List.lookup_eq_none_iff] at hlookup
    refine .inl ⟨fun hmem ↦ ?_, rfl⟩
    obtain ⟨x, hx, rfl⟩ := List.mem_map.1 hmem
    simpa using hlookup x hx
  | some events =>
    obtain ⟨before, after, hheld, -⟩ := List.lookup_eq_some_iff.1 hlookup
    refine .inr ⟨before, events, after, hheld, ?_⟩
    rw [hheld, nodup_keys_middle] at hnodup
    have hfilter : f.held.filter (·.1 != name) = before ++ after := by
      have hother : ∀ x ∈ before ++ after, (x.1 != name) = true := fun x hx ↦
        bne_iff_ne.2 (key_ne_of_mem hnodup.1 hx)
      rw [hheld, List.filter_append, List.filter_cons_of_neg (by simp), ← List.filter_append,
        List.filter_eq_self.2 hother]
    simp only [Option.map_some, hfilter]

/-- A field that is new to a struct has not come before. -/
theorem Accounts.hasSeen_eq_false (h : f.Accounts order complete)
    (hforwarded : f.forwarded = order.take f.next) (hname : name ∉ complete.map Prod.fst) :
    f.hasSeen name = false := by
  have hlookup : f.held.lookup name = none := by
    rw [List.lookup_eq_none_iff]
    intro x hx
    obtain ⟨-, es, hes, -⟩ := h.held x hx
    rw [bne_iff_ne]
    exact (key_ne_of_mem hname hes).symm
  have htake : name ∉ order.take f.next := fun hmem ↦ hname (h.passed name hmem)
  simp [hasSeen, hlookup, hforwarded, htake]

/-- A field starts in a struct where none is in progress and that it is new to. -/
theorem Matches.startField (h : f.Matches order [] u) (hu : u.current = none)
    (hname : name ∉ u.names) (place : Path) :
    ∃ f', f.startField place name = (f', none) ∧ f'.waits = f.waits ∧
      f'.Matches order [] { u with current := some (name, []) } := by
  obtain ⟨haccounts, hprogress, hblocked, hdepth⟩ := h
  cases hprogress with
  | other h | turn h | early h => simp [hu] at h
  | idle _ _ hholding hforwarded =>
    have hseen := haccounts.hasSeen_eq_false (haccounts.order_eq ▸ hforwarded) hname
    obtain ⟨rfl, hpassed, hwaiting, hheld, hnodup, -⟩ := haccounts
    have hfresh : ∀ key, some name = some key → key ∉ u.complete.map Prod.fst := by
      rintro key ⟨⟩
      exact hname
    rw [Reorder.startField_of_holding_none hholding]
    simp only [hseen, Bool.false_eq_true, if_false]
    split_ifs with horder hturn
    · exact ⟨_, rfl, rfl, ⟨rfl, hpassed, hwaiting, hheld, hnodup, hfresh⟩,
        .other rfl rfl (by simpa using horder) hholding hforwarded, hblocked, hdepth⟩
    · have hturn' : f.order[f.next]? = some name := hturn
      exact ⟨_, rfl, rfl, ⟨rfl, hpassed, hwaiting, hheld, hnodup, hfresh⟩,
        .turn rfl rfl hturn hholding (by simp [hforwarded, List.take_add_one, hturn']), hblocked,
        hdepth⟩
    · exact ⟨_, rfl, by simp [waits, hholding], ⟨rfl, hpassed, hwaiting, hheld, hnodup, hfresh⟩,
        .early rfl rfl (by simpa using horder) hturn rfl (.refl _) hforwarded, hblocked, hdepth⟩

/-- Between two fields nothing is in progress. -/
theorem Matches.idle (h : f.Matches order inner u) (hu : u.current = none) :
    f.current = none ∧ f.holding = none := by
  cases h.progress with
  | idle _ hcurrent hholding => exact ⟨hcurrent, hholding⟩
  | other h | turn h | early h => simp [hu] at h

/-! ### The turn passes on -/

section
variable {later : List Identifier}

theorem drop_of_turn {i : Nat} (h : order.drop i = name :: later) : order.drop (i + 1) = later := by
  rw [← List.drop_drop, h, List.drop_one, List.tail_cons]

theorem getElem?_of_turn {i : Nat} (h : order.drop i = name :: later) : order[i]? = some name := by
  rw [← List.head?_drop, h, List.head?_cons]

theorem take_of_turn {i : Nat} (h : order.drop i = name :: later) :
    order.take (i + 1) = order.take i ++ [name] := by
  rw [List.take_add_one, getElem?_of_turn h, Option.toList_some]

theorem drop_of_nextField (horder : f.order = order) (h : f.nextField = some name) :
    order.drop f.next = name :: order.drop (f.next + 1) := by
  rw [nextField, horder] at h
  obtain ⟨hlt, rfl⟩ := List.getElem?_eq_some_iff.1 h
  exact List.drop_eq_getElem_cons hlt

/-- A field that the order does not name is complete. -/
theorem Accounts.finish_other (h : f.Accounts order complete) (hname : name ∉ order)
    (es : List Event) : Accounts order (complete ++ [(name, es)]) { f with current := none } where
  order_eq := h.order_eq
  passed key hkey := by simpa using .inl (by simpa using h.passed key hkey)
  waiting key hkey hdrop := by
    have hne : key ≠ name := fun heq ↦ hname (heq ▸ List.mem_of_mem_drop hdrop)
    exact h.waiting key (by simpa [hne] using hkey) hdrop
  held x hx := by
    obtain ⟨hdrop, es', hes', hperm⟩ := h.held x hx
    exact ⟨hdrop, es', List.mem_append_left _ hes', hperm⟩
  nodup := h.nodup
  fresh := nofun

/-- A field whose turn it is is complete. -/
theorem Accounts.finish_turn (h : f.Accounts order complete) (hnodup : order.Nodup)
    (hturns : order.drop f.next = name :: later) (hname : name ∉ f.held.map Prod.fst)
    (es : List Event) :
    Accounts order (complete ++ [(name, es)]) { f with current := none, next := f.next + 1 } where
  order_eq := h.order_eq
  passed key hkey := by
    rw [take_of_turn hturns, List.mem_append, List.mem_singleton] at hkey
    simpa using hkey.imp_left fun hkey ↦ by simpa using h.passed key hkey
  waiting key hkey hdrop := by
    rw [drop_of_turn hturns] at hdrop
    have hne : key ≠ name := by
      rintro rfl
      have hlater : (key :: later).Nodup := hturns ▸ hnodup.drop
      exact (List.nodup_cons.1 hlater).1 hdrop
    exact h.waiting key (by simpa [hne] using hkey) (by simp [hturns, hdrop])
  held x hx := by
    obtain ⟨hdrop, es', hes', hperm⟩ := h.held x hx
    rw [hturns, List.mem_cons] at hdrop
    refine ⟨?_, es', List.mem_append_left _ hes', hperm⟩
    rw [drop_of_turn hturns]
    exact hdrop.resolve_left (key_ne_of_mem hname hx)
  nodup := h.nodup
  fresh := nofun

/-- A field that was held back is complete. -/
theorem Accounts.finish_early (h : f.Accounts order complete) (hcurrent : f.current = some name)
    (hname : name ∈ order) {es kept : List Event} (hkept : es.Perm kept) :
    Accounts order (complete ++ [(name, es)])
      { f with current := none, holding := none, held := (name, kept) :: f.held } where
  order_eq := h.order_eq
  passed key hkey := by simpa using .inl (by simpa using h.passed key hkey)
  waiting key hkey hdrop := by
    simp only [List.map_append, List.map_singleton, List.mem_append, List.mem_singleton] at hkey
    rw [List.map_cons, List.mem_cons]
    exact hkey.symm.imp_right fun hkey ↦ h.waiting key hkey hdrop
  held x hx := by
    obtain rfl | hx := List.mem_cons.1 hx
    · exact ⟨h.mem_drop hcurrent hname, es, by simp, hkept⟩
    · obtain ⟨hdrop, es', hes', hperm⟩ := h.held x hx
      exact ⟨hdrop, es', List.mem_append_left _ hes', hperm⟩
  nodup := by
    rw [List.map_cons, List.nodup_cons]
    refine ⟨fun hmem ↦ ?_, h.nodup⟩
    obtain ⟨x, hx, rfl⟩ := List.mem_map.1 hmem
    obtain ⟨-, es', hes', -⟩ := h.held x hx
    exact h.fresh x.1 hcurrent (List.mem_map.2 ⟨_, hes', rfl⟩)
  fresh := nofun

/-- A field that was held leaves when its turn comes. -/
theorem Accounts.release (h : f.Accounts order complete) (hcurrent : f.current = none)
    (hnodup : order.Nodup) (hturns : order.drop f.next = name :: later) {events : List Event}
    {before after : List (Identifier × List Event)}
    (hheld : f.held = before ++ (name, events) :: after) :
    Accounts order complete { f with
      held := before ++ after, next := f.next + 1, forwarded := f.forwarded ++ [name] } := by
  have hkeys := h.nodup
  rw [hheld, nodup_keys_middle] at hkeys
  refine ⟨h.order_eq, fun key hkey ↦ ?_, fun key hkey hdrop ↦ ?_, fun x hx ↦ ?_, hkeys.2,
    fun key hkey ↦ by simp [hcurrent] at hkey⟩
  · rw [take_of_turn hturns, List.mem_append, List.mem_singleton] at hkey
    obtain hkey | rfl := hkey
    · exact h.passed key hkey
    · obtain ⟨-, es, hes, -⟩ := h.held (key, events) (by simp [hheld])
      exact List.mem_map.2 ⟨_, hes, rfl⟩
  · rw [drop_of_turn hturns] at hdrop
    have hlater : (name :: later).Nodup := hturns ▸ hnodup.drop
    have hne : key ≠ name := fun heq ↦ (List.nodup_cons.1 hlater).1 (heq ▸ hdrop)
    have hwaiting := h.waiting key hkey (by simp [hturns, hdrop])
    rw [hheld] at hwaiting
    simpa [hne] using hwaiting
  · obtain ⟨hdrop, hes⟩ := h.held x (hheld ▸ mem_middle_of_mem hx)
    rw [hturns, List.mem_cons] at hdrop
    refine ⟨?_, hes⟩
    rw [drop_of_turn hturns]
    exact hdrop.resolve_left (key_ne_of_mem hkeys.1 hx)

/-- The frame is that of a struct between two of its fields, whether or not what could leave has
left. -/
structure Idle (order : List Identifier) (complete : List (Identifier × List Event))
    (f : OpenStruct) : Prop where
  /-- The complete fields. -/
  accounts : f.Accounts order complete
  /-- No field is in progress. -/
  current : f.current = none
  /-- Nothing is being held back. -/
  holding : f.holding = none
  /-- The fields that have left are those before the turn. -/
  forwarded : f.forwarded = order.take f.next
  /-- The struct itself is innermost. -/
  depth : f.depth = 0

/-- Once what could leave has left. -/
theorem Idle.matches (h : f.Idle order u.complete) (hu : u.current = none)
    (hblocked : ∀ name ∈ (order.drop f.next).head?, name ∉ f.held.map Prod.fst) :
    f.Matches order [] u where
  accounts := h.accounts
  progress := .idle hu h.current h.holding (h.accounts.order_eq ▸ h.forwarded)
  blocked name hname := by
    rw [nextField, h.accounts.order_eq, ← List.head?_drop] at hname
    exact hblocked name hname
  depth := h.depth

theorem Idle.release (h : f.Idle order complete) (hnodup : order.Nodup)
    (hturns : order.drop f.next = name :: later) {events : List Event}
    {before after : List (Identifier × List Event)}
    (hheld : f.held = before ++ (name, events) :: after) :
    Idle order complete { f with
      held := before ++ after, next := f.next + 1, forwarded := f.forwarded ++ [name] } where
  accounts := h.accounts.release h.current hnodup hturns hheld
  current := h.current
  holding := h.holding
  forwarded := by rw [h.forwarded, take_of_turn hturns]
  depth := h.depth

end

/-! ### The field in progress is complete -/

/-- A field that was not held back is complete. -/
theorem Matches.finish_passing (h : f.Matches order inner u) (hnodup : order.Nodup)
    (hu : u.current.isSome = true) (hholding : f.holding = none) :
    ∃ name next, f.current = some name ∧
      (if f.nextField = some name then f.next + 1 else f.next) = next ∧
      Idle order u.finishField.complete { f with current := none, next := next } := by
  have horder := h.accounts.order_eq
  cases h.progress with
  | idle hnone => simp [hnone] at hu
  | early _ _ _ _ hsome => simp [hholding] at hsome
  | @other name es hcurrent hname hnot _ hforwarded =>
    have hturn : f.nextField ≠ some name := fun heq ↦ hnot (List.mem_of_getElem? heq)
    rw [horder] at hnot hforwarded
    refine ⟨name, f.next, hname, if_neg hturn, ?_, rfl, hholding, hforwarded, h.depth⟩
    rw [OpenPart.complete_finishField hcurrent]
    exact h.accounts.finish_other hnot es
  | @turn name es hcurrent hname hturn _ hforwarded =>
    rw [horder] at hforwarded
    refine ⟨name, f.next + 1, hname, if_pos hturn, ?_, rfl, hholding, hforwarded, h.depth⟩
    rw [OpenPart.complete_finishField hcurrent]
    exact h.accounts.finish_turn hnodup (drop_of_nextField horder hturn) (h.blocked name hturn) es

/-- A field that was held back is complete, and now it waits. -/
theorem Matches.finish_held (h : f.Matches order [] u) {kept : List Event}
    (hholding : f.holding = some kept) :
    ∃ name, f.current = some name ∧ f.nextField ≠ some name ∧
      Matches order [] u.finishField
        { f with current := none, holding := none, held := (name, kept) :: f.held } := by
  have horder := h.accounts.order_eq
  cases h.progress with
  | idle _ _ hnone | other _ _ _ hnone | turn _ _ _ hnone => simp [hholding] at hnone
  | @early name es _ hcurrent hname hmem hturn hsome hkept hforwarded =>
    obtain rfl := Option.some.inj (hholding.symm.trans hsome)
    rw [horder] at hmem hforwarded
    rw [List.append_nil] at hkept
    have hidle : Idle order u.finishField.complete
        { f with current := none, holding := none, held := (name, kept) :: f.held } := by
      refine ⟨?_, rfl, rfl, hforwarded, h.depth⟩
      rw [OpenPart.complete_finishField hcurrent]
      exact h.accounts.finish_early hname hmem hkept
    refine ⟨name, hname, hturn, hidle.matches rfl fun key hkey ↦ ?_⟩
    rw [List.head?_drop, ← horder] at hkey
    have hne : key ≠ name := fun heq ↦ hturn (heq ▸ hkey)
    simpa [hne] using h.blocked key hkey

end OpenStruct

end ValueStream
