import ValueStream.Proofs.Checker.Language

/-!
# What a checker looks at

Of an event a checker looks at little: which field starts, and otherwise whether a value comes as a
whole, a list starts, something with fields starts, or something ends. This is the outline of the
event. Where a value of any shape may come, events of the same outlines are checked alike
(`run_eq_of_outlines`), so that a stage may change what else the events say and still hand on what a
stream begins with (`BeginsStream.of_outlines`).
-/

namespace ValueStream

open Nesting

namespace EventKind

/-- The event without what a checker does not look at. -/
def outline : EventKind → EventKind
  | value _ => value .null
  | listStart _ => listStart .opaque_
  | mapStart | structStart _ => mapStart
  | fieldStart name => fieldStart name
  | close => close

variable {k l : EventKind}

theorem completesValue_eq_of_outline (h : k.outline = l.outline) :
    k.completesValue = l.completesValue := by
  cases k <;> cases l <;> simp_all [outline, completesValue]

theorem enter_eq_of_outline (h : k.outline = l.outline) (n : Nesting) : n.enter k = n.enter l := by
  cases k <;> cases l <;> simp_all [outline, Nesting.enter]

theorem eq_fieldStart_of_outline {name : Identifier} (h : outline (fieldStart name) = l.outline) :
    l = fieldStart name := by
  cases l <;> simp_all [outline]

theorem eq_close_of_outline (h : outline close = l.outline) : l = close := by
  cases l <;> simp_all [outline]

end EventKind

namespace Checker

variable {c : Checker} {k l : EventKind}

/-- Where a value of any shape may come, it may begin with any event. -/
theorem Awaits.of_any (htop : c.top = .value) (h : c.Awaits k) (l : EventKind) : c.Awaits l := by
  obtain ⟨hdone, hobstacle⟩ := h
  refine ⟨hdone, ?_⟩
  rcases hn : c.nesting with _ | ⟨⟨_ | pending, seen⟩ | position | name, n⟩
  · simp [valueObstacle, hn, htop, TopType.admits]
  · simp [valueObstacle, hn] at hobstacle
  all_goals simp [valueObstacle, hn]

theorem enter_eq_of_outline (htop : c.top = .value) (h : k.outline = l.outline)
    (haccepted : (c.enter k).2 = none) : c.enter l = c.enter k := by
  by_cases hfield : ∃ name, k = .fieldStart name
  · obtain ⟨name, rfl⟩ := hfield
    rw [EventKind.eq_fieldStart_of_outline h]
  by_cases hclose : k = .close
  · subst hclose
    rw [EventKind.eq_close_of_outline h]
  -- What remains are starts and whole values, which change the nesting by their outlines.
  have hk : ∀ name, k ≠ .fieldStart name := fun name hk ↦ hfield ⟨name, hk⟩
  have hl : ∀ name, l ≠ .fieldStart name := by
    rintro name rfl
    exact hk name (EventKind.eq_fieldStart_of_outline h.symm)
  have hlclose : l ≠ .close := by
    rintro rfl
    exact hclose (EventKind.eq_close_of_outline h.symm)
  have hawaits := awaits_of_enter haccepted hk hclose
  rw [enter_eq_of_awaits hawaits hk hclose, enter_eq_of_awaits (hawaits.of_any htop l) hl hlclose,
    EventKind.enter_eq_of_outline h]

theorem top_enter (c : Checker) (kind : EventKind) (h : (c.enter kind).2 = none) :
    (c.enter kind).1.top = c.top := by
  cases kind with
  | fieldStart name =>
    obtain ⟨seen, n, -, -, -, henter⟩ := enter_fieldStart_inv h
    rw [henter]
    rfl
  | close =>
    obtain ⟨f, n, -, -, -, henter⟩ := enter_close_inv h
    rw [henter]
  | value v | listStart type | mapStart | structStart type =>
    rw [enter_eq_of_awaits (awaits_of_enter h (by simp) (by simp)) (by simp) (by simp)]

theorem top_leave (c : Checker) (kind : EventKind) : (c.leave kind).top = c.top := by
  cases h : kind.completesValue <;> simp [leave, h]

/-- What follows an accepted event is accepted too if the whole is. -/
theorem run_cons_eq_none_iff {kind : EventKind} {kinds : List EventKind} :
    (c.run (kind :: kinds)).2 = none ↔
      (c.enter kind).2 = none ∧ (((c.enter kind).1.leave kind).run kinds).2 = none := by
  rw [run]
  split <;> simp_all

/-- Events that are accepted may be replaced by others of the same outlines. -/
theorem run_eq_of_outlines (htop : c.top = .value) {ks ls : List EventKind}
    (h : ks.map EventKind.outline = ls.map EventKind.outline) (haccepted : (c.run ks).2 = none) :
    c.run ls = c.run ks := by
  induction ks generalizing c ls with
  | nil =>
    obtain rfl : ls = [] := by simpa using h.symm
    rfl
  | cons k ks ih =>
    obtain ⟨l, ls, rfl⟩ : ∃ l more, ls = l :: more :=
      List.exists_cons_of_ne_nil (by rintro rfl; simp at h)
    obtain ⟨hkind, hkinds⟩ := List.cons.inj h
    obtain ⟨henter, hlater⟩ := run_cons_eq_none_iff.1 haccepted
    have hsame := enter_eq_of_outline htop hkind henter
    have hleave : (c.enter k).1.leave l = (c.enter k).1.leave k := by
      simp [leave, EventKind.completesValue_eq_of_outline hkind]
    have htop' : ((c.enter k).1.leave k).top = .value := by
      rw [top_leave, top_enter c k henter, htop]
    rw [run_cons henter, run_cons (hsame ▸ henter), hsame, hleave]
    exact ih htop' hkinds hlater

end Checker

/-- A stream whose events are replaced by others of the same outlines is one still. -/
theorem IsValueStream.of_outlines {kinds others : List EventKind} (h : IsValueStream kinds)
    (hothers : kinds.map EventKind.outline = others.map EventKind.outline) :
    IsValueStream others := by
  have hrun := Checker.run_complete_iff.2 ⟨h, fun first _ ↦ (rfl : TopType.value.admits first = _)⟩
  have hsame := Checker.run_eq_of_outlines rfl hothers (congrArg Prod.snd hrun)
  exact (Checker.run_complete_iff.1 (hsame.trans hrun)).1

namespace BeginsStream

variable {top : TopType} {kinds : List EventKind}

theorem of_isPrefix {first : List EventKind} (h : BeginsStream top kinds)
    (hfirst : first <+: kinds) : BeginsStream top first := by
  obtain ⟨later, rfl⟩ := hfirst
  obtain ⟨⟨rest, hs⟩, hadmits⟩ := h
  refine ⟨⟨later ++ rest, by rwa [← List.append_assoc]⟩, fun kind hkind ↦ hadmits kind ?_⟩
  cases first with
  | nil => cases hkind
  | cons kind' first => exact hkind

/-- A stream of a shape is a stream of any. -/
theorem value (h : BeginsStream top kinds) : BeginsStream .value kinds := ⟨h.1, fun _ _ ↦ rfl⟩

theorem of_outlines {others : List EventKind} (h : BeginsStream .value kinds)
    (hothers : kinds.map EventKind.outline = others.map EventKind.outline) :
    BeginsStream .value others := by
  rw [← Checker.run_eq_none_iff] at h ⊢
  rw [Checker.run_eq_of_outlines rfl hothers h]
  exact h

end BeginsStream

end ValueStream
