import ValueStream.Proofs.Number.Spelling
import ValueStream.StreamError

/-!
# What the text of a path says

The steps of a path are written one behind the other, with nothing that says where a step ends. But
every step begins with a mark, a dot or an opening bracket, and has no mark further on: identifiers
have none, nor has a number in its brackets. So the next mark is where the next step begins, and the
text can be cut into steps in one way only. A dot is left out in front of a field that comes first,
where it is not missed, since a letter at the beginning can be nothing but a field.

In an error a colon follows the path. Identifiers do not have that either, so it is a mark like the
others, and all is proved of texts in which a colon follows (`Path.chars_append_inj`). Both results
come from there: the text of a path alone says which path it is, and so does the text of an error,
whatever colons its message has (`Path.text_names_location`).
-/

namespace ValueStream

/-! ## Steps -/

namespace Segment

/-- The characters that a step begins with, and the colon that follows the path in an error. -/
def isMark (c : Char) : Bool := c == '.' || c == '[' || c == ':'

/-- The mark that the step begins with. -/
def mark : Segment → Char
  | field _ => '.'
  | index _ => '['

/-- What follows the mark. -/
def body : Segment → List Char
  | field name => name.text.toList
  | index position => Nat.toDigits 10 position ++ [']']

variable {s t : Segment}

theorem chars_eq_cons (s : Segment) : s.chars = s.mark :: s.body := by
  cases s <;> rfl

theorem isMark_mark (s : Segment) : isMark s.mark = true := by
  cases s <;> rfl

theorem isMark_eq_false_of_isAlphanum {c : Char} (h : c.isAlphanum = true) : isMark c = false := by
  rw [Bool.eq_false_iff]
  intro hmark
  obtain (rfl | rfl) | rfl : (c = '.' ∨ c = '[') ∨ c = ':' := by simpa [isMark] using hmark
  all_goals cases h

/-- **A step has no mark but its first character.** -/
theorem isMark_of_mem_body (s : Segment) : ∀ c ∈ s.body, isMark c = false := by
  intro c hc
  cases s with
  | field name =>
    have htail := name.isTail_of_mem c hc
    rw [Identifier.isTail, Bool.or_eq_true, Bool.or_eq_true, beq_iff_eq, beq_iff_eq] at htail
    rcases htail with (halphanum | rfl) | rfl
    · exact isMark_eq_false_of_isAlphanum halphanum
    · rfl
    · rfl
  | index position =>
    rcases List.mem_append.1 hc with hc | hc
    · have hdigit : c.isDigit = true := (DigitsSpell.toDigits position).isDigit c hc
      exact isMark_eq_false_of_isAlphanum (Bool.or_eq_true_iff.2 (.inr hdigit))
    · rw [List.mem_singleton.1 hc]
      rfl

/-- The mark says which kind of step it is, and the rest which one of its kind. -/
theorem eq_of_mark_of_body (hmark : s.mark = t.mark) (hbody : s.body = t.body) : s = t := by
  cases s with
  | field name =>
    cases t with
    | field other => rw [Identifier.ext (String.toList_inj.1 hbody)]
    | index j => cases hmark
  | index i =>
    cases t with
    | field other => cases hmark
    | index j =>
      have hdigits : Nat.toDigits 10 i = Nat.toDigits 10 j := List.append_cancel_right hbody
      have hspell : DigitsSpell (Nat.toDigits 10 j) i := hdigits ▸ DigitsSpell.toDigits i
      rw [hspell.unique (.toDigits j)]

/-- The part of a text before its first mark. -/
theorem takeWhile_append_mark {x u : List Char} {c : Char} (hx : ∀ a ∈ x, isMark a = false)
    (hc : isMark c = true) : (x ++ c :: u).takeWhile (fun a ↦ !isMark a) = x := by
  rw [List.takeWhile_append_of_pos (by simpa using hx), List.takeWhile_cons_of_neg (by simp [hc]),
    List.append_nil]

/-- Steps that a mark follows are cut off in one way. -/
theorem chars_append_mark_inj {u v : List Char} {c d : Char} (hc : isMark c = true)
    (hd : isMark d = true) (h : s.chars ++ c :: u = t.chars ++ d :: v) :
    s = t ∧ c :: u = d :: v := by
  rw [chars_eq_cons, chars_eq_cons, List.cons_append, List.cons_append] at h
  obtain ⟨hmark, hrest⟩ := List.cons.inj h
  have hbody : s.body = t.body := by
    rw [← takeWhile_append_mark s.isMark_of_mem_body hc, hrest,
      takeWhile_append_mark t.isMark_of_mem_body hd]
  rw [hbody] at hrest
  exact ⟨eq_of_mark_of_body hmark hbody, List.append_cancel_left hrest⟩

end Segment

/-! ## Paths -/

namespace Path

open Segment

variable {steps others : List Segment} {u v : List Char} {p q : Path}

/-- What follows a step begins with a mark, whether that is the next step or the colon. -/
theorem exists_mark (steps : List Segment) (rest : List Char) :
    ∃ c u, isMark c = true ∧ steps.flatMap Segment.chars ++ ':' :: rest = c :: u := by
  cases steps with
  | nil => exact ⟨':', rest, rfl, rfl⟩
  | cons s steps =>
    refine ⟨s.mark, s.body ++ steps.flatMap Segment.chars ++ ':' :: rest, s.isMark_mark, ?_⟩
    rw [List.flatMap_cons, chars_eq_cons, List.cons_append, List.cons_append]

theorem flatMap_chars_append_inj
    (h : steps.flatMap Segment.chars ++ ':' :: u = others.flatMap Segment.chars ++ ':' :: v) :
    steps = others ∧ u = v := by
  induction steps generalizing others with
  | nil =>
    cases others with
    | nil => exact ⟨rfl, (List.cons.inj h).2⟩
    | cons t others =>
      rw [List.flatMap_cons, chars_eq_cons] at h
      cases t <;> cases (List.cons.inj h).1
  | cons s steps ih =>
    cases others with
    | nil =>
      rw [List.flatMap_cons, chars_eq_cons] at h
      cases s <;> cases (List.cons.inj h).1
    | cons t others =>
      rw [List.flatMap_cons, List.flatMap_cons, List.append_assoc, List.append_assoc] at h
      -- Behind both first steps there is a mark, so they are cut off at the same place.
      obtain ⟨c, u', hc, hu⟩ := exists_mark steps u
      obtain ⟨d, v', hd, hv⟩ := exists_mark others v
      rw [hu, hv] at h
      obtain ⟨rfl, hrest⟩ := chars_append_mark_inj hc hd h
      rw [← hu, ← hv] at hrest
      obtain ⟨rfl, rfl⟩ := ih hrest
      exact ⟨rfl, rfl⟩

/-- The text with the dot that is left out in front of a field at the beginning. -/
def dotted : List Char → List Char
  | [] => []
  | c :: rest => if Identifier.isHead c then '.' :: c :: rest else c :: rest

theorem dotted_chars_append (steps : List Segment) (rest : List Char) :
    dotted (chars steps ++ ':' :: rest) = steps.flatMap Segment.chars ++ ':' :: rest := by
  cases steps with
  | nil => rfl
  | cons s steps =>
    cases s with
    | index position => rfl
    | field name =>
      obtain ⟨c, tail, htext, hc, -⟩ := name.exists_head
      simp [chars, dotted, Segment.chars, htext, hc]

/-- **A path that a colon follows is cut off in one way.** -/
theorem chars_append_inj (h : chars steps ++ ':' :: u = chars others ++ ':' :: v) :
    steps = others ∧ u = v := by
  apply flatMap_chars_append_inj
  rw [← dotted_chars_append, ← dotted_chars_append, h]

theorem text_inj : p.text = q.text ↔ p.segments = q.segments := by
  constructor
  · intro h
    have hchars : chars p.segments = chars q.segments := String.ofList_injective h
    have hcolon : chars p.segments ++ [':'] = chars q.segments ++ [':'] := by rw [hchars]
    exact (chars_append_inj hcolon).1
  · intro h
    rw [Path.ext h]

/-! ## Paths in errors -/

/-- An error that is not at the root shows its path, a colon and its message. -/
theorem text_of_ne_root {e : StreamError} (h : e.path ≠ .root) :
    e.text = e.path.text ++ ": " ++ e.message := by
  rw [StreamError.text, if_neg (mt isRoot_iff.1 h)]

theorem toList_text_append (p : Path) (message : String) :
    (p.text ++ ": " ++ message).toList =
      chars p.segments ++ ':' :: ' ' :: message.toList := by
  simp [text]

/-- **The text of a path names the path.** Two paths have the same text only if they have the same
steps, however the paths were put together, since whatever extends, joins and shortens paths makes
lists of steps. Hence an error that shows a path, as all do but those at the root, shows one
location: there is only one path that its text can begin with, in front of a colon, whatever message
is taken to follow. -/
theorem text_names_location :
    (∀ p q : Path, p.text = q.text ↔ p.segments = q.segments) ∧
    ∀ e : StreamError, e.path ≠ .root →
      ∀ p : Path, (∃ message, e.text = p.text ++ ": " ++ message) ↔ p = e.path := by
  refine ⟨fun p q ↦ text_inj, ?_⟩
  intro e he p
  rw [text_of_ne_root he]
  constructor
  · rintro ⟨message, h⟩
    rw [← String.toList_inj, toList_text_append, toList_text_append] at h
    exact Path.ext (chars_append_inj h).1.symm
  · rintro rfl
    exact ⟨e.message, rfl⟩

/-- A position of two digits is not two positions, nor is a colon in the message a part of the
path. -/
theorem text_names_location_of_two_digits :
    let a : Identifier := ⟨"a", by decide⟩
    let p := ((Path.root.field a).index 12).field a
    let q := (((Path.root.field a).index 1).index 2).field a
    let e := StreamError.value p (.badVariable "[0].b: ")
    p.text = "a[12].a" ∧ p.text ≠ q.text ∧
      e.path ≠ .root ∧ e.text = "a[12].a: Bad variable: [0].b: " ∧
      ∀ r : Path, (∃ message, "a[12].a: Bad variable: [0].b: " = r.text ++ ": " ++ message) ↔
        r = p := by
  intro a p q e
  obtain ⟨htext, hshown⟩ := text_names_location
  have hne : p.segments ≠ q.segments := by decide
  have he : e.path ≠ .root := by decide
  have herror : e.text = "a[12].a: Bad variable: [0].b: " := by decide
  exact ⟨by decide, fun h ↦ hne ((htext p q).1 h), he, herror, herror ▸ hshown e he⟩

end Path

end ValueStream
