import ValueStream.ModelError

/-!
# Identifiers

An identifier names a field of a map or struct, or one value of an enum: an ASCII lower-case
letter, then ASCII letters, digits, hyphens and underscores. The text is carried together with the
proof that it is one, so that every identifier in a value or a path is valid by construction.
-/

namespace ValueStream

namespace Identifier

/-- The characters an identifier may start with. -/
def isHead (c : Char) : Bool := c.isLower

/-- The characters an identifier may go on with. -/
def isTail (c : Char) : Bool := c.isAlphanum || c == '-' || c == '_'

/-- Whether the characters form an identifier. -/
def isValid : List Char → Bool
  | [] => false
  | c :: rest => isHead c && rest.all isTail

end Identifier

/-- The name of a field or of an enum value. -/
structure Identifier where
  /-- The identifier as written. -/
  text : String
  /-- The text is an identifier. -/
  valid : Identifier.isValid text.toList = true
deriving DecidableEq

namespace Identifier

/-- Reads an identifier. -/
def parse (s : String) : Except ModelError Identifier :=
  if h : isValid s.toList = true then .ok ⟨s, h⟩ else .error (.invalidIdentifier s)

theorem ext {a b : Identifier} (h : a.text = b.text) : a = b := by
  cases a; cases b; simp_all

theorem ext_iff {a b : Identifier} : a = b ↔ a.text = b.text := ⟨fun h ↦ h ▸ rfl, ext⟩

theorem parse_eq_ok_iff {s : String} {i : Identifier} : parse s = .ok i ↔ i.text = s := by
  unfold parse
  split
  · simp [ext_iff, eq_comm]
  · next h =>
    simp only [reduceCtorEq, false_iff]
    rintro rfl
    exact h i.valid

@[simp] theorem parse_text (i : Identifier) : parse i.text = .ok i := parse_eq_ok_iff.2 rfl

/-- An identifier has a first character. -/
theorem exists_head (i : Identifier) :
    ∃ c rest, i.text.toList = c :: rest ∧ isHead c = true ∧ ∀ d ∈ rest, isTail d = true := by
  have hvalid := i.valid
  cases htext : i.text.toList with
  | nil =>
    rw [htext] at hvalid
    cases hvalid
  | cons c rest =>
    rw [htext, isValid, Bool.and_eq_true, List.all_eq_true] at hvalid
    exact ⟨c, rest, rfl, hvalid⟩

theorem isTail_of_isHead {c : Char} (h : isHead c = true) : isTail c = true := by
  have hletter : c.isAlpha = true := Bool.or_eq_true_iff.2 (.inr h)
  have halphanum : c.isAlphanum = true := Bool.or_eq_true_iff.2 (.inl hletter)
  simp [isTail, halphanum]

theorem isTail_of_mem (i : Identifier) : ∀ c ∈ i.text.toList, isTail c = true := by
  obtain ⟨c, rest, htext, hc, hrest⟩ := i.exists_head
  intro d hd
  rw [htext] at hd
  rcases List.mem_cons.1 hd with rfl | hd
  · exact isTail_of_isHead hc
  · exact hrest d hd

/-- The text with the name of its type. -/
def debugText (i : Identifier) : String := "Identifier(" ++ i.text ++ ")"

/-- The order of the texts, by code points. -/
def order (a b : Identifier) : Ordering := compareOfLessAndEq a.text b.text

end Identifier

end ValueStream
