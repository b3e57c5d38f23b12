import ValueStream.Text.Blank
import ValueStream.ModelError

/-!
# Qualified names

A type is named by the namespace that declares it and its name there, written `namespace/Name`.
The namespace holds an at sign, no slash and no blank; the name is an ASCII capital followed by
ASCII letters and digits. Neither part can hold a slash, so the written form is cut at its last
slash and can be cut in no other way.
-/

namespace ValueStream

namespace QualifiedName

/-- Whether the characters form a namespace. -/
def isNamespace (cs : List Char) : Bool :=
  cs.contains '@' && !cs.contains '/' && !cs.any Text.isBlank

/-- Whether the characters form the name of a type in its namespace. -/
def isName : List Char → Bool
  | [] => false
  | c :: rest => c.isUpper && rest.all Char.isAlphanum

end QualifiedName

/-- The name of a type together with the namespace declaring it. -/
structure QualifiedName where
  /-- The namespace. -/
  space : String
  /-- The name in the namespace. -/
  name : String
  /-- The first part is a namespace. -/
  space_valid : QualifiedName.isNamespace space.toList = true
  /-- The second part is a name. -/
  name_valid : QualifiedName.isName name.toList = true
deriving DecidableEq

namespace QualifiedName

theorem ext {a b : QualifiedName} (hs : a.space = b.space) (hn : a.name = b.name) : a = b := by
  cases a; cases b; simp_all

/-- Makes a name of its two parts. -/
def ofParts (space name : String) : Except ModelError QualifiedName :=
  if h : isNamespace space.toList = true ∧ isName name.toList = true then
    .ok ⟨space, name, h.1, h.2⟩
  else .error (.invalidTypeName (space ++ "/" ++ name))

/-- Cuts a text at its last slash. -/
def cutLast : List Char → Option (List Char × List Char)
  | [] => none
  | c :: rest =>
    match cutLast rest with
    | some (before, after) => some (c :: before, after)
    | none => if c = '/' then some ([], rest) else none

/-- Reads the written form. -/
def parse (s : String) : Except ModelError QualifiedName :=
  match cutLast s.toList with
  | some (before, after) => ofParts (String.ofList before) (String.ofList after)
  | none => .error (.invalidTypeName s)

/-- The written form, `namespace/Name`. -/
def text (q : QualifiedName) : String := q.space ++ "/" ++ q.name

/-- The written form with the name of its type. -/
def debugText (q : QualifiedName) : String := "QualifiedTypeName(" ++ q.text ++ ")"

/-- Names are ordered by namespace, then by name, each by code points. -/
def order (a b : QualifiedName) : Ordering :=
  (compareOfLessAndEq a.space b.space).then (compareOfLessAndEq a.name b.name)

/-! ## Cutting at the last slash -/

theorem cutLast_eq_none_iff {cs : List Char} : cutLast cs = none ↔ '/' ∉ cs := by
  induction cs with
  | nil => simp [cutLast]
  | cons c rest ih =>
    cases h : cutLast rest with
    | some p => simp [cutLast, h, ← ih]
    | none =>
      have hr : '/' ∉ rest := ih.1 h
      by_cases hc : c = '/'
      · simp [cutLast, h, hc]
      · simp [cutLast, h, hc, hr, Ne.symm hc]

theorem cutLast_eq_some_iff {cs before after : List Char} :
    cutLast cs = some (before, after) ↔ cs = before ++ '/' :: after ∧ '/' ∉ after := by
  induction cs generalizing before after with
  | nil => simp [cutLast]
  | cons c rest ih =>
    cases h : cutLast rest with
    | some p =>
      obtain ⟨b, a⟩ := p
      have hr := ih.1 h
      simp only [cutLast, h, Option.some.injEq, Prod.mk.injEq]
      constructor
      · rintro ⟨rfl, rfl⟩
        exact ⟨by rw [hr.1]; rfl, hr.2⟩
      · rintro ⟨he, ha⟩
        cases before with
        | nil =>
          have : '/' ∈ rest := by rw [hr.1]; simp
          simp only [List.nil_append, List.cons.injEq] at he
          exact absurd (he.2 ▸ this) ha
        | cons d before =>
          simp only [List.cons_append, List.cons.injEq] at he
          have := h.symm.trans (ih.2 ⟨he.2, ha⟩)
          simp only [Option.some.injEq, Prod.mk.injEq] at this
          exact ⟨by rw [he.1, this.1], this.2⟩
    | none =>
      have hr : '/' ∉ rest := cutLast_eq_none_iff.1 h
      by_cases hc : c = '/'
      · subst hc
        simp only [cutLast, h, if_true, Option.some.injEq, Prod.mk.injEq]
        constructor
        · rintro ⟨rfl, rfl⟩
          exact ⟨rfl, hr⟩
        · rintro ⟨he, ha⟩
          cases before with
          | nil => simpa using he
          | cons d before =>
            simp only [List.cons_append, List.cons.injEq] at he
            exact absurd (by rw [he.2]; simp) hr
      · simp only [cutLast, h, hc, if_false, reduceCtorEq, false_iff]
        rintro ⟨he, -⟩
        cases before with
        | nil => simp only [List.nil_append, List.cons.injEq] at he; exact hc he.1
        | cons d before =>
          simp only [List.cons_append, List.cons.injEq] at he
          exact absurd (by rw [he.2]; simp) hr

end QualifiedName

end ValueStream
