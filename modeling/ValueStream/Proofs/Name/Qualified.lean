import ValueStream.Name.Qualified

/-!
# What spells a qualified name

The grammar of qualified names is stated on its own, by the characters that the two parts are made
of, and not by how a text is cut (`QualifiedName.Spells`). A reader that cuts at the last slash and
then looks at the parts reads exactly this grammar (`names_by_grammar`): neither part can hold a
slash, so a text with one slash is cut where the grammar wants it, and one with more of them leaves
a slash in one of the parts wherever it is cut.

All that is said of reading follows from one equivalence, that a text is read as a name exactly if
it is the written form of the name (`parse_eq_ok_iff`).
-/

namespace ValueStream.QualifiedName

/-- What spells a namespace: an at sign somewhere, and neither a slash nor a blank anywhere. -/
structure SpellsSpace (cs : List Char) : Prop where
  /-- There is an at sign. -/
  at_mem : '@' ∈ cs
  /-- There is no slash. -/
  slash_notMem : '/' ∉ cs
  /-- There is no blank, in any script. -/
  not_blank : ∀ c ∈ cs, Text.isBlank c = false

/-- What spells the name of a type: an ASCII capital, then ASCII letters and digits only. -/
inductive SpellsName : List Char → Prop
  /-- A capital and what follows it. -/
  | cons {c : Char} {rest : List Char} (hc : 'A' ≤ c ∧ c ≤ 'Z')
    (hrest : ∀ d ∈ rest, ('A' ≤ d ∧ d ≤ 'Z') ∨ ('a' ≤ d ∧ d ≤ 'z') ∨ ('0' ≤ d ∧ d ≤ '9')) :
    SpellsName (c :: rest)

/-- A text that spells a name by a namespace, a slash and the name of a type. -/
structure Spells (s space name : String) : Prop where
  /-- The text consists of the two parts and the slash. -/
  joined : s = space ++ "/" ++ name
  /-- The first part is a namespace. -/
  spells_space : SpellsSpace space.toList
  /-- The second part is the name of a type. -/
  spells_name : SpellsName name.toList

variable {s space name : String} {q : QualifiedName}

/-! ## The parts -/

theorem isNamespace_iff {cs : List Char} : isNamespace cs = true ↔ SpellsSpace cs := by
  rw [isNamespace]
  simp only [Bool.and_eq_true, Bool.not_eq_true', List.contains_eq_mem, decide_eq_true_eq,
    decide_eq_false_iff_not, List.any_eq_false, Bool.not_eq_true]
  constructor
  · rintro ⟨⟨hat, hslash⟩, hblank⟩
    exact ⟨hat, hslash, hblank⟩
  · rintro ⟨hat, hslash, hblank⟩
    exact ⟨⟨hat, hslash⟩, hblank⟩

theorem isUpper_iff {c : Char} : c.isUpper = true ↔ 'A' ≤ c ∧ c ≤ 'Z' :=
  decide_eq_true_iff

theorem isAlphanum_iff {c : Char} : c.isAlphanum = true ↔
    ('A' ≤ c ∧ c ≤ 'Z') ∨ ('a' ≤ c ∧ c ≤ 'z') ∨ ('0' ≤ c ∧ c ≤ '9') := by
  change (c.isUpper || (decide ('a' ≤ c) && decide (c ≤ 'z')) ||
    (decide ('0' ≤ c) && decide (c ≤ '9'))) = true ↔ _
  rw [Bool.or_eq_true, Bool.or_eq_true, isUpper_iff, or_assoc]
  simp only [Bool.and_eq_true, decide_eq_true_eq]

theorem isName_iff {cs : List Char} : isName cs = true ↔ SpellsName cs := by
  constructor
  · intro h
    cases cs with
    | nil => cases h
    | cons c rest =>
      rw [isName, Bool.and_eq_true, List.all_eq_true] at h
      exact .cons (isUpper_iff.1 h.1) fun d hd ↦ isAlphanum_iff.1 (h.2 d hd)
  · rintro ⟨hc, hrest⟩
    rw [isName, Bool.and_eq_true, List.all_eq_true]
    exact ⟨isUpper_iff.2 hc, fun d hd ↦ isAlphanum_iff.2 (hrest d hd)⟩

theorem slash_notMem_of_isName {cs : List Char} (h : isName cs = true) : '/' ∉ cs := by
  obtain ⟨hc, hrest⟩ := isName_iff.1 h
  intro hmem
  rcases List.mem_cons.1 hmem with rfl | hmem
  · revert hc
    decide
  · have hslash := hrest '/' hmem
    revert hslash
    decide

/-- A name is made of two parts if these are its parts. -/
theorem ofParts_eq_ok_iff : ofParts space name = .ok q ↔ q.space = space ∧ q.name = name := by
  rw [ofParts]
  constructor
  · intro h
    split at h
    · cases h
      exact ⟨rfl, rfl⟩
    · cases h
  · rintro ⟨rfl, rfl⟩
    rw [dif_pos ⟨q.space_valid, q.name_valid⟩]

/-- The parts of a name are what the grammar says, and all such parts make a name. -/
theorem exists_parts_iff : (∃ q : QualifiedName, q.space = space ∧ q.name = name) ↔
    SpellsSpace space.toList ∧ SpellsName name.toList := by
  constructor
  · rintro ⟨q, rfl, rfl⟩
    exact ⟨isNamespace_iff.1 q.space_valid, isName_iff.1 q.name_valid⟩
  · rintro ⟨hspace, hname⟩
    exact ⟨⟨space, name, isNamespace_iff.2 hspace, isName_iff.2 hname⟩, rfl, rfl⟩

/-! ## Reading -/

theorem toList_text (q : QualifiedName) :
    q.text.toList = q.space.toList ++ '/' :: q.name.toList := by
  simp [text]

/-- **A text is read as a name if it is the written form of the name**, and only then. -/
theorem parse_eq_ok_iff : parse s = .ok q ↔ q.text = s := by
  rw [parse]
  constructor
  · intro h
    split at h
    · next before after hcut =>
      obtain ⟨hspace, hname⟩ := ofParts_eq_ok_iff.1 h
      rw [← String.toList_inj, toList_text, hspace, hname, String.toList_ofList,
        String.toList_ofList]
      exact (cutLast_eq_some_iff.1 hcut).1.symm
    · cases h
  · rintro rfl
    have hcut : cutLast q.text.toList = some (q.space.toList, q.name.toList) :=
      cutLast_eq_some_iff.2 ⟨toList_text q, slash_notMem_of_isName q.name_valid⟩
    simp only [hcut, String.ofList_toList]
    exact ofParts_eq_ok_iff.2 ⟨rfl, rfl⟩

/-- A text that is not read is reported as it is, also where its parts were cut before. -/
theorem parse_eq_error (h : ∀ q, parse s ≠ .ok q) : parse s = .error (.invalidTypeName s) := by
  cases hcut : cutLast s.toList with
  | none => simp only [parse, hcut]
  | some p =>
    obtain ⟨before, after⟩ := p
    have hs : String.ofList before ++ "/" ++ String.ofList after = s := by
      rw [← String.toList_inj]
      simpa using (cutLast_eq_some_iff.1 hcut).1.symm
    have hparse : parse s = ofParts (String.ofList before) (String.ofList after) := by
      simp only [parse, hcut]
    rw [hparse, ofParts] at h ⊢
    split
    · next hparts =>
      rw [dif_pos hparts] at h
      exact absurd rfl (h _)
    · rw [hs]

theorem spells_iff : Spells s space name ↔
    ∃ q, parse s = .ok q ∧ q.space = space ∧ q.name = name := by
  constructor
  · rintro ⟨rfl, hspace, hname⟩
    obtain ⟨q, rfl, rfl⟩ := exists_parts_iff.2 ⟨hspace, hname⟩
    exact ⟨q, parse_eq_ok_iff.2 rfl, rfl, rfl⟩
  · rintro ⟨q, hq, hparts⟩
    obtain ⟨hspace, hname⟩ := exists_parts_iff.1 ⟨q, hparts⟩
    obtain ⟨rfl, rfl⟩ := hparts
    exact ⟨(parse_eq_ok_iff.1 hq).symm, hspace, hname⟩

/-- **Qualified names are read by their grammar.** A text is read if it spells a name, by the parts
that it spells the name by, and any other text is refused as it stands. What is read from a text has
that text as its written form. Names made of their parts are read back from their written forms,
which are therefore different for different names. -/
theorem names_by_grammar :
    (∀ s space name, Spells s space name ↔
      ∃ q, parse s = .ok q ∧ q.space = space ∧ q.name = name) ∧
    (∀ s, (∀ space name, ¬Spells s space name) → parse s = .error (.invalidTypeName s)) ∧
    (∀ s q, parse s = .ok q → q.text = s) ∧
    (∀ space name q, ofParts space name = .ok q → parse q.text = .ok q) ∧
    ∀ q r : QualifiedName, q.text = r.text → q = r := by
  refine ⟨fun s space name ↦ spells_iff, ?_, fun s q ↦ parse_eq_ok_iff.1, ?_, ?_⟩
  · intro s hnone
    apply parse_eq_error
    intro q hq
    exact hnone q.space q.name (spells_iff.2 ⟨q, hq, rfl, rfl⟩)
  · intro space name q _
    exact parse_eq_ok_iff.2 rfl
  · intro q r h
    have hq : parse r.text = .ok q := parse_eq_ok_iff.2 h
    have hr : parse r.text = .ok r := parse_eq_ok_iff.2 rfl
    exact Except.ok.inj (hq.symm.trans hr)

/-- A namespace with a colon and a letter of another script, and a text with two slashes. -/
theorem names_by_grammar_of_two_slashes :
    let q : QualifiedName := ⟨"ns:é@v1", "Int32", by decide, by decide⟩
    let r : QualifiedName := ⟨"ns@v1", "Int32", by decide, by decide⟩
    Spells "ns:é@v1/Int32" "ns:é@v1" "Int32" ∧
      parse "ns:é@v1/Int32" = .ok q ∧ q.text = "ns:é@v1/Int32" ∧
      ofParts "ns:é@v1" "Int32" = .ok q ∧ parse q.text = .ok q ∧
      (∀ space name, ¬Spells "ns@v1/a/Int32" space name) ∧
      parse "ns@v1/a/Int32" = .error (.invalidTypeName "ns@v1/a/Int32") ∧
      q.text ≠ r.text := by
  intro q r
  obtain ⟨hspells, hrefused, htext, hback, hinj⟩ := names_by_grammar
  have hparse : parse "ns:é@v1/Int32" = .ok q := parse_eq_ok_iff.2 (by decide)
  have hparts : ofParts "ns:é@v1" "Int32" = .ok q := ofParts_eq_ok_iff.2 ⟨rfl, rfl⟩
  have hnone : ∀ space name, ¬Spells "ns@v1/a/Int32" space name := by
    intro space name h
    obtain ⟨t, ht, -⟩ := (hspells _ _ _).1 h
    have herror : parse "ns@v1/a/Int32" = .error (.invalidTypeName "ns@v1/a/Int32") := by rfl
    rw [herror] at ht
    cases ht
  have hne : q ≠ r := by decide
  exact ⟨(hspells _ _ _).2 ⟨q, hparse, rfl, rfl⟩, hparse, htext _ _ hparse, hparts,
    hback _ _ _ hparts, hnone, hrefused _ hnone, fun h ↦ hne (hinj q r h)⟩

end ValueStream.QualifiedName
