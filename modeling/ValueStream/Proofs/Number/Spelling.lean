import Mathlib.Data.List.Induction
import ValueStream.Number.Integer

/-!
# What spells an integer

Digits spell a number by the rule of the decimal system: one more digit behind them makes ten times
the number and the digit (`DigitsSpell`). A text spells an integer by digits behind an optional
sign, which may be a minus sign for a kind with negative numbers only (`IntegerKind.Spells`).
Neither says how a text is read. Reading takes what spells an integer in the range of the kind, and
nothing else (`read_eq_some_iff`); and the written form of an integer is one of its spellings
(`spells_text`).
-/

namespace ValueStream

/-- Decimal digits, at least one, that spell a number. There may be zeros in front. -/
inductive DigitsSpell : List Char → Nat → Prop
  /-- A single digit. -/
  | single {d : Nat} (hd : d < 10) : DigitsSpell [Nat.digitChar d] d
  /-- One more digit behind others. -/
  | snoc {ds : List Char} {n d : Nat} (hds : DigitsSpell ds n) (hd : d < 10) :
    DigitsSpell (ds ++ [Nat.digitChar d]) (10 * n + d)

/-- A text that spells an integer, which need not be in the range of the kind. -/
inductive IntegerKind.Spells (k : IntegerKind) : List Char → Int → Prop
  /-- Digits without a sign. -/
  | bare {ds : List Char} {n : Nat} (hds : DigitsSpell ds n) : k.Spells ds n
  /-- Digits behind a plus sign. -/
  | plus {ds : List Char} {n : Nat} (hds : DigitsSpell ds n) : k.Spells ('+' :: ds) n
  /-- Digits behind a minus sign, if the kind has negative numbers. -/
  | minus {ds : List Char} {n : Nat} (hk : k.signed = true) (hds : DigitsSpell ds n) :
    k.Spells ('-' :: ds) (-n)

/-! ## Digits -/

theorem exists_digitChar {c : Char} (h : c.isDigit = true) : ∃ d < 10, c = Nat.digitChar d := by
  have hc : 48 ≤ c.toNat ∧ c.toNat ≤ 57 := by
    simpa [Char.isDigit, UInt32.le_iff_toNat_le] using h
  have hd : c.toNat - 48 < 10 := by omega
  refine ⟨c.toNat - 48, hd, ?_⟩
  rw [← Char.toNat_inj, Nat.toNat_digitChar_of_lt_ten hd]
  omega

namespace DigitsSpell

variable {ds : List Char} {n : Nat}

theorem ne_nil (h : DigitsSpell ds n) : ds ≠ [] := by
  cases h <;> simp

theorem isDigit (h : DigitsSpell ds n) : ∀ c ∈ ds, c.isDigit = true := by
  induction h with
  | single hd => simpa [Nat.isDigit_digitChar] using hd
  | snoc hds hd ih =>
    intro c hc
    rcases List.mem_append.1 hc with hc | hc
    · exact ih c hc
    · obtain rfl := List.mem_singleton.1 hc
      simpa [Nat.isDigit_digitChar] using hd

theorem ofDigitChars_eq (h : DigitsSpell ds n) : Nat.ofDigitChars 10 ds 0 = n := by
  induction h with
  | single hd => simp [Nat.ofDigitChars_cons_digitChar_of_lt_ten hd]
  | snoc hds hd ih =>
    simp [Nat.ofDigitChars_append, Nat.ofDigitChars_cons_digitChar_of_lt_ten hd, ih]

/-- Digits spell one number only. -/
theorem unique {m : Nat} (hm : DigitsSpell ds m) (hn : DigitsSpell ds n) : m = n := by
  rw [← hm.ofDigitChars_eq, hn.ofDigitChars_eq]

/-- Any digits spell the number that they are read as. -/
theorem of_isDigit (hne : ds ≠ []) (h : ∀ c ∈ ds, c.isDigit = true) :
    DigitsSpell ds (Nat.ofDigitChars 10 ds 0) := by
  induction ds using List.reverseRecOn with
  | nil => exact absurd rfl hne
  | append_singleton ds c ih =>
    obtain ⟨d, hd, rfl⟩ := exists_digitChar (h c (by simp))
    by_cases hds : ds = []
    · subst hds
      simpa [Nat.ofDigitChars_cons_digitChar_of_lt_ten hd] using single hd
    · have hmore := snoc (ih hds fun c hc ↦ h c (by simp [hc])) hd
      simpa [Nat.ofDigitChars_append, Nat.ofDigitChars_cons_digitChar_of_lt_ten hd] using hmore

theorem toDigits (n : Nat) : DigitsSpell (Nat.toDigits 10 n) n := by
  have h : ∀ c ∈ Nat.toDigits 10 n, c.isDigit = true :=
    fun _ hc ↦ Nat.isDigit_of_mem_toDigits (by omega) (by omega) hc
  simpa [Nat.ofDigitChars_ten_toDigits] using of_isDigit Nat.toDigits_ne_nil h

end DigitsSpell

/-! ## Reading -/

namespace Integer

variable {k : IntegerKind} {cs : List Char}

theorem readDigits_eq_some_iff {n : Nat} : readDigits cs = some n ↔ DigitsSpell cs n := by
  rw [readDigits]
  constructor
  · intro h
    split at h
    · next hcs =>
      obtain ⟨hne, hall⟩ : cs ≠ [] ∧ ∀ c ∈ cs, c.isDigit = true := by simpa using hcs
      rw [← Option.some.inj h]
      exact .of_isDigit hne hall
    · cases h
  · intro h
    have hcs : (!cs.isEmpty && cs.all Char.isDigit) = true := by
      simpa using ⟨h.ne_nil, h.isDigit⟩
    rw [if_pos hcs, h.ofDigitChars_eq]

/-- Digits do not begin with a sign. -/
theorem head_ne_of_spell {c : Char} {n : Nat} (hc : c.isDigit = false) :
    ¬DigitsSpell (c :: cs) n := by
  intro h
  have hdigit := h.isDigit c (by simp)
  rw [hc] at hdigit
  cases hdigit

theorem readNumber_eq_some_iff {z : Int} : readNumber k.signed cs = some z ↔ k.Spells cs z := by
  constructor
  · fun_cases readNumber k.signed cs with
    | case1 ds =>
      intro h
      obtain ⟨n, hn, rfl⟩ := Option.map_eq_some_iff.1 h
      exact .plus (readDigits_eq_some_iff.1 hn)
    | case2 ds hk =>
      intro h
      obtain ⟨n, hn, rfl⟩ : ∃ n, readDigits ds = some n ∧ -(n : Int) = z := by
        simpa [Option.bind_eq_some_iff] using h
      exact .minus hk (readDigits_eq_some_iff.1 hn)
    | case3 => nofun
    | case4 =>
      intro h
      obtain ⟨n, hn, rfl⟩ := Option.map_eq_some_iff.1 h
      exact .bare (readDigits_eq_some_iff.1 hn)
  · intro h
    cases h with
    | plus hds => simp [readNumber, readDigits_eq_some_iff.2 hds]
    | minus hk hds => simp [readNumber, hk, readDigits_eq_some_iff.2 hds]
    | bare hds =>
      rw [readNumber]
      · simp [readDigits_eq_some_iff.2 hds]
      · rintro ds rfl
        exact head_ne_of_spell (by decide) hds
      · rintro ds rfl
        exact head_ne_of_spell (by decide) hds

/-- **What is read as an integer is what spells it.** -/
theorem read_eq_some_iff {s : String} {m : Integer k} :
    read k s = some m ↔ k.Spells s.toList m.value := by
  rw [read, Option.bind_eq_some_iff]
  constructor
  · rintro ⟨z, hz, hm⟩
    rw [ofInt?_eq_some_iff.1 hm]
    exact readNumber_eq_some_iff.1 hz
  · intro h
    exact ⟨m.value, readNumber_eq_some_iff.2 h, ofInt?_value m⟩

/-! ## The written form -/

theorem spells_chars {z : Int} (h : z < 0 → k.signed = true) : k.Spells (chars z) z := by
  cases z with
  | ofNat n => exact .bare (.toDigits n)
  | negSucc n => exact .minus (h (Int.negSucc_lt_zero n)) (.toDigits (n + 1))

theorem spells_text (m : Integer k) : k.Spells m.text.toList m.value := by
  have hsigned : m.value < 0 → k.signed = true := by
    have hleast := m.least_le
    intro hneg
    by_contra hk
    rw [IntegerKind.least, if_neg hk] at hleast
    omega
  rw [text, String.toList_ofList]
  exact spells_chars hsigned

/-- The written form is a sign and digits at most. -/
theorem chars_isDigit {z : Int} : ∀ c ∈ chars z, c = '-' ∨ c.isDigit = true := by
  intro c hc
  cases z with
  | ofNat n => exact .inr (DigitsSpell.isDigit (.toDigits n) c hc)
  | negSucc n =>
    rcases List.mem_cons.1 hc with rfl | hc
    · exact .inl rfl
    · exact .inr (DigitsSpell.isDigit (.toDigits (n + 1)) c hc)

end Integer

end ValueStream
