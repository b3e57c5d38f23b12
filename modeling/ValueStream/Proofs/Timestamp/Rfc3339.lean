import Mathlib.Data.List.TakeWhile
import ValueStream.Proofs.Number.Spelling
import ValueStream.Proofs.Timestamp.Calendar
import ValueStream.Timestamp.Rfc3339

/-!
# Reading a timestamp undoes writing it

A timestamp has a written form if its year has four digits and its offset is of less than a day and
in whole minutes (`Writable`, `format_eq_ok_iff`); the written form then reads as that timestamp,
offset included (`parse_of_format`).

Each reader is taken to the text that its writer leaves, whatever follows: numbers of a fixed count
of digits, the fraction without its last zeros, the offset with its sign. The whole is then a chain
of readers, of which each takes off its part (`bind_of_ok`). No range is missed, since the date is
one of the calendar and the time is less than a day, and the second is never 60.
-/

namespace ValueStream

namespace Timestamp

/-! ## Readers in a row -/

theorem bind_of_ok {α β : Type} {x : Reader α} {f : α → Reader β} {a : α} {cs rest : List Char}
    (h : x cs = .ok (a, rest)) : (x >>= f) cs = f a rest := by
  change x cs >>= _ = _
  rw [h]
  rfl

/-! ## Digits -/

theorem length_fixedDigits (count n : Nat) : (fixedDigits count n).length = count := by
  induction count generalizing n with
  | zero => rfl
  | succ count ih => simp [fixedDigits, ih]

theorem isDigit_fixedDigits (count n : Nat) : ∀ c ∈ fixedDigits count n, c.isDigit = true := by
  induction count generalizing n with
  | zero => simp [fixedDigits]
  | succ count ih =>
    intro c hc
    rw [fixedDigits] at hc
    rcases List.mem_append.1 hc with hc | hc
    · exact ih _ c hc
    · obtain rfl := List.mem_singleton.1 hc
      simpa [Nat.isDigit_digitChar] using Nat.mod_lt n (by omega)

theorem ofDigitChars_fixedDigits (count n : Nat) :
    Nat.ofDigitChars 10 (fixedDigits count n) 0 = n % 10 ^ count := by
  induction count generalizing n with
  | zero => simp [fixedDigits, Nat.mod_one]
  | succ count ih =>
    rw [fixedDigits, Nat.ofDigitChars_append, ih,
      Nat.ofDigitChars_cons_digitChar_of_lt_ten (Nat.mod_lt n (by omega)), Nat.ofDigitChars_nil,
      Nat.pow_succ, Nat.mul_comm _ 10, Nat.mod_mul]
    omega

theorem readFixed_fixedDigits {count n : Nat} (h : n < 10 ^ count) (c : Component)
    (rest : List Char) : readFixed count c (fixedDigits count n ++ rest) = .ok (n, rest) := by
  have hlength := length_fixedDigits count n
  have htake : (fixedDigits count n ++ rest).take count = fixedDigits count n := by
    rw [List.take_append_of_le_length (by omega), List.take_of_length_le (by omega)]
  have hdrop : (fixedDigits count n ++ rest).drop count = rest := by
    rw [List.drop_append_of_le_length (by omega), List.drop_of_length_le (by omega),
      List.nil_append]
  have hdigits : (fixedDigits count n).all Char.isDigit = true :=
    List.all_eq_true.2 (isDigit_fixedDigits count n)
  simp only [readFixed, htake, hdrop]
  rw [if_pos ⟨hlength, hdigits⟩, ofDigitChars_fixedDigits, Nat.mod_eq_of_lt h]

theorem readLiteral_cons (c : Char) (rest : List Char) :
    readLiteral c (c :: rest) = .ok ((), rest) := if_pos rfl

theorem readSeparator_cons {c : Char} (h : c.toNat < 128) (rest : List Char) :
    readSeparator (c :: rest) = .ok ((), rest) := if_pos h

/-! ## The fraction of a second -/

/-- What is left of digits without the zeros at their end. -/
theorem exists_zeros (ds : List Char) :
    ∃ count, ds = (ds.reverse.dropWhile (· == '0')).reverse ++ List.replicate count '0' := by
  refine ⟨(ds.reverse.takeWhile (· == '0')).length, ?_⟩
  have hzeros : ds.reverse.takeWhile (· == '0') =
      List.replicate (ds.reverse.takeWhile (· == '0')).length '0' := by
    refine List.eq_replicate_iff.2 ⟨rfl, fun c hc ↦ ?_⟩
    simpa using List.mem_takeWhile_imp hc
  rw [← List.reverse_replicate, ← hzeros, ← List.reverse_append, List.takeWhile_append_dropWhile,
    List.reverse_reverse]

/-- Digits are read up to what is none. -/
theorem readFraction_point {ds rest : List Char} (hne : ds ≠ []) (hlength : ds.length ≤ 9)
    (hds : ∀ c ∈ ds, c.isDigit = true) (hrest : ∀ c ∈ rest.head?, c.isDigit = false) :
    readFraction ('.' :: ds ++ rest) =
      .ok (Nat.ofDigitChars 10 ds 0 * 10 ^ (9 - ds.length), rest) := by
  have hend : rest.takeWhile Char.isDigit = [] ∧ rest.dropWhile Char.isDigit = rest := by
    cases rest with
    | nil => simp
    | cons c rest => simp [hrest c rfl]
  have htake : (ds ++ rest).takeWhile Char.isDigit = ds := by
    rw [List.takeWhile_append_of_pos hds, hend.1, List.append_nil]
  have hdrop : (ds ++ rest).dropWhile Char.isDigit = rest := by
    rw [List.dropWhile_append_of_pos hds, hend.2]
  simp [readFraction, htake, hdrop, hne, List.take_of_length_le hlength]

theorem readFraction_fractionChars {nanos : Nat} (h : nanos < 1000000000) {rest : List Char}
    (hrest : ∀ c ∈ rest.head?, c ≠ '.' ∧ c.isDigit = false) :
    readFraction (fractionChars nanos ++ rest) = .ok (nanos, rest) := by
  rw [fractionChars]
  split
  · next hzero =>
    subst hzero
    rw [List.nil_append, readFraction]
    rintro cs rfl
    exact (hrest '.' rfl).1 rfl
  · next hpositive =>
    obtain ⟨count, hzeros⟩ := exists_zeros (fixedDigits 9 nanos)
    generalize ((fixedDigits 9 nanos).reverse.dropWhile (· == '0')).reverse = ds at hzeros ⊢
    have hlength : ds.length + count = 9 := by
      simpa [length_fixedDigits] using (congrArg List.length hzeros).symm
    have hvalue : 10 ^ count * Nat.ofDigitChars 10 ds 0 = nanos := by
      have hall := ofDigitChars_fixedDigits 9 nanos
      rwa [hzeros, Nat.ofDigitChars_append, Nat.ofDigitChars_replicate_zero,
        Nat.mod_eq_of_lt (show nanos < 10 ^ 9 from h)] at hall
    have hds : ∀ c ∈ ds, c.isDigit = true := by
      intro c hc
      refine isDigit_fixedDigits 9 nanos c ?_
      rw [hzeros]
      exact List.mem_append_left _ hc
    have hne : ds ≠ [] := by
      rintro rfl
      exact hpositive (by simpa using hvalue.symm)
    rw [readFraction_point hne (by omega) hds fun c hc ↦ (hrest c hc).2, Nat.mul_comm,
      show 9 - ds.length = count by omega, hvalue]

/-! ## The offset -/

/-- Hours and minutes behind a sign. -/
theorem readClockOffset_written {hours minutes : Nat} (hhours : hours < 24)
    (hminutes : minutes < 60) (negative : Bool) :
    readClockOffset ((if negative then '-' else '+') :: fixedDigits 2 hours ++
        ':' :: fixedDigits 2 minutes) =
      .ok (if negative then -((hours * 60 + minutes) * 60 : Int)
        else (hours * 60 + minutes) * 60, []) := by
  have hsign : ∀ cs, readSign ((if negative then '-' else '+') :: cs) = .ok (negative, cs) := by
    cases negative <;> exact fun _ ↦ rfl
  have hend := readFixed_fixedDigits (show minutes < 10 ^ 2 by omega) .offsetMinute []
  rw [List.append_nil] at hend
  rw [readClockOffset, List.cons_append, bind_of_ok (hsign _),
    bind_of_ok (readFixed_fixedDigits (by omega) _ _), if_neg (by omega)]
  beta_reduce
  rw [bind_of_ok (readLiteral_cons _ _), bind_of_ok hend]
  dsimp only
  rw [if_neg (by omega)]
  rfl

theorem readOffset_offsetChars {offset : Int} (hday : offset.natAbs < 86400)
    (hminutes : offset.natAbs % 60 = 0) : readOffset (offsetChars offset) = .ok (offset, []) := by
  rw [offsetChars]
  split
  · next hzero =>
    rw [hzero]
    rfl
  · generalize hm : offset.natAbs / 60 = minutes
    have hclock := readClockOffset_written (show minutes / 60 < 24 by omega)
      (show minutes % 60 < 60 by omega) (decide (offset < 0))
    simp only [decide_eq_true_eq] at hclock
    have hvalue :
        (if offset < 0 then -(((minutes / 60 : Nat) * 60 + (minutes % 60 : Nat)) * 60 : Int)
          else ((minutes / 60 : Nat) * 60 + (minutes % 60 : Nat)) * 60) = offset := by
      split <;> omega
    rw [hvalue] at hclock
    by_cases hneg : offset < 0
    · rw [if_pos hneg] at hclock ⊢
      exact hclock
    · rw [if_neg hneg] at hclock ⊢
      exact hclock

/-- An offset begins with a letter or a sign. -/
theorem head_offsetChars (offset : Int) :
    ∀ c ∈ (offsetChars offset).head?, c ≠ '.' ∧ c.isDigit = false := by
  rw [offsetChars]
  split
  · simp
  · split <;> simp

/-! ## The whole text -/

theorem readFields_written {date : Date} {second nanos : Nat} {offset : Int}
    (hyear : 0 ≤ date.year ∧ date.year ≤ 9999) (hdate : date.IsValid) (hsecond : second < 86400)
    (hnanos : nanos < 1000000000) (hoffset : offset.natAbs < 86400)
    (hminutes : offset.natAbs % 60 = 0) :
    readFields (localChars date second ++ fractionChars nanos ++ offsetChars offset) =
      .ok (⟨date.year.toNat, date.month, date.day, second / 3600, second / 60 % 60, second % 60,
        nanos, offset⟩, []) := by
  obtain ⟨hmonth, hmonth', hday, hday'⟩ := hdate
  have hlength : Date.monthLength date.year date.month ≤ 31 := by
    unfold Date.monthLength
    split_ifs <;> omega
  simp only [localChars, List.append_assoc, List.cons_append]
  rw [readFields, bind_of_ok (readFixed_fixedDigits (by omega) _ _),
    bind_of_ok (readLiteral_cons _ _), bind_of_ok (readFixed_fixedDigits (by omega) _ _),
    if_neg (by omega)]
  beta_reduce
  rw [bind_of_ok (readLiteral_cons _ _), bind_of_ok (readFixed_fixedDigits (by omega) _ _),
    bind_of_ok (readSeparator_cons (by decide) _),
    bind_of_ok (readFixed_fixedDigits (by omega) _ _), bind_of_ok (readLiteral_cons _ _),
    bind_of_ok (readFixed_fixedDigits (by omega) _ _), bind_of_ok (readLiteral_cons _ _),
    bind_of_ok (readFixed_fixedDigits (by omega) _ _),
    bind_of_ok (readFraction_fractionChars hnanos (head_offsetChars offset)),
    bind_of_ok (readOffset_offsetChars hoffset hminutes)]
  rfl

/-- The numbers that writing leaves are in their ranges. -/
theorem check_written {date : Date} {second : Nat} (hyear : 0 ≤ date.year) (hdate : date.IsValid)
    (hsecond : second < 86400) (nanos : Nat) (offset : Int) :
    Fields.check ⟨date.year.toNat, date.month, date.day, second / 3600, second / 60 % 60,
      second % 60, nanos, offset⟩ = .ok () := by
  obtain ⟨hmonth, hmonth', hday, hday'⟩ := hdate
  have hcast : ((date.year.toNat : Nat) : Int) = date.year := Int.toNat_of_nonneg hyear
  simp only [Fields.check, hcast]
  rw [if_neg (by omega), if_neg (by omega), if_neg (by omega), if_neg (by omega), if_neg (by omega)]
  rfl

/-! ## The timestamp -/

theorem coe_secondOfDay (t : Timestamp) :
    (t.secondOfDay : Int) = (t.seconds + t.offset) % 86400 := by
  unfold secondOfDay daySeconds
  omega

theorem secondOfDay_lt (t : Timestamp) : t.secondOfDay < 86400 := by
  have hcoe := t.coe_secondOfDay
  omega

/-- The numbers that writing leaves make the timestamp again. -/
theorem timestamp_written {t : Timestamp} (hyear : 0 ≤ t.localDate.year) :
    Fields.timestamp ⟨t.localDate.year.toNat, t.localDate.month, t.localDate.day,
      t.secondOfDay / 3600, t.secondOfDay / 60 % 60, t.secondOfDay % 60, t.nanos, t.offset⟩ =
      t := by
  have hdate : (⟨(t.localDate.year.toNat : Nat), t.localDate.month, t.localDate.day⟩ : Date) =
      t.localDate := by rw [Int.toNat_of_nonneg hyear]
  have hdays : t.localDate.toDays = (t.seconds + t.offset) / 86400 := Date.toDays_ofDays _
  have hsecond := t.coe_secondOfDay
  rw [Fields.timestamp, hdate]
  dsimp only
  rw [if_neg (by omega)]
  refine Timestamp.ext ?_ (Nat.mod_eq_of_lt t.nanos_lt) rfl
  simp only [ofLocal, hdays, daySeconds]
  omega

/-- A text whose numbers are in their ranges, without a leap second. -/
theorem parse_of_readFields {cs : List Char} {f : Fields} (hread : readFields cs = .ok (f, []))
    (hcheck : f.check = .ok ()) (hsecond : f.second ≠ 60) : parse cs = .ok f.timestamp := by
  rw [parse, hread]
  change f.check >>= _ = _
  rw [hcheck]
  exact if_neg fun h ↦ hsecond h.1

/-! ## Which timestamps can be written -/

/-- The year at the offset has four digits, and the offset is of whole minutes, less than a day. -/
def Writable (t : Timestamp) : Prop :=
  (0 ≤ t.localDate.year ∧ t.localDate.year ≤ 9999) ∧ t.offset.natAbs < 86400 ∧
    t.offset.natAbs % 60 = 0

instance (t : Timestamp) : Decidable t.Writable :=
  inferInstanceAs (Decidable ((0 ≤ t.localDate.year ∧ t.localDate.year ≤ 9999) ∧
    t.offset.natAbs < 86400 ∧ t.offset.natAbs % 60 = 0))

theorem format_eq_ok_iff {t : Timestamp} {cs : List Char} : t.format = .ok cs ↔ t.Writable ∧
    cs = localChars t.localDate t.secondOfDay ++ fractionChars t.nanos ++ offsetChars t.offset := by
  unfold format
  constructor
  · intro h
    split_ifs at h with hyear hoffset hminutes
    exact ⟨⟨by omega, by omega, by omega⟩, by cases h; rfl⟩
  · rintro ⟨⟨hyear, hoffset, hminutes⟩, rfl⟩
    rw [if_neg (by omega), if_neg (by omega), if_neg (by omega)]

/-- **The written form of a timestamp reads as that timestamp.** -/
theorem parse_of_format {t : Timestamp} {cs : List Char} (h : t.format = .ok cs) :
    parse cs = .ok t := by
  obtain ⟨⟨hyear, hoffset, hminutes⟩, rfl⟩ := format_eq_ok_iff.1 h
  have hdate : t.localDate.IsValid := Date.isValid_ofDays _
  have hread := readFields_written hyear hdate t.secondOfDay_lt t.nanos_lt hoffset hminutes
  have hcheck := check_written hyear.1 hdate t.secondOfDay_lt t.nanos t.offset
  rw [parse_of_readFields hread hcheck (by dsimp only; omega), timestamp_written hyear.1]

end Timestamp

end ValueStream
