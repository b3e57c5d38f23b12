import ValueStream.Proofs.Cast.Integers
import ValueStream.Proofs.Number.Spelling
import ValueStream.Proofs.Text.Base64
import ValueStream.Proofs.Timestamp.Rfc3339

/-!
# Casts to text and back

Truth values, integers, bytes and timestamps are cast to their written forms, and each written form
is cast back to what it came from (`SurvivesText`). For timestamps that holds of those that can be
written at all.

What else is read differs. Bytes have one written form each, so that a cast of text to bytes is
undone by the cast to text (`text_of_bytes_and_timestamps`). An integer has many spellings, with
zeros in front and with a plus sign; text without a point or an exponent is read as an integer if it
is a spelling of one of the kind, and refused otherwise, also where the number is merely too large
(`text_of_truth_values_and_integers`).
-/

namespace ValueStream

namespace Cast

variable {callType : TypeRef} {path : Path}

/-- The value is cast to text, and the cast of that text to the type gives the value again. -/
def SurvivesText (t : CoreType) (v : Value) : Prop :=
  ∃ s, CastsTo .string v (.scalar (.string s)) ∧ CastsTo t (.scalar (.string s)) v

/-! ## Truth values -/

theorem survivesText_boolean (b : Bool) : SurvivesText .boolean (.scalar (.boolean b)) := by
  refine ⟨if b then "true" else "false", fun callType path ↦ ?_, fun callType path ↦ ?_⟩
  · simp [toCore_scalar, toNamed, toText]
  · rw [toCore_scalar (by simp), toNamed, coreType_plain]
    cases b <;> rfl

/-! ## Integers -/

theorem toCore_integer_string (k : IntegerKind) (s : String) :
    toCore (.integer k) (.scalar (.string s)) callType path =
      match readInteger k s with
      | some n => .ok (.scalar (.integer k n))
      | none => .error (.value path (.notNumber (.integer k) s)) := by
  rw [toCore_scalar (by simp), toNamed, coreType_plain]
  rfl

/-- Text without a point or an exponent is not read as a floating-point number. -/
theorem readInteger_eq_read (k : IntegerKind) {s : String}
    (hs : ∀ c ∈ s.toList, c ≠ '.' ∧ c ≠ 'e' ∧ c ≠ 'E') :
    readInteger k s = Integer.read k s := by
  have hinteger : hasPointOrExponent s = false := by
    rw [hasPointOrExponent, List.any_eq_false]
    intro c hc
    simp [hs c hc]
  rw [readInteger, hinteger]
  rfl

/-- Neither a digit nor a minus sign makes a text a floating-point number. -/
theorem ne_of_mem_text {k : IntegerKind} (n : Integer k) :
    ∀ c ∈ n.text.toList, c ≠ '.' ∧ c ≠ 'e' ∧ c ≠ 'E' := by
  intro c hc
  rw [Integer.text, String.toList_ofList] at hc
  rcases Integer.chars_isDigit c hc with rfl | hdigit
  · decide
  · refine ⟨?_, ?_, ?_⟩ <;> rintro rfl <;> cases hdigit

theorem castsTo_integer_string_iff {k : IntegerKind} {s : String} (n : Integer k) :
    CastsTo (.integer k) (.scalar (.string s)) (.scalar (.integer k n)) ↔
      readInteger k s = some n := by
  constructor
  · intro h
    have hcast := h .value .root
    rw [toCore_integer_string] at hcast
    split at hcast
    · cases hcast
      assumption
    · cases hcast
  · intro h callType path
    rw [toCore_integer_string, h]

theorem survivesText_integer {k : IntegerKind} (n : Integer k) :
    SurvivesText (.integer k) (.scalar (.integer k n)) := by
  refine ⟨n.text, fun callType path ↦ ?_, (castsTo_integer_string_iff n).2 ?_⟩
  · simp [toCore_scalar, toNamed, toText]
  · rw [readInteger_eq_read k (ne_of_mem_text n)]
    exact Integer.read_eq_some_iff.2 n.spells_text

/-- **Truth values and integers survive their text form, and integers are read exactly.** Text
without a point or an exponent is cast to an integer of a kind exactly if it is a spelling of it,
with a sign that the kind has and with any zeros in front. Text that spells no integer of the kind
is refused, so that no number outside the range is wrapped or moved to an end of it. -/
theorem text_of_truth_values_and_integers :
    (∀ b, SurvivesText .boolean (.scalar (.boolean b))) ∧
    (∀ (k : IntegerKind) (n : Integer k), SurvivesText (.integer k) (.scalar (.integer k n))) ∧
    ∀ (k : IntegerKind) (s : String), (∀ c ∈ s.toList, c ≠ '.' ∧ c ≠ 'e' ∧ c ≠ 'E') →
      (∀ n : Integer k, CastsTo (.integer k) (.scalar (.string s)) (.scalar (.integer k n)) ↔
        k.Spells s.toList n.value) ∧
      ((∀ n : Integer k, ¬k.Spells s.toList n.value) → ∀ callType path,
        toCore (.integer k) (.scalar (.string s)) callType path =
          .error (.value path (.notNumber (.integer k) s))) := by
  refine ⟨survivesText_boolean, fun k n ↦ survivesText_integer n, fun k s hs ↦ ⟨?_, ?_⟩⟩
  · intro n
    rw [castsTo_integer_string_iff, readInteger_eq_read k hs, Integer.read_eq_some_iff]
  · intro hnone callType path
    have hread : readInteger k s = none := by
      rw [readInteger_eq_read k hs, Option.eq_none_iff_forall_ne_some]
      intro n hn
      exact hnone n (Integer.read_eq_some_iff.1 hn)
    rw [toCore_integer_string, hread]

/-- A number that fits 64 bits and does not fit 32, with a plus sign. -/
theorem text_of_truth_values_and_integers_of_two_pow :
    let s := "+4294967296"
    let n : Integer .int64 := ⟨4294967296, by decide, by decide⟩
    (∀ c ∈ s.toList, c ≠ '.' ∧ c ≠ 'e' ∧ c ≠ 'E') ∧
      IntegerKind.int64.Spells s.toList n.value ∧
      CastsTo (.integer .int64) (.scalar (.string s)) (.scalar (.integer .int64 n)) ∧
      (∀ m : Integer .uint32, ¬IntegerKind.uint32.Spells s.toList m.value) ∧
      ∀ callType path, toCore (.integer .uint32) (.scalar (.string s)) callType path =
        .error (.value path (.notNumber (.integer .uint32) s)) := by
  intro s n
  have hs : ∀ c ∈ s.toList, c ≠ '.' ∧ c ≠ 'e' ∧ c ≠ 'E' := by
    have hall : s.toList.all (fun c ↦ c ≠ '.' ∧ c ≠ 'e' ∧ c ≠ 'E') = true := by decide
    intro c hc
    exact of_decide_eq_true (List.all_eq_true.1 hall c hc)
  have hn : IntegerKind.int64.Spells s.toList n.value := Integer.read_eq_some_iff.1 (by decide)
  have hnone : ∀ m : Integer .uint32, ¬IntegerKind.uint32.Spells s.toList m.value := by
    intro m hm
    have hread : Integer.read .uint32 s = none := by decide
    rw [Integer.read_eq_some_iff.2 hm] at hread
    cases hread
  have htext := text_of_truth_values_and_integers.2.2
  exact ⟨hs, hn, ((htext .int64 s hs).1 n).2 hn, hnone, (htext .uint32 s hs).2 hnone⟩

/-! ## Bytes -/

theorem toCore_buffer_string_eq_ok_iff {s : String} {bytes : List UInt8} :
    toCore .buffer (.scalar (.string s)) callType path = .ok (.scalar (.buffer bytes)) ↔
      s = Text.Base64.encode bytes := by
  rw [← Text.Base64.decode_eq_ok_iff, toCore_scalar (by simp), toNamed, coreType_plain]
  simp only [toBuffer]
  constructor
  · intro h
    split at h
    · cases h
      assumption
    · cases h
  · intro h
    rw [h]

theorem castsTo_string_buffer (bytes : List UInt8) :
    CastsTo .string (.scalar (.buffer bytes))
      (.scalar (.string (Text.Base64.encode bytes))) := by
  intro callType path
  simp [toCore_scalar, toNamed, toText]

theorem survivesText_buffer (bytes : List UInt8) :
    SurvivesText .buffer (.scalar (.buffer bytes)) :=
  ⟨_, castsTo_string_buffer bytes, fun _ _ ↦ toCore_buffer_string_eq_ok_iff.2 rfl⟩

/-! ## Timestamps -/

theorem survivesText_timestamp {t : Timestamp} (ht : t.Writable) :
    SurvivesText .timestamp (.scalar (.timestamp t)) := by
  obtain ⟨cs, hformat⟩ : ∃ cs, t.format = .ok cs := ⟨_, Timestamp.format_eq_ok_iff.2 ⟨ht, rfl⟩⟩
  refine ⟨String.ofList cs, fun callType path ↦ ?_, fun callType path ↦ ?_⟩
  · simp [toCore_scalar, toNamed, toText, hformat]
  · simp [toCore_scalar, toNamed, toTimestamp, Timestamp.parse_of_format hformat]

theorem toCore_string_timestamp {t : Timestamp} (ht : ¬t.Writable) :
    ∃ e, ∀ callType path, toCore .string (.scalar (.timestamp t)) callType path =
      .error (.value path (.unformattable e)) := by
  cases hformat : t.format with
  | ok cs => exact absurd (Timestamp.format_eq_ok_iff.1 hformat).1 ht
  | error e =>
    refine ⟨e, fun callType path ↦ ?_⟩
    simp [toCore_scalar, toNamed, toText, hformat]

/-- **Bytes and timestamps survive their text form.** Text that is cast to bytes is moreover what
the bytes are cast to. A timestamp that cannot be written is refused; the others come back with
their instants and their offsets. -/
theorem text_of_bytes_and_timestamps :
    (∀ bytes, SurvivesText .buffer (.scalar (.buffer bytes))) ∧
    (∀ s bytes callType path,
      toCore .buffer (.scalar (.string s)) callType path = .ok (.scalar (.buffer bytes)) →
        CastsTo .string (.scalar (.buffer bytes)) (.scalar (.string s))) ∧
    ∀ t : Timestamp,
      (t.Writable → SurvivesText .timestamp (.scalar (.timestamp t))) ∧
      (¬t.Writable → ∃ e, ∀ callType path,
        toCore .string (.scalar (.timestamp t)) callType path =
          .error (.value path (.unformattable e))) := by
  refine ⟨survivesText_buffer, ?_, fun t ↦ ⟨survivesText_timestamp, toCore_string_timestamp⟩⟩
  intro s bytes callType path h
  rw [toCore_buffer_string_eq_ok_iff.1 h]
  exact castsTo_string_buffer bytes

/-- A byte, the start of 1970 at universal time, and the same instant at an offset of a second. -/
theorem text_of_bytes_and_timestamps_of_epoch :
    let epoch : Timestamp := ⟨0, 0, 0, by decide⟩
    let shifted : Timestamp := ⟨0, 0, 1, by decide⟩
    toCore .buffer (.scalar (.string "Zg==")) .value .root = .ok (.scalar (.buffer [102])) ∧
      CastsTo .string (.scalar (.buffer [102])) (.scalar (.string "Zg==")) ∧
      epoch.Writable ∧ SurvivesText .timestamp (.scalar (.timestamp epoch)) ∧
      ¬shifted.Writable ∧ ∃ e, ∀ callType path,
        toCore .string (.scalar (.timestamp shifted)) callType path =
          .error (.value path (.unformattable e)) := by
  intro epoch shifted
  have hbytes : toCore .buffer (.scalar (.string "Zg==")) .value .root =
      .ok (.scalar (.buffer [102])) := toCore_buffer_string_eq_ok_iff.2 (by decide)
  have hepoch : epoch.Writable := by decide +kernel
  have hshifted : ¬shifted.Writable := by decide +kernel
  obtain ⟨-, htext, htimestamp⟩ := text_of_bytes_and_timestamps
  exact ⟨hbytes, htext _ _ _ _ hbytes, hepoch, (htimestamp epoch).1 hepoch, hshifted,
    (htimestamp shifted).2 hshifted⟩

end Cast

end ValueStream
