import Mathlib.Data.Int.ModEq
import ValueStream.Proofs.Cast.Scalar

/-!
# Casts between integer types

The ranges of the integer types have powers of two as their sizes, and a cast of an integer to such
a type keeps the remainder modulo the size. So all that counts of a cast is a congruence: a type has
one integer for every residue (`Integer.eq_wrap_iff`), and what is congruent modulo a power of two
is so modulo every lower one. A cast through a type that is wide enough does therefore not show
(`integers_by_residue`), whatever the signs of the types are.
-/

namespace ValueStream

/-! ## Integers of a kind and residues -/

theorem IntegerKind.size_eq (k : IntegerKind) : k.size = 2 ^ k.width := by
  cases k <;> decide

namespace Integer

variable {k l : IntegerKind}

theorem wrap_modEq (k : IntegerKind) (n : Int) : (wrap k n).value ≡ n [ZMOD 2 ^ k.width] := by
  rw [← k.size_eq]
  exact wrap_emod k n

/-- Only the residue counts. -/
theorem wrap_congr {m n : Int} (h : m ≡ n [ZMOD 2 ^ k.width]) : wrap k m = wrap k n := by
  have hshift : (m - k.least) % k.size = (n - k.least) % k.size := by
    rw [k.size_eq]
    exact h.sub_right k.least
  ext
  simp only [wrap, hshift]

/-- Of each residue there is one integer of the kind. -/
theorem eq_wrap_iff {m : Integer k} {n : Int} :
    m = wrap k n ↔ m.value ≡ n [ZMOD 2 ^ k.width] := by
  constructor
  · rintro rfl
    exact wrap_modEq k n
  · intro h
    rw [← wrap_congr h, wrap_value]

/-- A wider kind keeps what a narrower one makes of a number. -/
theorem wrap_wrap (h : l.width ≤ k.width) (n : Int) : wrap l (wrap k n).value = wrap l n :=
  wrap_congr ((wrap_modEq k n).of_dvd (pow_dvd_pow 2 h))

end Integer

namespace Cast

variable {t : CoreType} {callType : TypeRef} {path : Path}

/-! ## Casts to core types -/

/-- The cast of a value to a core type, without a restriction. -/
def toCore (t : CoreType) (v : Value) (callType : TypeRef) (path : Path) : Outcome Value :=
  atomic (.plain t.qualifiedName) v callType path

/-- The cast of a value to a core type gives a value, whatever is reported as expected and where. -/
def CastsTo (t : CoreType) (v w : Value) : Prop :=
  ∀ callType path, toCore t v callType path = .ok w

@[simp] theorem coreType_plain (t : CoreType) :
    (AtomicType.plain t.qualifiedName).coreType = some t :=
  CoreType.ofQualifiedName_qualifiedName t

/-- A core type has no restriction, so that its cast is the cast to the named type. -/
theorem toCore_scalar {x : Scalar} (hx : x ≠ .null) :
    toCore t (.scalar x) callType path =
      toNamed (.plain t.qualifiedName) (.scalar x) callType path := by
  rw [toCore, atomic, unrestricted_of_ne_null (scalar_ne_null hx)]
  cases toNamed (.plain t.qualifiedName) (.scalar x) callType path <;> rfl

/-! ## Casts of integers -/

theorem castsTo_integer (k : IntegerKind) {l : IntegerKind} (n : Integer l) :
    CastsTo (.integer k) (.scalar (.integer l n)) (.scalar (.integer k (.wrap k n.value))) := by
  intro callType path
  simp [toCore_scalar, toNamed, toInteger]

/-- **An integer is cast to the one integer of the target that is congruent to it** modulo two to
the power of the target's width. From there a cast back gives the integer again if the target is
wide enough, and a cast to a third type that is no wider gives what a direct one gives. -/
theorem integers_by_residue (k l : IntegerKind) (n : Integer k) :
    ∃ m : Integer l,
      CastsTo (.integer l) (.scalar (.integer k n)) (.scalar (.integer l m)) ∧
      (∀ m' : Integer l, m'.value ≡ n.value [ZMOD 2 ^ l.width] ↔ m' = m) ∧
      (k.width ≤ l.width →
        CastsTo (.integer k) (.scalar (.integer l m)) (.scalar (.integer k n))) ∧
      ∀ j : IntegerKind, j.width ≤ l.width →
        toCore (.integer j) (.scalar (.integer l m)) =
          toCore (.integer j) (.scalar (.integer k n)) := by
  refine ⟨.wrap l n.value, castsTo_integer l n, fun m' ↦ Integer.eq_wrap_iff.symm, ?_, ?_⟩
  · intro hwidth callType path
    rw [castsTo_integer, Integer.wrap_wrap hwidth, Integer.wrap_value]
  · intro j hwidth
    funext callType path
    rw [castsTo_integer, castsTo_integer, Integer.wrap_wrap hwidth]

/-- A negative number in a wider type without negative ones, from there back, and from there to
another narrow type. -/
theorem integers_by_residue_of_minus_two :
    let n : Integer .int32 := ⟨-2, by decide, by decide⟩
    let wide : Integer .uint64 := ⟨18446744073709551614, by decide, by decide⟩
    let narrow : Integer .uint32 := ⟨4294967294, by decide, by decide⟩
    CastsTo (.integer .uint64) (.scalar (.integer .int32 n)) (.scalar (.integer .uint64 wide)) ∧
      IntegerKind.int32.width ≤ IntegerKind.uint64.width ∧
      CastsTo (.integer .int32) (.scalar (.integer .uint64 wide)) (.scalar (.integer .int32 n)) ∧
      IntegerKind.uint32.width ≤ IntegerKind.uint64.width ∧
      CastsTo (.integer .uint32) (.scalar (.integer .uint64 wide))
        (.scalar (.integer .uint32 narrow)) := by
  intro n wide narrow
  have hback : IntegerKind.int32.width ≤ IntegerKind.uint64.width := by decide
  have hon : IntegerKind.uint32.width ≤ IntegerKind.uint64.width := by decide
  obtain ⟨m, hcast, hresidue, hfrom, hthrough⟩ := integers_by_residue .int32 .uint64 n
  obtain rfl : wide = m := (hresidue wide).1 (by decide)
  refine ⟨hcast, hback, hfrom hback, hon, ?_⟩
  rw [CastsTo, hthrough .uint32 hon]
  exact castsTo_integer .uint32 n

end Cast

end ValueStream
