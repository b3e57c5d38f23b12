/-!
# Integers of fixed width

Four kinds of integers, by width and sign. An integer of a kind is an `Int` with the proof that it
lies in the range of the kind, so that arithmetic about them is arithmetic of `Int`. Every `Int`
is carried into a range in two ways: `wrap` keeps the remainder modulo the size of the range, and
`clamp` goes to the nearer end.

The written form is an optional minus sign and decimal digits without leading zeros. Reading is
more liberal, since a plus sign and leading zeros are taken as well, and it never wraps: a number
outside the range is refused.
-/

namespace ValueStream

/-- The kinds of integers. -/
inductive IntegerKind
  /-- Signed, 32 bits. -/
  | int32
  /-- Signed, 64 bits. -/
  | int64
  /-- Unsigned, 32 bits. -/
  | uint32
  /-- Unsigned, 64 bits. -/
  | uint64
deriving DecidableEq

namespace IntegerKind

/-- The number of bits. -/
def width : IntegerKind → Nat
  | int32 | uint32 => 32
  | int64 | uint64 => 64

/-- Whether the kind has negative numbers. -/
def signed : IntegerKind → Bool
  | int32 | int64 => true
  | uint32 | uint64 => false

/-- The number of integers of the kind. -/
def size (k : IntegerKind) : Int := (1 <<< k.width : Nat)

/-- The least integer of the kind. -/
def least (k : IntegerKind) : Int := if k.signed then -(1 <<< (k.width - 1) : Nat) else 0

/-- The greatest integer of the kind. -/
def greatest (k : IntegerKind) : Int := k.least + k.size - 1

theorem size_pos (k : IntegerKind) : 0 < k.size := by cases k <;> decide

theorem least_le_greatest (k : IntegerKind) : k.least ≤ k.greatest := by cases k <;> decide

end IntegerKind

/-- An integer of a kind. -/
structure Integer (k : IntegerKind) where
  /-- The number. -/
  value : Int
  /-- The number is not below the range of its kind. -/
  least_le : k.least ≤ value
  /-- The number is not above the range of its kind. -/
  le_greatest : value ≤ k.greatest
deriving DecidableEq

namespace Integer

variable {k : IntegerKind}

@[ext] theorem ext {m n : Integer k} (h : m.value = n.value) : m = n := by
  cases m; cases n; simp_all

/-! ## Numbers into a range -/

/-- The integer of the kind that is congruent to a number modulo the size of the kind. -/
def wrap (k : IntegerKind) (n : Int) : Integer k where
  value := (n - k.least) % k.size + k.least
  least_le := by have := Int.emod_nonneg (n - k.least) (Int.ne_of_gt k.size_pos); omega
  le_greatest := by
    have := Int.emod_lt_of_pos (n - k.least) k.size_pos
    unfold IntegerKind.greatest
    omega

/-- The integer of the kind nearest to a number. -/
def clamp (k : IntegerKind) (n : Int) : Integer k where
  value := max k.least (min k.greatest n)
  least_le := by omega
  le_greatest := by have := k.least_le_greatest; omega

/-- A number as an integer of the kind, if it lies in the range. -/
def ofInt? (k : IntegerKind) (n : Int) : Option (Integer k) :=
  if h : k.least ≤ n ∧ n ≤ k.greatest then some ⟨n, h.1, h.2⟩ else none

theorem wrap_emod (k : IntegerKind) (n : Int) : (wrap k n).value % k.size = n % k.size := by
  simp only [wrap, Int.emod_add_emod]
  congr 1
  omega

theorem ofInt?_eq_some_iff {n : Int} {m : Integer k} : ofInt? k n = some m ↔ m.value = n := by
  unfold ofInt?
  split
  · simp [Integer.ext_iff, eq_comm]
  · next h =>
    simp only [reduceCtorEq, false_iff]
    rintro rfl
    exact h ⟨m.least_le, m.le_greatest⟩

@[simp] theorem ofInt?_value (m : Integer k) : ofInt? k m.value = some m :=
  ofInt?_eq_some_iff.2 rfl

@[simp] theorem wrap_value (m : Integer k) : wrap k m.value = m := by
  have h₁ := m.least_le
  have h₂ := m.le_greatest
  unfold IntegerKind.greatest at h₂
  ext
  simp only [wrap]
  rw [Int.emod_eq_of_lt (by omega) (by omega)]
  omega

/-- The order of two integers of a kind. -/
def order (m n : Integer k) : Ordering := compareOfLessAndEq m.value n.value

/-! ## Text -/

/-- The written form of a number: a minus sign if it is negative, then its digits. -/
def chars : Int → List Char
  | .ofNat n => Nat.toDigits 10 n
  | .negSucc n => '-' :: Nat.toDigits 10 (n + 1)

/-- The written form. -/
def text (m : Integer k) : String := String.ofList (chars m.value)

/-- Reads decimal digits, of which there is at least one. -/
def readDigits (cs : List Char) : Option Nat :=
  if !cs.isEmpty && cs.all Char.isDigit then some (Nat.ofDigitChars 10 cs 0) else none

/-- Reads a number: a plus sign, or a minus sign where those are allowed, or no sign, then
digits. -/
def readNumber (negatives : Bool) : List Char → Option Int
  | '+' :: cs => (readDigits cs).map Int.ofNat
  | '-' :: cs => if negatives then (readDigits cs).map fun n ↦ -(n : Int) else none
  | cs => (readDigits cs).map Int.ofNat

/-- Reads an integer of a kind. -/
def read (k : IntegerKind) (s : String) : Option (Integer k) :=
  (readNumber k.signed s.toList).bind (ofInt? k)

end Integer

end ValueStream
