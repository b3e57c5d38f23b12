import ValueStream.Number.Integer

/-!
# Binary floating-point numbers

A number of 32 or 64 bits is kept as its bit pattern: a sign, a biased exponent and a fraction.
`decode` reads a pattern as NaN, an infinity, or an exact product of an integer and a power of
two; `ofRatio` goes the other way and rounds an exact quotient to the nearest number, of two
equally near ones to the one with the even fraction. All arithmetic is exact arithmetic of
integers, where a product with a power of two is a shift: no operation of a floating-point unit
takes part.

The patterns of the numbers of one sign are ordered as the numbers are, and the pattern after the
greatest finite number is that of infinity. This is why rounding may carry from the fraction into
the exponent and into infinity by plain addition, and why `order` compares patterns.
-/

namespace ValueStream

/-- The kinds of floating-point numbers. -/
inductive FloatKind
  /-- 32 bits, of which 8 for the exponent and 23 for the fraction. -/
  | float32
  /-- 64 bits, of which 11 for the exponent and 52 for the fraction. -/
  | float64
deriving DecidableEq

namespace FloatKind

/-- The number of bits of the biased exponent. -/
def exponentBits : FloatKind → Nat
  | float32 => 8
  | float64 => 11

/-- The number of bits of the fraction. -/
def fractionBits : FloatKind → Nat
  | float32 => 23
  | float64 => 52

/-- The number of bits. -/
def width (k : FloatKind) : Nat := 1 + k.exponentBits + k.fractionBits

/-- The exponent of the unit in the last place of the least numbers. -/
def leastExponent (k : FloatKind) : Int :=
  2 - (1 <<< (k.exponentBits - 1) : Nat) - k.fractionBits

/-- The pattern of the positive infinity. -/
def infinity (k : FloatKind) : Nat := ((1 <<< k.exponentBits) - 1) <<< k.fractionBits

end FloatKind

/-- A floating-point number of a kind. -/
structure Binary (k : FloatKind) where
  /-- The bit pattern. -/
  bits : BitVec k.width
deriving DecidableEq

/-- What a bit pattern stands for. -/
inductive Decoded
  /-- No number. -/
  | nan
  /-- An infinity, below zero or above. -/
  | infinite (negative : Bool)
  /-- The product of `significand` and two to the power `exponent`, with a sign. -/
  | finite (negative : Bool) (significand : Nat) (exponent : Int)
deriving DecidableEq

namespace Binary

variable {k : FloatKind}

/-! ## Patterns -/

/-- Whether the sign bit is set. -/
def isNegative (x : Binary k) : Bool := x.bits.msb

/-- The pattern without its sign bit. -/
def magnitude (x : Binary k) : Nat := x.bits.toNat % (1 <<< (k.width - 1))

/-- The number with a sign bit and the rest of a pattern. -/
def ofMagnitude (k : FloatKind) (negative : Bool) (magnitude : Nat) : Binary k :=
  ⟨BitVec.ofNat k.width ((if negative then 1 <<< (k.width - 1) else 0) + magnitude)⟩

/-- Whether the pattern is no number. -/
def isNan (x : Binary k) : Bool := decide (k.infinity < x.magnitude)

/-- What the pattern stands for. -/
def decode (x : Binary k) : Decoded :=
  let field := x.magnitude >>> k.fractionBits
  let fraction := x.magnitude % (1 <<< k.fractionBits)
  if x.isNan then .nan
  else if x.magnitude = k.infinity then .infinite x.isNegative
  else if field = 0 then .finite x.isNegative fraction k.leastExponent
  else
    .finite x.isNegative ((1 <<< k.fractionBits) + fraction) (k.leastExponent + (field - 1 : Nat))

/-- The patterns used for no number, one of either sign: all exponent bits and the first fraction
bit. -/
def signedNan (k : FloatKind) (negative : Bool) : Binary k :=
  ofMagnitude k negative (k.infinity + (1 <<< (k.fractionBits - 1)))

/-- The pattern used for no number where nothing gives it a sign. -/
def nan (k : FloatKind) : Binary k := signedNan k false

/-- An infinity. -/
def infinite (k : FloatKind) (negative : Bool) : Binary k := ofMagnitude k negative k.infinity

/-! ## Order -/

/-- The pattern as a signed number; both zeros give zero. -/
def key (x : Binary k) : Int := if x.isNegative then -(x.magnitude : Int) else x.magnitude

/-- The order of two numbers, where there is one: NaN is unordered, and the zeros are equal. -/
def order (x y : Binary k) : Option Ordering :=
  if x.isNan || y.isNan then none else some (compareOfLessAndEq x.key y.key)

/-! ## Rounding -/

/-- The integer nearest to a quotient; a half goes to the even neighbour. -/
def roundQuotient (num den : Nat) : Nat :=
  let q := num / den
  let twice := 2 * (num % den)
  if twice < den then q else if den < twice then q + 1 else q + q % 2

/-- The greatest exponent whose power of two is not above a positive quotient. -/
def floorLog (num den : Nat) : Int :=
  let e : Int := (num.log2 : Int) - den.log2
  let reached := if 0 ≤ e then den <<< e.toNat ≤ num else den ≤ num <<< (-e).toNat
  if reached then e else e - 1

/-- The pattern of the number nearest to a quotient. -/
def roundMagnitude (k : FloatKind) (num den : Nat) : Nat :=
  if num = 0 then 0
  else
    let e := max k.leastExponent (floorLog num den - k.fractionBits)
    let m :=
      if 0 ≤ e then roundQuotient num (den <<< e.toNat)
      else roundQuotient (num <<< (-e).toNat) den
    min k.infinity (m + ((e - k.leastExponent).toNat <<< k.fractionBits))

/-- The number nearest to a signed quotient. -/
def ofRatio (k : FloatKind) (negative : Bool) (num den : Nat) : Binary k :=
  ofMagnitude k negative (roundMagnitude k num den)

/-- The number nearest to an integer. -/
def ofInt (k : FloatKind) (n : Int) : Binary k := ofRatio k (decide (n < 0)) n.natAbs 1

/-- A significand times a power of two as a quotient. -/
def ratio (significand : Nat) (exponent : Int) : Nat × Nat :=
  (significand <<< exponent.toNat, 1 <<< (-exponent).toNat)

/-- The number of another kind nearest to this one. -/
def convert (target : FloatKind) (x : Binary k) : Binary target :=
  match x.decode with
  | .nan => nan target
  | .infinite negative => infinite target negative
  | .finite negative significand exponent =>
    let r := ratio significand exponent
    ofRatio target negative r.1 r.2

/-- The integer of a kind that a number becomes: the part after the point is dropped, what lies
outside the range goes to the nearer end, and no number becomes zero. -/
def toInteger (target : IntegerKind) (x : Binary k) : Integer target :=
  match x.decode with
  | .nan => Integer.clamp target 0
  | .infinite true => Integer.clamp target target.least
  | .infinite false => Integer.clamp target target.greatest
  | .finite negative significand exponent =>
    let r := ratio significand exponent
    let whole : Int := (r.1 / r.2 : Nat)
    Integer.clamp target (if negative then -whole else whole)

example : ofInt .float64 1 = ⟨0x3ff0000000000000#64⟩ := by decide +kernel
example : ofRatio .float32 true 1 10 = ⟨0xbdcccccd#32⟩ := by decide +kernel
example : convert .float32 (⟨0x3ff8000000000000#64⟩ : Binary .float64) = ⟨0x3fc00000#32⟩ := by
  decide +kernel

end Binary

end ValueStream
