import ValueStream.Number.Binary

/-!
# The shortest decimal that reads back

A floating-point number is shown by the shortest decimal that rounds to it. The reals that round
to a number form an interval around it, closed when the significand is even. The decimals with a
given number of places are a grid; of each grid only the two neighbours of the number can be the
nearest, and the search goes from coarse grids to fine ones until a neighbour lies in the interval.
Of two such neighbours the nearer is taken, of two equally near ones the greater.

The search ends, since the number itself, a multiple of a power of two, lies on the grid of that
same power of ten.

The decimal is written positionally whatever its size: there is never an exponent, and a whole
number has no point.
-/

namespace ValueStream

/-- A number of decimal form: `digits` times ten to the power `exponent`. -/
structure Decimal where
  /-- The digits as one number. -/
  digits : Nat
  /-- The place of the last digit. -/
  exponent : Int
deriving DecidableEq

namespace Decimal

/-- The positional form: the digits with a point or with zeros where the exponent asks for them. -/
def chars (d : Decimal) : List Char :=
  let ds := Nat.toDigits 10 d.digits
  if 0 ≤ d.exponent then ds ++ List.replicate d.exponent.toNat '0'
  else
    let places := (-d.exponent).toNat
    if places < ds.length then ds.take (ds.length - places) ++ '.' :: ds.drop (ds.length - places)
    else ['0', '.'] ++ List.replicate (places - ds.length) '0' ++ ds

end Decimal

namespace Binary

/-- The reals that round to a number, as quarters of its last place: twice two quarters around
four times the significand, or one quarter below where the numbers below are closer together. -/
structure Interval where
  /-- The lower end. -/
  low : Nat
  /-- The number itself. -/
  mid : Nat
  /-- The upper end. -/
  high : Nat
  /-- Whether the ends belong to it. -/
  closed : Bool

/-- The interval of a significand. -/
def intervalOf (k : FloatKind) (significand : Nat) (exponent : Int) : Interval where
  low :=
    if significand = 1 <<< k.fractionBits ∧ k.leastExponent < exponent then 4 * significand - 1
    else 4 * significand - 2
  mid := 4 * significand
  high := 4 * significand + 2
  closed := significand % 2 == 0

/-- Whether a multiple of the step of a grid lies in the interval, where the interval counts in
quarters of the last place: `unit` is one quarter and `step` the grid step, in a common unit. -/
def Interval.holds (i : Interval) (unit step d : Nat) : Bool :=
  if i.closed then decide (i.low * unit ≤ d * step ∧ d * step ≤ i.high * unit)
  else decide (i.low * unit < d * step ∧ d * step < i.high * unit)

/-- The neighbour of the number on a grid that lies in its interval, if one does. -/
def Interval.neighbour (i : Interval) (unit step : Nat) : Option Nat :=
  let below := i.mid * unit / step
  let above := below + 1
  let hasBelow := decide (0 < below) && i.holds unit step below
  let hasAbove := i.holds unit step above
  if hasBelow && hasAbove then
    if 2 * (i.mid * unit - below * step) < step then some below else some above
  else if hasBelow then some below
  else if hasAbove then some above
  else none

/-- Searches the grids from the one of the given exponent downwards. -/
def searchGrids (i : Interval) (exponent : Int) : Nat → Int → Decimal
  | 0, e => ⟨0, e⟩
  | fuel + 1, e =>
    -- both sides are multiplied so that a quarter of the last place and the step are integers
    let unit := Nat.pow 10 (-e).toNat <<< exponent.toNat
    let step := (4 * Nat.pow 10 e.toNat) <<< (-exponent).toNat
    match i.neighbour unit step with
    | some d => ⟨d, e⟩
    | none => searchGrids i exponent fuel (e - 1)

/-- The shortest decimal in the interval of a positive number. -/
def shortest (k : FloatKind) (significand : Nat) (exponent : Int) : Decimal :=
  let r := ratio significand exponent
  let whole := r.1 / r.2
  let start := if whole = 0 then 0 else (Nat.toDigits 10 whole).length
  searchGrids (intervalOf k significand exponent) exponent (start + exponent.natAbs + 1) start

/-- The written form of a number. -/
def chars {k : FloatKind} (x : Binary k) : List Char :=
  match x.decode with
  | .nan => ['N', 'a', 'N']
  | .infinite negative => sign negative ++ ['i', 'n', 'f']
  | .finite negative significand exponent =>
    sign negative ++
      if significand = 0 then ['0'] else (shortest k significand exponent).chars
where
  /-- The minus sign of a negative number. -/
  sign (negative : Bool) : List Char := if negative then ['-'] else []

/-- The written form. -/
def text {k : FloatKind} (x : Binary k) : String := String.ofList x.chars

example : (ofRatio .float64 false 1 10).text = "0.1" := by decide +kernel
example : (⟨1#64⟩ : Binary .float64).chars.length = 326 := by decide +kernel
example : (⟨0x80000000#32⟩ : Binary .float32).text = "-0" := by decide +kernel
example : (ofInt .float64 (10 ^ 23)).text = "100000000000000000000000" := by decide +kernel
example : (ofRatio .float32 true 33 2).text = "-16.5" := by decide +kernel

end Binary

end ValueStream
