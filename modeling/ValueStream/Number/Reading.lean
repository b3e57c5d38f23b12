import ValueStream.Number.Binary

/-!
# Reading floating-point numbers

The accepted texts are an optional sign and then `inf`, `infinity` or `nan` in any case of
letters, or decimal digits with at most one point among or beside them and an optional exponent.
There is a digit before or after the point, and the exponent has one as well. The number is the
nearest one to the decimal read; what is too great becomes an infinity and what is too small a
zero. A minus sign sets the sign bit of any of them, of a zero and of NaN too.

A decimal is judged by the place of its first digit before any power of ten is raised, so that a
great exponent costs nothing.
-/

namespace ValueStream

namespace Binary

/-- A decimal as it was read: digits before and after the point, and an exponent. -/
structure Numeral where
  /-- The digits before the point. -/
  whole : List Char
  /-- The digits after the point. -/
  fraction : List Char
  /-- The exponent. -/
  exponent : Int

/-- Reads the exponent, which starts with the letter, at the end of a text. -/
def readExponent : List Char → Option Int
  | [] => some 0
  | c :: cs => if c = 'e' ∨ c = 'E' then Integer.readNumber true cs else none

/-- Reads an unsigned decimal. -/
def readNumeral (cs : List Char) : Option Numeral :=
  let whole := cs.takeWhile Char.isDigit
  match cs.dropWhile Char.isDigit with
  | '.' :: rest =>
    let fraction := rest.takeWhile Char.isDigit
    if whole.isEmpty && fraction.isEmpty then none
    else (readExponent (rest.dropWhile Char.isDigit)).map fun e ↦ ⟨whole, fraction, e⟩
  | rest =>
    if whole.isEmpty then none else (readExponent rest).map fun e ↦ ⟨whole, [], e⟩

/-- No number of either kind lies beyond this power of ten, or between zero and its inverse. -/
def decimalReach : Nat := 400

/-- The number nearest to a decimal. -/
def ofNumeral (k : FloatKind) (negative : Bool) (n : Numeral) : Binary k :=
  let ds := (n.whole ++ n.fraction).dropWhile (· == '0')
  let digits := Nat.ofDigitChars 10 ds 0
  let exponent := n.exponent - n.fraction.length
  let top := exponent + ds.length
  if digits = 0 then ofMagnitude k negative 0
  else if (decimalReach : Int) < top then infinite k negative
  else if top < -(decimalReach : Int) then ofMagnitude k negative 0
  else ofRatio k negative (digits * Nat.pow 10 exponent.toNat) (Nat.pow 10 (-exponent).toNat)

/-- Reads a number of a given sign without its sign. -/
def readUnsigned (k : FloatKind) (negative : Bool) (cs : List Char) : Option (Binary k) :=
  match readNumeral cs with
  | some n => some (ofNumeral k negative n)
  | none =>
    let word := String.ofList (cs.map Char.toLower)
    if word = "inf" ∨ word = "infinity" then some (infinite k negative)
    else if word = "nan" then some (signedNan k negative)
    else none

/-- Reads a number. -/
def read (k : FloatKind) (s : String) : Option (Binary k) :=
  match s.toList with
  | '+' :: cs => readUnsigned k false cs
  | '-' :: cs => readUnsigned k true cs
  | cs => readUnsigned k false cs

example : read .float64 "1.5e1" = some (ofInt .float64 15) := by decide +kernel
example : read .float64 ".5" = some (ofRatio .float64 false 1 2) := by decide +kernel
example : read .float64 "-Infinity" = some (infinite .float64 true) := by decide +kernel
example : read .float64 "1e999999999999" = some (infinite .float64 false) := by decide +kernel
example : read .float32 "-nan" = some ⟨0xffc00000#32⟩ := by decide +kernel
example : read .float64 "." = none := by decide +kernel

end Binary

end ValueStream
