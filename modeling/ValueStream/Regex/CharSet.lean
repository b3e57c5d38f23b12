import ValueStream.Text.Blank
import ValueStream.Text.CaseFold
import ValueStream.Text.Cased

/-!
# Sets of characters

What one place of a pattern takes: ranges of code points, properties of characters, and the unions,
intersections and complements of these. A set can be closed under changes of case, for all scripts
or for the letters of ASCII alone.
-/

namespace ValueStream

/-- A set of characters. -/
inductive CharSet
  /-- No character. -/
  | none
  /-- The characters between two code points, both included. -/
  | range (least greatest : Nat)
  /-- The decimal digits of all scripts. -/
  | digit
  /-- The word characters. -/
  | word
  /-- The blank characters. -/
  | blank
  /-- The characters used as letters. -/
  | alphabetic
  /-- The small letters, and what is shaped like them. -/
  | lowercase
  /-- The capital letters, and what is shaped like them. -/
  | uppercase
  /-- The characters of some categories. -/
  | categories (cs : List Text.Category)
  /-- All characters outside a set. -/
  | outside (s : CharSet)
  /-- The characters of either set. -/
  | union (s t : CharSet)
  /-- The characters of both sets. -/
  | both (s t : CharSet)
  /-- The characters that differ in case alone from one of a set. -/
  | anyCase (s : CharSet)
  /-- The characters of a set, and the letters of ASCII that differ in case alone from one of it. -/
  | anyLatinCase (s : CharSet)

namespace CharSet

/-- The letter of ASCII that differs in case from a code point, or the code point itself. -/
def switchLatinCase (n : Nat) : Nat :=
  if 65 ≤ n ∧ n ≤ 90 then n + 32 else if 97 ≤ n ∧ n ≤ 122 then n - 32 else n

/-- Whether a code point belongs to the set. -/
def hasCode : CharSet → Nat → Bool
  | none, _ => false
  | range least greatest, n => decide (least ≤ n ∧ n ≤ greatest)
  | digit, n => Text.isScriptDigit (Char.ofNat n)
  | word, n => Text.isWordChar (Char.ofNat n)
  | blank, n => Text.isBlank (Char.ofNat n)
  | alphabetic, n => Text.isAlphabetic (Char.ofNat n) && !Text.recentTable.has (Char.ofNat n)
  | lowercase, n => Text.isLowercase (Char.ofNat n)
  | uppercase, n => Text.isUppercase (Char.ofNat n)
  | categories cs, n => cs.contains (Text.earlierCategory (Char.ofNat n))
  | outside s, n => !s.hasCode n
  | union s t, n => s.hasCode n || t.hasCode n
  | both s t, n => s.hasCode n && t.hasCode n
  | anyCase s, n => s.hasCode n || (Text.caseVariants n).any s.hasCode
  | anyLatinCase s, n => s.hasCode n || s.hasCode (switchLatinCase n)

/-- Whether a character belongs to the set. -/
def has (s : CharSet) (c : Char) : Bool := s.hasCode c.toNat

/-- The set of one character. -/
def single (c : Char) : CharSet := range c.toNat c.toNat

/-- The decimal digits of ASCII. -/
def latinDigit : CharSet := range 48 57

/-- The letters of ASCII. -/
def latinLetter : CharSet := union (range 65 90) (range 97 122)

/-- The letters, digits and the underscore of ASCII. -/
def latinWord : CharSet := union latinDigit (union latinLetter (single '_'))

/-- The blanks of ASCII. -/
def latinBlank : CharSet := union (range 9 13) (single ' ')

/-- Any character. -/
def any : CharSet := outside none

end CharSet

end ValueStream
