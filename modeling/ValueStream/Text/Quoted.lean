import ValueStream.Text.Unprintable

/-!
# Quoted text

A text is shown between double quotes. The quote, the backslash and four control characters have
short escapes; a character that would not show, or that would join the one before it, is given by
its number in braces; all else stands for itself. A single quote needs no escape.
-/

namespace ValueStream.Text

/-- The escape by number: the code point in lower-case hexadecimal, in braces. -/
def numberEscape (c : Char) : List Char :=
  ['\\', 'u', '\x7b'] ++ Nat.toDigits 16 c.toNat ++ ['\x7d']

/-- How one character is written inside a quoted text. -/
def escapeChar (c : Char) : List Char :=
  if c = '\x00' then ['\\', '0']
  else if c = '\t' then ['\\', 't']
  else if c = '\r' then ['\\', 'r']
  else if c = '\n' then ['\\', 'n']
  else if c = '\\' then ['\\', '\\']
  else if c = '\"' then ['\\', '\"']
  else if isCombining c || isUnprintable c then numberEscape c
  else [c]

/-- A text between double quotes. -/
def quote (s : String) : String :=
  String.ofList ('\"' :: s.toList.flatMap escapeChar ++ ['\"'])

/-- A byte as two lower-case hexadecimal digits. -/
def hexByte (b : UInt8) : List Char :=
  [Nat.digitChar (b.toNat / 16), Nat.digitChar (b.toNat % 16)]

example : quote "a\"b'\n" = "\"a\\\"b'\\n\"" := by decide +kernel

end ValueStream.Text
