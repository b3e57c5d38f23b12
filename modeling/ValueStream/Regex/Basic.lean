import ValueStream.Regex.CharSet

/-!
# Patterns

A pattern describes texts: single characters from a set, conditions on a place of the text,
sequences, alternatives and repetitions. A place lies before the first character, between two
characters or after the last one, and is known by the characters next to it.
-/

namespace ValueStream

/-- A condition on a place of the text, which takes no characters. -/
inductive Look
  /-- The text starts here. -/
  | textStart
  /-- The text ends here. -/
  | textEnd
  /-- A line starts here. -/
  | lineStart
  /-- A line ends here. -/
  | lineEnd
  /-- A line starts here, where a carriage return and a line feed together end a line, too. -/
  | returnLineStart
  /-- A line ends here, where a carriage return and a line feed together end a line, too. -/
  | returnLineEnd
  /-- A word starts or ends here, where words are made of the characters of a set. -/
  | wordBoundary (w : CharSet)
  /-- No word starts or ends here. -/
  | noWordBoundary (w : CharSet)
  /-- A word starts here. -/
  | wordStart (w : CharSet)
  /-- A word ends here. -/
  | wordEnd (w : CharSet)
  /-- No word character stands before. -/
  | wordStartHalf (w : CharSet)
  /-- No word character stands after. -/
  | wordEndHalf (w : CharSet)

/-- A place in a text. -/
structure Place where
  /-- The character before, unless the text starts here. -/
  before : Option Char
  /-- The character after, unless the text ends here. -/
  after : Option Char

/-- Whether the condition holds at a place. -/
def Look.holds (p : Place) : Look → Bool
  | textStart => p.before.isNone
  | textEnd => p.after.isNone
  | lineStart => p.before.all (· == '\n')
  | lineEnd => p.after.all (· == '\n')
  | returnLineStart =>
    p.before.all (· == '\n') || p.before == some '\r' && p.after != some '\n'
  | returnLineEnd =>
    p.after.all (· == '\r') || p.after == some '\n' && p.before != some '\r'
  | wordBoundary w => p.before.any w.has != p.after.any w.has
  | noWordBoundary w => p.before.any w.has == p.after.any w.has
  | wordStart w => !p.before.any w.has && p.after.any w.has
  | wordEnd w => p.before.any w.has && !p.after.any w.has
  | wordStartHalf w => !p.before.any w.has
  | wordEndHalf w => !p.after.any w.has

/-- A pattern. -/
inductive Regex
  /-- The empty text. -/
  | empty
  /-- One character of a set. -/
  | char (s : CharSet)
  /-- A condition on the place. -/
  | look (l : Look)
  /-- One pattern, then another. -/
  | seq (r s : Regex)
  /-- Either pattern. -/
  | alt (r s : Regex)
  /-- A pattern a number of times, from a least to a greatest, if there is one. -/
  | repeated (r : Regex) (least : Nat) (greatest : Option Nat)
  /-- A group, which may have a name. -/
  | group (name : Option (List Char)) (r : Regex)

namespace Regex

/-- The names of the groups. -/
def names : Regex → List (List Char)
  | seq r s | alt r s => r.names ++ s.names
  | repeated r _ _ => r.names
  | group name r => name.toList ++ r.names
  | _ => []

/-- Whether the pattern takes no characters, whatever the text. -/
def takesNothing : Regex → Bool
  | empty | look _ => true
  | char _ => false
  | seq r s | alt r s => r.takesNothing && s.takesNothing
  | repeated r _ greatest => greatest == some 0 || r.takesNothing
  | group _ r => r.takesNothing

/-- How often a repetition need be tried, at least and at most. What takes no characters does not
become another by being repeated, so that once is enough. -/
def tries (r : Regex) (least : Nat) (greatest : Option Nat) : Nat × Option Nat :=
  if r.takesNothing then (min least 1, some (min (greatest.getD 1) 1)) else (least, greatest)

end Regex

end ValueStream
