import ValueStream.Regex.Basic

/-!
# Matching

A pattern is matched by moving marks over it while the text is read once. A mark on a set says that
some match has just taken a character by that set, so that all matches that are under way are kept
in one copy of the pattern; repetitions with a count are written out beforehand. One character moves
every mark at most once, and no text makes a pattern slow.

Only whether a pattern matches somewhere is asked, so that the order of alternatives and the greed
of repetitions play no part.
-/

namespace ValueStream

/-- A pattern with marks. -/
inductive Marked
  /-- The empty text. -/
  | empty
  /-- One character of a set, which may be marked. -/
  | char (s : CharSet) (mark : Bool)
  /-- A condition on the place. -/
  | look (l : Look)
  /-- One pattern, then another. -/
  | seq (r s : Marked)
  /-- Either pattern. -/
  | alt (r s : Marked)
  /-- A pattern once or more often. -/
  | many (r : Marked)

namespace Marked

/-- Whether the empty text at a place is a match. -/
def passes (p : Place) : Marked → Bool
  | empty => true
  | char _ _ => false
  | look l => l.holds p
  | seq r s => r.passes p && s.passes p
  | alt r s => r.passes p || s.passes p
  | many r => r.passes p

/-- Whether a match that is under way can end at a place. -/
def finishes (p : Place) : Marked → Bool
  | empty | look _ => false
  | char _ mark => mark
  | seq r s => s.finishes p || r.finishes p && s.passes p
  | alt r s => r.finishes p || s.finishes p
  | many r => r.finishes p

/-- Moves the marks over the character after a place; `enters` says whether a match may begin at the
place. -/
def step (p : Place) (c : Char) (enters : Bool) : Marked → Marked
  | empty => empty
  | char s _ => char s (enters && s.has c)
  | look l => look l
  | seq r s => seq (r.step p c enters) (s.step p c (enters && r.passes p || r.finishes p))
  | alt r s => alt (r.step p c enters) (s.step p c enters)
  | many r => many (r.step p c (enters || r.finishes p))

/-- Whether a match ends in the text that is left, or one that begins in it does. -/
def search : Marked → Option Char → List Char → Bool
  | r, before, [] =>
    let p : Place := ⟨before, none⟩
    r.finishes p || r.passes p
  | r, before, c :: cs =>
    let p : Place := ⟨before, some c⟩
    r.finishes p || r.passes p || search (r.step p c true) (some c) cs

/-- A pattern a number of times. The copies are halved again and again, so that many of them do not
nest deeply; the bound on the halvings is the number itself. -/
def times (r : Marked) (n : Nat) : Marked := halve n n
where
  /-- A number of copies, by so many halvings at most. -/
  halve : Nat → Nat → Marked
    | 0, _ => empty
    | fuel + 1, n =>
      if n = 0 then empty
      else if n = 1 then r
      else seq (halve fuel (n / 2)) (halve fuel (n - n / 2))

end Marked

namespace Regex

/-- The pattern without marks, with its counted repetitions written out. -/
def unmarked : Regex → Marked
  | empty => .empty
  | char s => .char s false
  | look l => .look l
  | seq r s => .seq r.unmarked s.unmarked
  | alt r s => .alt r.unmarked s.unmarked
  | repeated r least greatest =>
    match r.tries least greatest with
    | (0, none) => .alt .empty (.many r.unmarked)
    | (least + 1, none) => .seq (r.unmarked.times least) (.many r.unmarked)
    | (least, some greatest) =>
      .seq (r.unmarked.times least) ((Marked.alt .empty r.unmarked).times (greatest - least))
  | group _ r => r.unmarked

/-- Whether the pattern matches anywhere in a text. -/
def isMatch (r : Regex) (s : String) : Bool := r.unmarked.search none s.toList

end Regex

end ValueStream
