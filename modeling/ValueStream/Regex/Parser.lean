import ValueStream.Regex.Bracket
import ValueStream.Regex.Size

/-!
# Reading patterns

The notation of patterns: literals and escapes, the dot, bracketed sets, conditions on the place,
groups, alternatives and counted repetitions. Reading is by recursion on a bound that the length of
the text gives, for every step takes at least one character.

A text is no pattern if it is malformed, if two of its groups have the same name, if it nests too
deeply or if the pattern would be too large.
-/

namespace ValueStream

namespace Regex

/-! ## Groups -/

/-- Reads flags up to the colon or parenthesis that ends them; `used` holds the flags read, and
`pending` says that a minus sign still lacks a flag. -/
def readFlags (f : Flags) (negated pending : Bool) (used : List Char) :
    List Char → Option (Flags × List Char)
  | [] => none
  | c :: cs =>
    if c = ':' ∨ c = ')' then if pending then none else some (f, c :: cs)
    else if c = '-' then if negated then none else readFlags f true true used cs
    else if used.contains c then none
    else
      match c with
      | 'i' => readFlags { f with ignoreCase := !negated } negated false (c :: used) cs
      | 'm' => readFlags { f with multiLine := !negated } negated false (c :: used) cs
      | 's' => readFlags { f with dotAll := !negated } negated false (c :: used) cs
      | 'x' => readFlags { f with extended := !negated } negated false (c :: used) cs
      | 'R' => readFlags { f with returns := !negated } negated false (c :: used) cs
      | 'u' => readFlags { f with allScripts := !negated } negated false (c :: used) cs
      | 'U' => readFlags f negated false (c :: used) cs
      | _ => none

/-- Whether a character may stand in the name of a group, at its start or later. -/
def isNameChar (first : Bool) (c : Char) : Bool :=
  c == '_' || Text.isAlphabetic c ||
    !first && (Text.isNumeric c || c == '.' || c == '[' || c == ']')

/-- Reads the name of a group up to its closing mark. -/
def readGroupName (cs : List Char) : Option (List Char × List Char) :=
  match cs.takeWhile (isNameChar false), cs.dropWhile (isNameChar false) with
  | c :: name, '>' :: rest => if isNameChar true c then some (c :: name, rest) else none
  | _, _ => none

/-- The start of a group. -/
inductive GroupStart
  /-- Flags for the rest of the group around. -/
  | flags (f : Flags)
  /-- A group, with a name or without. -/
  | group (name : Option (List Char)) (f : Flags)

/-- Reads the start of a group after its parenthesis. -/
def readGroupStart (f : Flags) (cs : List Char) : Option (GroupStart × List Char) :=
  match skipExtended f cs with
  | '?' :: 'P' :: '<' :: cs | '?' :: '<' :: cs =>
    (readGroupName cs).map fun p ↦ (.group (some p.1) f, p.2)
  | '?' :: ')' :: _ => none
  | '?' :: cs =>
    match readFlags f false false [] cs with
    | some (g, ':' :: rest) => some (.group none g, rest)
    | some (g, _ :: rest) => some (.flags g, rest)
    | _ => none
  | cs => some (.group none f, cs)

/-! ## Repetitions -/

/-- Drops the mark that makes a repetition lazy. -/
def dropLazy : List Char → List Char
  | '?' :: cs => cs
  | cs => cs

/-- Reads a counted repetition after its brace: how often at least and at most. -/
def readCounts (f : Flags) (cs : List Char) : Option ((Nat × Option Nat) × List Char) := do
  let (least, rest) ← readCount f (skipExtended f cs)
  let (greatest, rest) ←
    match rest with
    | ',' :: rest =>
      match skipExtended f rest with
      | '\x7d' :: rest => some (none, '\x7d' :: rest)
      | rest => (readCount f rest).map fun p ↦ (some p.1, p.2)
    | rest => some (some least, rest)
  match rest with
  | '\x7d' :: rest =>
    if greatest.all (least ≤ ·) then some ((least, greatest), dropLazy (skipExtended f rest))
    else none
  | _ => none

/-- Repeats the last pattern read; there has to be one. -/
def repeatLast (least : Nat) (greatest : Option Nat) :
    List (Nested Regex) → Option (List (Nested Regex))
  | r :: rs => some (⟨.repeated r.content least greatest, r.depth + 1⟩ :: rs)
  | [] => none

/-! ## Items -/

/-- What comes next in a pattern. -/
inductive Item
  /-- The end of the text or of a group. -/
  | finish
  /-- A bar between alternatives. -/
  | bar
  /-- The start of a group. -/
  | opening (start : GroupStart)
  /-- A repetition of what came last, so often at least and at most. -/
  | repetition (least : Nat) (greatest : Option Nat)
  /-- A pattern for one character or a place between characters. -/
  | leaf (r : Nested Regex)

/-- The pattern of an escape. A pattern for ASCII alone has no bytes beyond ASCII. -/
def ofEscape (f : Flags) : Escape → Option Regex
  | .literal c byte =>
    if !f.allScripts && byte && decide (128 ≤ c.toNat) then none
    else some (.char (f.close (.single c)))
  | .set s => some (.char s)
  | .look l => some (.look l)

/-- The pattern of a character without a backslash. -/
def ofMark (f : Flags) : Char → Option Regex
  | '.' => f.dot?.map .char
  | '^' => some (.look f.startSign)
  | '$' => some (.look f.endSign)
  | c => some (.char (f.close (.single c)))

/-- Reads what comes next; the mark at the end of a group is left. -/
def readItem (f : Flags) : List Char → Option (Item × List Char)
  | [] => some (.finish, [])
  | c :: rest =>
    match c with
    | ')' => some (.finish, c :: rest)
    | '|' => some (.bar, rest)
    | '(' => (readGroupStart f rest).map fun p ↦ (.opening p.1, p.2)
    | '*' => some (.repetition 0 none, dropLazy rest)
    | '+' => some (.repetition 1 none, dropLazy rest)
    | '?' => some (.repetition 0 (some 1), dropLazy rest)
    | '\x7b' => (readCounts f rest).map fun p ↦ (.repetition p.1.1 p.1.2, p.2)
    | '[' => (readBracket f rest).map fun p ↦ (.leaf ⟨.char p.1.content, p.1.depth⟩, p.2)
    | '\\' => do
      let (e, rest) ← readEscape f rest
      some (.leaf ⟨← ofEscape f e, 0⟩, rest)
    | c => (ofMark f c).map fun r ↦ (.leaf ⟨r, 0⟩, rest)

/-! ## Sequences and alternatives -/

/-- The sequence of some patterns, the last one first. -/
def sequence (rs : List (Nested Regex)) : Nested Regex where
  content := joined (rs.map (·.content))
  depth := levels (rs.map (·.depth))
where
  /-- The patterns one after the other. -/
  joined : List Regex → Regex
    | [] => .empty
    | r :: rs => rs.foldl (fun rest s ↦ .seq s rest) r

/-- The alternatives of some patterns, the last one first. -/
def alternatives (last : Nested Regex) (rs : List (Nested Regex)) : Nested Regex where
  content := rs.foldl (fun rest r ↦ .alt r.content rest) last.content
  depth := levels (last.depth :: rs.map (·.depth))

/-- Reads alternatives up to the end of the text or of the group. `done` holds the alternatives
read, `items` the patterns of the current one, the last ones first; `canRepeat` says whether a
repetition may follow. -/
def readAlternatives : Nat → Flags → List (Nested Regex) → List (Nested Regex) → Bool →
    List Char → Option (Nested Regex × List Char)
  | 0, _, _, _, _, _ => none
  | fuel + 1, f, done, items, canRepeat, cs =>
    match readItem f (skipExtended f cs) with
    | none => none
    | some (.finish, rest) => some (alternatives (sequence items) done, rest)
    | some (.bar, rest) => readAlternatives fuel f (sequence items :: done) [] false rest
    | some (.opening (.flags g), rest) =>
      readAlternatives fuel g done (⟨.empty, 0⟩ :: items) false rest
    | some (.opening (.group name g), rest) =>
      match readAlternatives fuel g [] [] false rest with
      | some (r, ')' :: rest) =>
        readAlternatives fuel f done (⟨.group name r.content, r.depth + 1⟩ :: items) true rest
      | _ => none
    | some (.repetition least greatest, rest) =>
      match if canRepeat then repeatLast least greatest items else none with
      | some items => readAlternatives fuel f done items true rest
      | none => none
    | some (.leaf r, rest) => readAlternatives fuel f done (r :: items) true rest

/-- The greatest number of levels of a pattern. -/
def depthLimit : Nat := 250

/-- Reads a whole pattern. -/
def parse (s : String) : Option Regex := do
  let cs := s.toList
  match ← readAlternatives (cs.length + 1) {} [] [] false cs with
  | (r, []) =>
    if r.depth ≤ depthLimit ∧ r.content.names.Nodup ∧ r.content.size ≤ sizeLimit then
      some r.content
    else none
  | _ => none

end Regex

/-- A pattern with the text it was read from. -/
structure Pattern where
  /-- The text. -/
  source : String
  /-- What the text says. -/
  regex : Regex
  /-- The text says so. -/
  parsed : Regex.parse source = some regex

namespace Pattern

theorem ext {p q : Pattern} (h : p.source = q.source) : p = q := by
  obtain ⟨s, r, hr⟩ := p
  obtain ⟨t, u, hu⟩ := q
  cases h
  cases hr.symm.trans hu
  rfl

instance : DecidableEq Pattern := fun p q ↦
  decidable_of_iff (p.source = q.source) ⟨ext, fun h ↦ h ▸ rfl⟩

end Pattern

end ValueStream
