import ValueStream.Regex.Escape

/-!
# Bracketed sets

A bracket lists characters, ranges, escapes, named classes of ASCII and further brackets, between
which two ampersands, hyphens or tildes stand for an intersection, a difference or a symmetric
difference. How deeply a bracket nests is counted, since a pattern may nest so deeply only.
-/

namespace ValueStream.Regex

/-- What has been read, and how deeply it nests. -/
structure Nested (α : Type) where
  /-- What has been read. -/
  content : α
  /-- The levels of nesting. -/
  depth : Nat

/-- One level around a list of parts, unless there is one part only. -/
def levels (depths : List Nat) : Nat :=
  match depths with
  | [] => 0
  | [d] => d
  | ds => ds.foldl max 0 + 1

/-- The characters of an ASCII class by name. -/
def asciiClass (name : String) : Option CharSet :=
  let alphanumeric := CharSet.union .latinDigit .latinLetter
  match name with
  | "alnum" => some alphanumeric
  | "alpha" => some .latinLetter
  | "ascii" => some (.range 0 127)
  | "blank" => some (.union (.single '\t') (.single ' '))
  | "cntrl" => some (.union (.range 0 31) (.range 127 127))
  | "digit" => some .latinDigit
  | "graph" => some (.range 33 126)
  | "lower" => some (.range 97 122)
  | "print" => some (.range 32 126)
  | "punct" => some (.both (.range 33 126) (.outside alphanumeric))
  | "space" => some .latinBlank
  | "upper" => some (.range 65 90)
  | "word" => some .latinWord
  | "xdigit" => some (.union .latinDigit (.union (.range 65 70) (.range 97 102)))
  | _ => none

/-- The class that a colon and the characters after it name, up to the closing colon and bracket:
whether it is negated, its characters, and the text after it. -/
def readAsciiClass : List Char → Option (Bool × CharSet × List Char)
  | ':' :: '^' :: cs => (named cs).map (true, ·)
  | ':' :: cs => (named cs).map (false, ·)
  | _ => none
where
  /-- Reads the name and its end. -/
  named (cs : List Char) : Option (CharSet × List Char) :=
    match cs.dropWhile Char.isAlpha with
    | ':' :: ']' :: rest => (asciiClass (String.ofList (cs.takeWhile Char.isAlpha))).map (·, rest)
    | _ => none

/-- Reads one member of a bracketed set: a character or a set. -/
def readMember (f : Flags) : List Char → Option (Escape × List Char)
  | '\\' :: cs => readEscape f cs
  | c :: cs => some (.literal c false, cs)
  | [] => none

/-- A range of characters. In a pattern for ASCII alone both ends belong to ASCII. -/
def memberRange (f : Flags) (first last : Char) : Option CharSet :=
  if last < first then none
  else if !f.allScripts && decide (128 ≤ last.toNat) then none
  else some (.range first.toNat last.toNat)

/-- Reads one member or a range from one character to another. A hyphen before the closing bracket
or before another hyphen makes no range. -/
def readMemberRange (f : Flags) (cs : List Char) : Option (CharSet × List Char) := do
  let (first, rest) ← readMember f cs
  match skipExtended f rest with
  | '-' :: more =>
    let next := peekExtended f more
    if next == some ']' || next == some '-' then (← alone first, '-' :: more)
    else
      match first, ← readMember f (skipExtended f more) with
      | .literal c _, (.literal d _, rest) => (← memberRange f c d, rest)
      | _, _ => none
  | rest => (← alone first, rest)
where
  /-- The set of one member. -/
  alone : Escape → Option CharSet
    | .literal c _ => memberRange f c c
    | .set s => some s
    | .look _ => none

/-- The operations between the parts of a bracketed set. -/
inductive SetOperator
  /-- The characters of both. -/
  | both
  /-- The characters of the first alone. -/
  | without
  /-- The characters of one and not of the other. -/
  | either

/-- The set that an operation makes of two. -/
def SetOperator.apply : SetOperator → CharSet → CharSet → CharSet
  | both, s, t => .both s t
  | without, s, t => .both s (.outside t)
  | either, s, t => .union (.both s (.outside t)) (.both t (.outside s))

/-- The members read since the last operator or the start of the bracket, the last one first. -/
abbrev Members := List (Nested CharSet)

/-- All members together. -/
def Members.all (ms : Members) : Nested CharSet where
  content := ms.foldl (fun s m ↦ .union m.content s) .none
  depth := levels (ms.map (·.depth))

/-- The part of a bracketed set before an operator. -/
structure SetPart where
  /-- The operator after it. -/
  op : SetOperator
  /-- The part. -/
  set : Nested CharSet

/-- The set made of what has been read: the part before the last operator and the members after. -/
def joinParts (f : Flags) (before : Option SetPart) (members : Members) : Nested CharSet :=
  match before with
  | none => members.all
  | some part =>
    let last := members.all
    { content := part.op.apply (f.close part.set.content) (f.close last.content)
      depth := max part.set.depth last.depth + 1 }

/-- Reads the start of a bracketed set after its bracket: whether it is negated, and the hyphens or
the closing bracket that stand for themselves there. -/
def readSetStart (f : Flags) (cs : List Char) : Bool × Members × List Char :=
  let (negated, cs) :=
    match skipExtended f cs with
    | '^' :: rest => (true, skipExtended f rest)
    | rest => (false, rest)
  match readRun f (· == '-') cs.length cs with
  | ([], ']' :: rest) => (negated, [⟨.single ']', 0⟩], rest)
  | (hyphens, rest) => (negated, hyphens.map fun c ↦ ⟨.single c, 0⟩, rest)

/-- Reads a bracketed set up to its closing bracket. -/
def readSet (f : Flags) :
    Nat → Option SetPart → Members → List Char → Option (Nested CharSet × List Char)
  | 0, _, _, _ => none
  | fuel + 1, before, members, cs =>
    let operator (op : SetOperator) (rest : List Char) :=
      readSet f fuel (some ⟨op, joinParts f before members⟩) [] rest
    match skipExtended f cs with
    | [] => none
    | ']' :: rest => some (joinParts f before members, rest)
    | '[' :: rest =>
      match readAsciiClass rest with
      | some (negated, s, rest) => do
        readSet f fuel before (⟨← f.signed? negated s, 0⟩ :: members) rest
      | none => do
        let (negated, first, rest) := readSetStart f rest
        let (s, rest) ← readSet f fuel none first rest
        readSet f fuel before (⟨← f.signed? negated s.content, s.depth + 1⟩ :: members) rest
    | '&' :: '&' :: rest => operator .both rest
    | '-' :: '-' :: rest => operator .without rest
    | '~' :: '~' :: rest => operator .either rest
    | cs => do
      let (s, rest) ← readMemberRange f cs
      readSet f fuel before (⟨s, 0⟩ :: members) rest

/-- Reads a bracket after its first character. -/
def readBracket (f : Flags) (cs : List Char) : Option (Nested CharSet × List Char) := do
  let (negated, first, rest) := readSetStart f cs
  let (s, rest) ← readSet f (cs.length + 1) none first rest
  some (⟨← f.signed? negated s.content, s.depth + 1⟩, rest)

end ValueStream.Regex
