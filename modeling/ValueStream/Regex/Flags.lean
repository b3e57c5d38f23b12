import ValueStream.Regex.Basic

/-!
# How patterns are read

Flags say how a part of a pattern is read: whether case counts, where lines end, what the dot takes,
whether letters are those of all scripts, and whether blanks and comments between the signs are
skipped. The readers here take a list of characters and give what they have read and the characters
left, or nothing if there is a fault; a fault has no reason.
-/

namespace ValueStream.Regex

/-- How a part of a pattern is read. -/
structure Flags where
  /-- Letters stand for both cases. -/
  ignoreCase : Bool := false
  /-- Anchors hold at the ends of lines. -/
  multiLine : Bool := false
  /-- A carriage return ends a line, too. -/
  returns : Bool := false
  /-- The dot takes line ends. -/
  dotAll : Bool := false
  /-- Blanks and comments are skipped. -/
  extended : Bool := false
  /-- Letters and digits are those of all scripts. -/
  allScripts : Bool := true

/-- A set as the flags would have it. -/
def Flags.close (f : Flags) (s : CharSet) : CharSet :=
  if !f.ignoreCase then s else if f.allScripts then .anyCase s else .anyLatinCase s

/-- The complement of a set. A pattern for ASCII alone has none: it would reach beyond. -/
def Flags.complement? (f : Flags) (s : CharSet) : Option CharSet :=
  if f.allScripts then some (.outside s) else none

/-- The set as a bracket or a name has it: closed under changes of case first, and negated then. -/
def Flags.signed? (f : Flags) (negated : Bool) (s : CharSet) : Option CharSet :=
  if negated then f.complement? (f.close s) else some (f.close s)

/-- The decimal digits. -/
def Flags.digit (f : Flags) : CharSet := if f.allScripts then .digit else .latinDigit

/-- The word characters. -/
def Flags.word (f : Flags) : CharSet := if f.allScripts then .word else .latinWord

/-- The blank characters. -/
def Flags.blank (f : Flags) : CharSet := if f.allScripts then .blank else .latinBlank

/-- What the dot takes. -/
def Flags.dot? (f : Flags) : Option CharSet :=
  f.complement?
    (if f.dotAll then .none
    else if f.returns then .union (.single '\n') (.single '\r')
    else .single '\n')

/-- What the sign for the start of a line or of the text stands for. -/
def Flags.startSign (f : Flags) : Look :=
  if !f.multiLine then .textStart else if f.returns then .returnLineStart else .lineStart

/-- What the sign for the end of a line or of the text stands for. -/
def Flags.endSign (f : Flags) : Look :=
  if !f.multiLine then .textEnd else if f.returns then .returnLineEnd else .lineEnd

/-! ## Blanks and comments -/

/-- Skips blanks and comments where the flags ask for it. -/
def skipExtended (f : Flags) : List Char → List Char
  | [] => []
  | '#' :: cs => if f.extended then skipComment cs else '#' :: cs
  | c :: cs => if f.extended && Text.isBlank c then skipExtended f cs else c :: cs
where
  /-- Skips to the end of the line, and goes on from there. -/
  skipComment : List Char → List Char
    | [] => []
    | '\n' :: cs => skipExtended f cs
    | _ :: cs => skipComment cs

/-- Reads characters of a class, so many at most, among which the flags may let blanks and comments
be skipped. -/
def readRun (f : Flags) (p : Char → Bool) : Nat → List Char → List Char × List Char
  | 0, cs => ([], skipExtended f cs)
  | limit + 1, cs =>
    match skipExtended f cs with
    | c :: rest =>
      if p c then
        let (run, rest) := readRun f p limit rest
        (c :: run, rest)
      else ([], c :: rest)
    | [] => ([], [])

/-- The character that comes after a hyphen in a bracket. Here a comment counts only up to its first
character. -/
def peekExtended (f : Flags) (cs : List Char) : Option Char :=
  if !f.extended then cs.head?
  else
    match cs.dropWhile Text.isBlank with
    | '#' :: rest => (rest.dropWhile Text.isBlank).head?
    | rest => rest.head?

/-! ## Numbers -/

/-- Reads decimal digits after blanks, and skips blanks after them. -/
def readCount (f : Flags) (cs : List Char) : Option (Nat × List Char) :=
  let (ds, rest) := readRun f Char.isDigit cs.length (cs.dropWhile Text.isBlank)
  let n := Nat.ofDigitChars 10 ds 0
  if ds.isEmpty || 0x100000000 ≤ n then none else some (n, rest.dropWhile Text.isBlank)

/-- The value of a hexadecimal digit. -/
def hexValue (c : Char) : Option Nat :=
  if c.isDigit then some (c.toNat - 48)
  else if 'a' ≤ c ∧ c ≤ 'f' then some (c.toNat - 87)
  else if 'A' ≤ c ∧ c ≤ 'F' then some (c.toNat - 55)
  else none

/-- The character with a hexadecimal number. -/
def hexChar (ds : List Char) : Option Char := do
  let n ← ds.foldlM (fun n d ↦ (hexValue d).map (n * 16 + ·)) 0
  if ds.isEmpty || !(Nat.isValidChar n) then none else some (Char.ofNat n)

/-- Reads a character given by so many hexadecimal digits, or by digits in braces. -/
def readHex (f : Flags) (count : Nat) (cs : List Char) : Option (Char × List Char) :=
  match skipExtended f cs with
  | '\x7b' :: cs =>
    match readRun f (· != '\x7d') cs.length cs with
    | (ds, '\x7d' :: rest) => (hexChar ds).map (·, rest)
    | _ => none
  | cs =>
    match readRun f (hexValue · |>.isSome) count cs with
    | (ds, rest) => if ds.length = count then (hexChar ds).map (·, rest) else none

end ValueStream.Regex
