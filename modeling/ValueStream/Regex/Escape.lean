import ValueStream.Regex.Flags
import ValueStream.Regex.Property

/-!
# Escapes

What a backslash and the characters after it stand for: a character, a set of characters or a
condition on the place.
-/

namespace ValueStream.Regex

/-- What an escape stands for. -/
inductive Escape
  /-- A character; whether it is given as a byte. -/
  | literal (c : Char) (byte : Bool)
  /-- A set of characters. -/
  | set (s : CharSet)
  /-- A condition on the place. -/
  | look (l : Look)

/-- A character that an escape may stand before without a meaning of its own. -/
def isPlainEscape (c : Char) : Bool :=
  decide (c.toNat < 128) && !c.isAlphanum && c != '<' && c != '>'

/-- The condition in braces after the escape of a word boundary. -/
def boundaryName (f : Flags) (name : List Char) : Option Look :=
  match String.ofList name with
  | "start" => some (.wordStart f.word)
  | "end" => some (.wordEnd f.word)
  | "start-half" => some (.wordStartHalf f.word)
  | "end-half" => some (.wordEndHalf f.word)
  | _ => none

/-- Reads what follows the escape of a word boundary. Braces without a name are left for a
repetition. -/
def readBoundary (f : Flags) : List Char → Option (Look × List Char)
  | '\x7b' :: cs =>
    match readRun f (fun c ↦ c.isAlpha || c == '-') cs.length cs with
    | ([], _) => some (.wordBoundary f.word, '\x7b' :: cs)
    | (name, '\x7d' :: rest) => (boundaryName f name).map (·, rest)
    | _ => none
  | cs => some (.wordBoundary f.word, cs)

/-- The characters that a property in braces names, and whether the property is denied. -/
def propertySet (cs : List Char) : Option (CharSet × Bool) :=
  match denial cs with
  | some (name, value) => (ofSides name value).map (·, true)
  | none =>
    let sign := if cs.contains ':' then ':' else '='
    match cs.dropWhile (· != sign) with
    | _ :: value => (ofSides (cs.takeWhile (· != sign)) value).map (·, false)
    | [] => (CharSet.ofPropertyName (CharSet.propertyName cs)).map (·, false)
where
  /-- The characters that have a value of a property. -/
  ofSides (name value : List Char) : Option CharSet :=
    CharSet.ofPropertyValue (CharSet.propertyName name) (CharSet.propertyName value)
  /-- The two sides of the first sign of inequality. -/
  denial : List Char → Option (List Char × List Char)
    | '!' :: '=' :: rest => some ([], rest)
    | c :: rest => (denial rest).map fun p ↦ (c :: p.1, p.2)
    | [] => none

/-- Reads the name of a property, in braces or of one letter. -/
def readProperty (f : Flags) (negated : Bool) (cs : List Char) : Option (CharSet × List Char) := do
  let (s, denied, rest) ←
    match skipExtended f cs with
    | '\x7b' :: cs =>
      match readRun f (· != '\x7d') cs.length cs with
      | (name, '\x7d' :: rest) => (propertySet name).map fun p ↦ (p.1, p.2, rest)
      | _ => none
    | '\\' :: _ | [] => none
    | c :: rest => (CharSet.ofPropertyName (CharSet.propertyName [c])).map (·, false, rest)
  if f.allScripts then (f.signed? (negated != denied) s).map (·, rest) else none

/-- Reads an escape after its backslash. -/
def readEscape (f : Flags) : List Char → Option (Escape × List Char)
  | [] => none
  | c :: cs =>
    match c with
    | 'd' => some (.set f.digit, cs)
    | 'D' => (f.complement? f.digit).map (.set ·, cs)
    | 'w' => some (.set f.word, cs)
    | 'W' => (f.complement? f.word).map (.set ·, cs)
    | 's' => some (.set f.blank, cs)
    | 'S' => (f.complement? f.blank).map (.set ·, cs)
    | 'p' => (readProperty f false cs).map fun p ↦ (.set p.1, p.2)
    | 'P' => (readProperty f true cs).map fun p ↦ (.set p.1, p.2)
    | 'b' => (readBoundary f cs).map fun p ↦ (.look p.1, p.2)
    | 'B' => some (.look (.noWordBoundary f.word), cs)
    | '<' => some (.look (.wordStart f.word), cs)
    | '>' => some (.look (.wordEnd f.word), cs)
    | 'A' => some (.look .textStart, cs)
    | 'z' => some (.look .textEnd, cs)
    | 'a' => some (.literal '\x07' false, cs)
    | 'f' => some (.literal '\x0c' false, cs)
    | 't' => some (.literal '\t' false, cs)
    | 'n' => some (.literal '\n' false, cs)
    | 'r' => some (.literal '\r' false, cs)
    | 'v' => some (.literal '\x0b' false, cs)
    | 'x' =>
      let byte := (skipExtended f cs).head? != some '\x7b'
      (readHex f 2 cs).map fun p ↦ (.literal p.1 byte, p.2)
    | 'u' => (readHex f 4 cs).map fun p ↦ (.literal p.1 false, p.2)
    | 'U' => (readHex f 8 cs).map fun p ↦ (.literal p.1 false, p.2)
    | c => if isPlainEscape c then some (.literal c false, cs) else none

end ValueStream.Regex
