import ValueStream.Value.Basic

/-!
# The written forms of types and values

A restriction follows the name of its type after a tilde: a pattern as quoted text, a range as its
bounds between brackets that are square where the bound belongs to it and round where not. A list
type ends in `*` if it allows empty lists and in `+` if not; a type that admits null ends in `?`.

A map shows its fields as `key:value` between braces, a list its elements between brackets, and a
struct its name before its fields.
-/

namespace ValueStream

mutual

/-- The written form of a type. -/
def TypeRef.text : TypeRef → String
  | .atomic a => a.text
  | .list l => l.text
  | .nullable t => t.text ++ "?"

/-- The written form of a named type with its restriction. -/
def AtomicType.text : AtomicType → String
  | ⟨name, restriction⟩ => name.text ++ Restriction.suffix restriction

/-- The written form of a list type. -/
def ListType.text : ListType → String
  | ⟨element, allowsEmpty⟩ => element.text ++ if allowsEmpty then "*" else "+"

/-- The restriction of a type after its name. -/
def Restriction.suffix : Option Restriction → String
  | none => ""
  | some r => "~" ++ r.text

/-- The written form of a restriction. -/
def Restriction.text : Restriction → String
  | .regex pattern => Text.quote pattern.source
  | .range bounds => bounds.text

/-- The written form of a range. -/
def ValueRange.text : ValueRange → String
  | ⟨least, leastIncluded, greatest, greatestIncluded⟩ =>
    (if leastIncluded then "[" else "(") ++ Value.boundText least ++ "," ++
      Value.boundText greatest ++ if greatestIncluded then "]" else ")"

/-- The written form of a bound, which is empty where there is none. -/
def Value.boundText : Option Value → String
  | none => ""
  | some v => v.text

/-- The written form of a value. -/
def Value.text : Value → String
  | .scalar s => s.text
  | .map fields => "\x7b" ++ ", ".intercalate (Value.fieldTexts fields) ++ "\x7d"
  | .list _ elements => "[" ++ ", ".intercalate (Value.elementTexts elements) ++ "]"
  | .struct type fields =>
    type.text ++ "\x7b" ++ ", ".intercalate (Value.fieldTexts fields) ++ "\x7d"

/-- The written forms of the elements of a list. -/
def Value.elementTexts : List Value → List String
  | [] => []
  | v :: rest => v.text :: Value.elementTexts rest

/-- The written forms of fields. -/
def Value.fieldTexts : List (Identifier × Value) → List String
  | [] => []
  | (key, v) :: rest => (key.text ++ ":" ++ v.text) :: Value.fieldTexts rest

end

end ValueStream
