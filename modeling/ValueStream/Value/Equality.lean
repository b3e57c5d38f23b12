import ValueStream.Value.Basic

/-!
# The equality of the data model

Two values are the same when they have the same shape and the same scalars, where scalars are
compared as their type says: NaN differs from itself, so that a value that holds one is not the
same as itself; the two zeros are one; of a timestamp only the instant counts. Patterns are
compared by their text.
-/

namespace ValueStream

mutual

/-- The sameness of types. -/
def TypeRef.same : TypeRef → TypeRef → Bool
  | .atomic a, .atomic b => a.same b
  | .list l, .list m => l.same m
  | .nullable t, .nullable u => t.same u
  | _, _ => false

/-- The sameness of named types with their restrictions. -/
def AtomicType.same : AtomicType → AtomicType → Bool
  | ⟨name, r⟩, ⟨name', r'⟩ => decide (name = name') && Restriction.sameOption r r'

/-- The sameness of list types. -/
def ListType.same : ListType → ListType → Bool
  | ⟨element, allowsEmpty⟩, ⟨element', allowsEmpty'⟩ =>
    element.same element' && allowsEmpty == allowsEmpty'

/-- The sameness of restrictions that may be missing. -/
def Restriction.sameOption : Option Restriction → Option Restriction → Bool
  | none, none => true
  | some r, some r' => r.same r'
  | _, _ => false

/-- The sameness of restrictions. -/
def Restriction.same : Restriction → Restriction → Bool
  | .regex p, .regex q => decide (p.source = q.source)
  | .range b, .range c => b.same c
  | _, _ => false

/-- The sameness of ranges. -/
def ValueRange.same : ValueRange → ValueRange → Bool
  | ⟨least, leastIncluded, greatest, greatestIncluded⟩,
    ⟨least', leastIncluded', greatest', greatestIncluded'⟩ =>
    Value.sameOption least least' && leastIncluded == leastIncluded' &&
      Value.sameOption greatest greatest' && greatestIncluded == greatestIncluded'

/-- The sameness of bounds that may be missing. -/
def Value.sameOption : Option Value → Option Value → Bool
  | none, none => true
  | some v, some w => v.same w
  | _, _ => false

/-- The sameness of values. -/
def Value.same : Value → Value → Bool
  | .scalar s, .scalar t => s.same t
  | .map fs, .map gs => Value.sameFields fs gs
  | .list l vs, .list m ws => l.same m && Value.sameElements vs ws
  | .struct q fs, .struct r gs => decide (q = r) && Value.sameFields fs gs
  | _, _ => false

/-- The sameness of elements, in order. -/
def Value.sameElements : List Value → List Value → Bool
  | [], [] => true
  | v :: vs, w :: ws => v.same w && Value.sameElements vs ws
  | _, _ => false

/-- The sameness of fields, in order. -/
def Value.sameFields : List (Identifier × Value) → List (Identifier × Value) → Bool
  | [], [] => true
  | (k, v) :: fs, (l, w) :: gs => decide (k = l) && v.same w && Value.sameFields fs gs
  | _, _ => false

end

end ValueStream
