import ValueStream.Regex.Parser
import ValueStream.Scalar

/-!
# Types and values

A type is a name that a restriction may narrow, a list of elements of a type, or a type that admits
null as well. A restriction is a pattern for texts or a range between two values. A value is a
scalar, a map, a list that carries its type, or a struct that carries its name. The three notions
are defined together, for a list carries a type, a type may carry a restriction, and the bounds of a
range are values.

Maps and structs keep their fields in the order of insertion. That no key occurs twice is the
predicate `Value.WellFormed`, which everything that builds a value establishes.
-/

namespace ValueStream

mutual

/-- A type. -/
inductive TypeRef
  /-- A named type, which may be restricted. -/
  | atomic (type : AtomicType)
  /-- Lists. -/
  | list (type : ListType)
  /-- Null, or another type. -/
  | nullable (inner : TypeRef)

/-- A named type with its restriction. -/
structure AtomicType where
  /-- The name. -/
  name : QualifiedName
  /-- The restriction, if there is one. -/
  restriction : Option Restriction

/-- Lists of elements of one type. -/
structure ListType where
  /-- The type of the elements. -/
  element : TypeRef
  /-- Whether a list may have no elements. -/
  allowsEmpty : Bool

/-- A condition on the values of a named type. -/
inductive Restriction
  /-- A text that the pattern matches somewhere. -/
  | regex (pattern : Pattern)
  /-- A value in the range. -/
  | range (bounds : ValueRange)

/-- An interval; a side without a bound is open to all. -/
structure ValueRange where
  /-- The lower bound. -/
  least : Option Value
  /-- Whether the lower bound belongs to the interval. -/
  leastIncluded : Bool
  /-- The upper bound. -/
  greatest : Option Value
  /-- Whether the upper bound belongs to the interval. -/
  greatestIncluded : Bool

/-- A value. -/
inductive Value
  /-- A value without parts. -/
  | scalar (s : Scalar)
  /-- A map from identifiers to values, in the order of insertion. -/
  | map (fields : List (Identifier × Value))
  /-- A list with its type. -/
  | list (type : ListType) (elements : List Value)
  /-- A map tagged with the name of a struct type. -/
  | struct (type : QualifiedName) (fields : List (Identifier × Value))

end

/-! ## Types -/

namespace AtomicType

/-- The named type without a restriction. -/
def plain (name : QualifiedName) : AtomicType := ⟨name, none⟩

/-- The core type that is named, if one is. -/
def coreType (a : AtomicType) : Option CoreType := CoreType.ofQualifiedName a.name

end AtomicType

namespace TypeRef

/-- The unrestricted type of a name. -/
def named (name : QualifiedName) : TypeRef := .atomic (.plain name)

/-- A core type. -/
def core (t : CoreType) : TypeRef := named t.qualifiedName

/-- The type of every value but null. -/
def value : TypeRef := core .value

/-- The core type that an atomic type names. -/
def coreType : TypeRef → Option CoreType
  | atomic a => a.coreType
  | _ => none

/-- Whether the type is the type of every value, restricted or not. -/
def isValue (t : TypeRef) : Bool := t.coreType == some .value

/-- Whether the type is the type of maps, restricted or not. -/
def isSymbolMap (t : TypeRef) : Bool := t.coreType == some .symbolMap

/-- The type without the layers that admit null. -/
def unwrap : TypeRef → TypeRef
  | nullable t => t.unwrap
  | t => t

@[simp] theorem unwrap_atomic (a : AtomicType) : (atomic a).unwrap = atomic a := rfl
@[simp] theorem unwrap_list (l : ListType) : (list l).unwrap = list l := rfl
@[simp] theorem unwrap_nullable (t : TypeRef) : (nullable t).unwrap = t.unwrap := rfl

end TypeRef

/-- The lists that take any elements but null. -/
def ListType.opaque_ : ListType := ⟨.value, true⟩

/-! ## Values -/

namespace Value

/-- Null. -/
def null : Value := .scalar .null

/-- The type of a value: of a list the type it carries, of the rest an atomic type. -/
def typeOf : Value → TypeRef
  | scalar s => .named s.typeName
  | map _ => .core .symbolMap
  | list type _ => .list type
  | struct type _ => .named type

/-- Whether the value has no parts. -/
def isScalar : Value → Bool
  | scalar _ => true
  | _ => false

/-- The order of two scalars that have one. -/
def order : Value → Value → Option Ordering
  | scalar s, scalar t => s.order t
  | _, _ => none

/-- Induction over the parts of a value. -/
theorem induct {motive : Value → Prop} (scalar : ∀ s, motive (.scalar s))
    (map : ∀ fields, (∀ f ∈ fields, motive f.2) → motive (.map fields))
    (list : ∀ type elements, (∀ v ∈ elements, motive v) → motive (.list type elements))
    (struct : ∀ type fields, (∀ f ∈ fields, motive f.2) → motive (.struct type fields)) :
    ∀ v, motive v := by
  intro v
  refine Value.rec (motive_1 := fun _ ↦ True) (motive_2 := fun _ ↦ True)
    (motive_3 := fun _ ↦ True) (motive_4 := fun _ ↦ True) (motive_5 := fun _ ↦ True)
    (motive_6 := motive) (motive_7 := fun _ ↦ True) (motive_8 := fun _ ↦ True)
    (motive_9 := fun fields ↦ ∀ f ∈ fields, motive f.2)
    (motive_10 := fun elements ↦ ∀ v ∈ elements, motive v) (motive_11 := fun f ↦ motive f.2)
    (fun _ _ ↦ trivial) (fun _ _ ↦ trivial) (fun _ _ ↦ trivial) (fun _ _ _ ↦ trivial)
    (fun _ _ _ ↦ trivial) (fun _ ↦ trivial) (fun _ _ ↦ trivial) (fun _ _ _ _ _ _ ↦ trivial)
    scalar map (fun type elements _ h ↦ list type elements h) struct
    trivial (fun _ _ ↦ trivial) trivial (fun _ _ ↦ trivial)
    (fun _ h ↦ absurd h List.not_mem_nil) ?_ (fun _ h ↦ absurd h List.not_mem_nil) ?_
    (fun _ _ h ↦ h) v
  · intro f fields hf hfields g hg
    rcases List.mem_cons.1 hg with rfl | hg
    · exact hf
    · exact hfields g hg
  · intro w elements hw helements u hu
    rcases List.mem_cons.1 hu with rfl | hu
    · exact hw
    · exact helements u hu

end Value

end ValueStream
