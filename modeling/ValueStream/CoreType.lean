import ValueStream.Name.Qualified
import ValueStream.Number.Binary

/-!
# Core types

The thirteen built-in types. They are declared in one namespace, and a qualified name in that
namespace that is none of the thirteen names no core type.
-/

namespace ValueStream

/-- The built-in types. -/
inductive CoreType
  /-- The type of every value but null. -/
  | value
  /-- The type of null. -/
  | null
  /-- Truth values. -/
  | boolean
  /-- Bytes. -/
  | buffer
  /-- Text. -/
  | string
  /-- Integers of a kind. -/
  | integer (kind : IntegerKind)
  /-- Floating-point numbers of a kind. -/
  | float (kind : FloatKind)
  /-- Instants, shown at an offset. -/
  | timestamp
  /-- Maps from identifiers to values. -/
  | symbolMap
deriving DecidableEq

namespace CoreType

/-- The core types in the order of their declaration. -/
def all : List CoreType :=
  [value, null, boolean, buffer, string, integer .int32, integer .int64, integer .uint32,
    integer .uint64, float .float32, float .float64, timestamp, symbolMap]

theorem mem_all (t : CoreType) : t ∈ all := by
  rcases t with _ | _ | _ | _ | _ | (_ | _ | _ | _) | (_ | _) | _ | _ <;> decide

/-- The name of the type in its namespace. -/
def name : CoreType → String
  | value => "Value"
  | null => "Null"
  | boolean => "Boolean"
  | buffer => "Buffer"
  | string => "String"
  | integer .int32 => "Int32"
  | integer .int64 => "Int64"
  | integer .uint32 => "Uint32"
  | integer .uint64 => "Uint64"
  | float .float32 => "Float32"
  | float .float64 => "Float64"
  | timestamp => "Timestamp"
  | symbolMap => "SymbolMap"

/-- The namespace of the core types. -/
def space : String := "mingle:core@v1"

theorem space_valid : QualifiedName.isNamespace space.toList = true := by decide +kernel

theorem name_valid (t : CoreType) : QualifiedName.isName t.name.toList = true := by
  rcases t with _ | _ | _ | _ | _ | (_ | _ | _ | _) | (_ | _) | _ | _ <;>
    decide +kernel

/-- The qualified name of a core type. -/
def qualifiedName (t : CoreType) : QualifiedName := ⟨space, t.name, space_valid, t.name_valid⟩

/-- The core type that a qualified name stands for, if it stands for one. -/
def ofQualifiedName (q : QualifiedName) : Option CoreType :=
  if q.space = space then all.find? fun t ↦ t.name == q.name else none

/-- The written form of the qualified name. -/
def text (t : CoreType) : String := t.qualifiedName.text

/-- Whether the type is one of the four integer types. -/
def isInteger : CoreType → Bool
  | integer _ => true
  | _ => false

/-- Whether the type is an integer or floating-point type. -/
def isNumeric : CoreType → Bool
  | float _ => true
  | t => t.isInteger

@[simp] theorem ofQualifiedName_qualifiedName (t : CoreType) :
    ofQualifiedName t.qualifiedName = some t := by
  rcases t with _ | _ | _ | _ | _ | (_ | _ | _ | _) | (_ | _) | _ | _ <;>
    decide +kernel

theorem ofQualifiedName_eq_some_iff {q : QualifiedName} {t : CoreType} :
    ofQualifiedName q = some t ↔ q = t.qualifiedName := by
  constructor
  · intro h
    unfold ofQualifiedName at h
    split at h
    · next hs =>
      have hn := List.find?_some h
      exact QualifiedName.ext hs (eq_of_beq hn).symm
    · cases h
  · rintro rfl
    simp

end CoreType

end ValueStream
