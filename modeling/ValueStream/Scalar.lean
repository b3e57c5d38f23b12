import ValueStream.CoreType
import ValueStream.Name.Identifier
import ValueStream.Number.Reading
import ValueStream.Number.Shortest
import ValueStream.Text.Quoted
import ValueStream.Timestamp.Rfc3339

/-!
# Scalars

The values without parts: null, truth values, bytes, text, numbers of fixed width, timestamps and
values of an enum. Equality of Lean tells floating-point numbers apart by their bits and timestamps
by their offsets; the equality of the data model is `Scalar.same`, for which NaN differs from
itself, the two zeros are one, and only the instant of a timestamp counts.
-/

namespace ValueStream

/-- A value without parts. -/
inductive Scalar
  /-- Null. -/
  | null
  /-- A truth value. -/
  | boolean (b : Bool)
  /-- Bytes. -/
  | buffer (bytes : List UInt8)
  /-- Text. -/
  | string (s : String)
  /-- An integer. -/
  | integer (kind : IntegerKind) (n : Integer kind)
  /-- A floating-point number. -/
  | float (kind : FloatKind) (x : Binary kind)
  /-- A timestamp. -/
  | timestamp (t : Timestamp)
  /-- A value of an enum type. -/
  | enum (type : QualifiedName) (value : Identifier)
deriving DecidableEq

namespace Scalar

/-- The name of the type of a scalar: its core type, or the enum it is tagged with. -/
def typeName : Scalar → QualifiedName
  | null => CoreType.null.qualifiedName
  | boolean _ => CoreType.boolean.qualifiedName
  | buffer _ => CoreType.buffer.qualifiedName
  | string _ => CoreType.string.qualifiedName
  | integer k _ => (CoreType.integer k).qualifiedName
  | float k _ => (CoreType.float k).qualifiedName
  | timestamp _ => CoreType.timestamp.qualifiedName
  | enum type _ => type

/-- The written form. -/
def text : Scalar → String
  | null => "null"
  | boolean b => if b then "true" else "false"
  | buffer bytes => "buf[" ++ String.ofList (bytes.flatMap Text.hexByte) ++ "]"
  | string s => Text.quote s
  | integer _ n => n.text
  | float _ x => x.text
  | timestamp t =>
    match t.format with
    | .ok cs => String.ofList cs
    | .error _ => "<invalid timestamp>"
  | enum type value => type.text ++ "." ++ value.text

/-- The order of two scalars of one numeric type, or of two texts or timestamps; others have no
order, nor has NaN. -/
def order : Scalar → Scalar → Option Ordering
  | string s, string t => some (compareOfLessAndEq s t)
  | integer k m, integer l n => if h : l = k then some (m.order (h ▸ n)) else none
  | float k x, float l y => if h : l = k then x.order (h ▸ y) else none
  | timestamp s, timestamp t => some (s.order t)
  | _, _ => none

/-- The equality of the data model. -/
def same : Scalar → Scalar → Bool
  | float k x, float l y => (float k x).order (float l y) == some .eq
  | timestamp s, timestamp t => s.order t == .eq
  | s, t => decide (s = t)

end Scalar

end ValueStream
