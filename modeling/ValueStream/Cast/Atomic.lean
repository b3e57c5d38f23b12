import ValueStream.StreamError
import ValueStream.Value.Restriction

/-!
# Casts to named types

Every core type takes its own values, and text that writes one of them. Text itself takes every
scalar but null in its written form, bytes as Base64 and enum values as their names. A number is
taken from any other number: integers wrap to the width of the target, floating-point numbers are
truncated and stay within its range, and integers round to the nearest floating-point number. Text
with a point or an exponent is read as a floating-point number even for an integer type. Null is
taken by its own type alone, and a name that is no core type takes the enum values tagged with it.

A cast has a call type, which is what an error reports as expected: the type of the place that the
value stands in, of which the named type may be only a part.
-/

namespace ValueStream

namespace Cast

/-- The result of a cast, or why there is none. -/
abbrev Outcome := Except StreamError

/-- The error for a value whose type the target does not take. -/
def mismatch (v : Value) (callType : TypeRef) (path : Path) : StreamError :=
  .typeCast path callType v.typeOf

/-- The truth value that a text writes, in any case of letters. -/
def readBoolean (s : String) : Option Bool :=
  let word := s.toList.map Char.toLower
  if word = ['t', 'r', 'u', 'e'] then some true
  else if word = ['f', 'a', 'l', 's', 'e'] then some false
  else none

/-- A cast to truth values. -/
def toBoolean (v : Value) (callType : TypeRef) (path : Path) : Outcome Value :=
  match v with
  | .scalar (.boolean _) => .ok v
  | .scalar (.string s) =>
    match readBoolean s with
    | some b => .ok (.scalar (.boolean b))
    | none => .error (.value path (.notBoolean s))
  | _ => .error (mismatch v callType path)

/-- A cast to bytes. -/
def toBuffer (v : Value) (callType : TypeRef) (path : Path) : Outcome Value :=
  match v with
  | .scalar (.buffer _) => .ok v
  | .scalar (.string s) =>
    match Text.Base64.decode s with
    | .ok bytes => .ok (.scalar (.buffer bytes))
    | .error e => .error (.value path (.notBase64 e))
  | _ => .error (mismatch v callType path)

/-- A cast to text. -/
def toText (v : Value) (callType : TypeRef) (path : Path) : Outcome Value :=
  match v with
  | .scalar (.string _) => .ok v
  | .scalar (.boolean b) => .ok (.scalar (.string (if b then "true" else "false")))
  | .scalar (.integer _ n) => .ok (.scalar (.string n.text))
  | .scalar (.float _ x) => .ok (.scalar (.string x.text))
  | .scalar (.timestamp t) =>
    match t.format with
    | .ok cs => .ok (.scalar (.string (String.ofList cs)))
    | .error e => .error (.value path (.unformattable e))
  | .scalar (.buffer bytes) => .ok (.scalar (.string (Text.Base64.encode bytes)))
  | .scalar (.enum _ value) => .ok (.scalar (.string value.text))
  | _ => .error (mismatch v callType path)

/-- Whether a text writes a floating-point number rather than an integer. -/
def hasPointOrExponent (s : String) : Bool :=
  s.toList.any fun c ↦ c == '.' || c == 'e' || c == 'E'

/-- The integer that a text writes. -/
def readInteger (k : IntegerKind) (s : String) : Option (Integer k) :=
  if hasPointOrExponent s then (Binary.read .float64 s).map (Binary.toInteger k)
  else Integer.read k s

/-- A cast to integers of a kind. -/
def toInteger (k : IntegerKind) (v : Value) (callType : TypeRef) (path : Path) : Outcome Value :=
  match v with
  | .scalar (.integer _ n) => .ok (.scalar (.integer k (Integer.wrap k n.value)))
  | .scalar (.float _ x) => .ok (.scalar (.integer k (x.toInteger k)))
  | .scalar (.string s) =>
    match readInteger k s with
    | some n => .ok (.scalar (.integer k n))
    | none => .error (.value path (.notNumber (.integer k) s))
  | _ => .error (mismatch v callType path)

/-- A cast to floating-point numbers of a kind. -/
def toFloat (k : FloatKind) (v : Value) (callType : TypeRef) (path : Path) : Outcome Value :=
  match v with
  | .scalar (.integer _ n) => .ok (.scalar (.float k (Binary.ofInt k n.value)))
  | .scalar (.float l x) =>
    .ok (.scalar (.float k (if h : l = k then h ▸ x else x.convert k)))
  | .scalar (.string s) =>
    match Binary.read k s with
    | some x => .ok (.scalar (.float k x))
    | none => .error (.value path (.notNumber (.float k) s))
  | _ => .error (mismatch v callType path)

/-- A cast to timestamps. -/
def toTimestamp (v : Value) (callType : TypeRef) (path : Path) : Outcome Value :=
  match v with
  | .scalar (.timestamp _) => .ok v
  | .scalar (.string s) =>
    match Timestamp.parse s.toList with
    | .ok t => .ok (.scalar (.timestamp t))
    | .error e => .error (.value path (.notTimestamp e))
  | _ => .error (mismatch v callType path)

/-- A cast to maps. -/
def toSymbolMap (v : Value) (callType : TypeRef) (path : Path) : Outcome Value :=
  match v with
  | .map _ => .ok v
  | _ => .error (mismatch v callType path)

/-- A cast to the enum of a name. -/
def toEnum (name : QualifiedName) (v : Value) (callType : TypeRef) (path : Path) :
    Outcome Value :=
  match v with
  | .scalar (.enum type _) => if type = name then .ok v else .error (mismatch v callType path)
  | _ => .error (mismatch v callType path)

/-- A cast of a value other than null to a named type, without its restriction. -/
def toNamed (a : AtomicType) (v : Value) (callType : TypeRef) (path : Path) : Outcome Value :=
  match a.coreType with
  | some .value => .ok v
  | some .boolean => toBoolean v callType path
  | some .buffer => toBuffer v callType path
  | some .string => toText v callType path
  | some (.integer k) => toInteger k v callType path
  | some (.float k) => toFloat k v callType path
  | some .timestamp => toTimestamp v callType path
  | some .symbolMap => toSymbolMap v callType path
  | some .null | none => toEnum a.name v callType path

/-- A cast to a named type, without its restriction. -/
def unrestricted (a : AtomicType) (v : Value) (callType : TypeRef) (path : Path) :
    Outcome Value :=
  match v with
  | .scalar .null =>
    if a.coreType = some .null then .ok v else .error (.nullValue path)
  | v => toNamed a v callType path

/-- Refuses a value that the restriction of a named type does not accept. -/
def checkRestriction (a : AtomicType) (v : Value) (path : Path) : Outcome Unit :=
  match a.restriction with
  | none => .ok ()
  | some r => if r.accepts v then .ok () else .error (.value path (.unsatisfied v r))

/-- A cast to a named type: the restriction is checked on the result. -/
def atomic (a : AtomicType) (v : Value) (callType : TypeRef) (path : Path) : Outcome Value := do
  let result ← unrestricted a v callType path
  checkRestriction a result path
  return result

end Cast

end ValueStream
