import ValueStream.Event
import ValueStream.Text.Base64

/-!
# Errors of a stream

A stage that refuses an event says where and why. There are four kinds: the sequence of events is
malformed, a value of one type stands where another is expected, null stands where it is not
admitted, or a value has the right type and bad content. The first and the last kind have a cause,
and the words of a cause are in one place.

Apart from these a stage can find itself in a state that a checked stream never leads to. That is
no error of the stream but a broken invariant of the stage, and it has a type of its own.
-/

namespace ValueStream

/-- Why a sequence of events is malformed. -/
inductive StructuralCause
  /-- The event, named as a call, came after the end of the value. -/
  | afterEnd (call : String)
  /-- The top-level value cannot begin with what was found. -/
  | unexpectedTop (expected : TopType) (found : String)
  /-- Something other than a field or an end was found in a map. -/
  | expectedField (found : String)
  /-- A field was found in a list. -/
  | fieldInList (name : Identifier)
  /-- A field was found where the value of another one is awaited. -/
  | fieldWhilePending (name pending : Identifier)
  /-- A field came for the second time. -/
  | duplicateField (name : Identifier)
  /-- An end was found where the value of a field is awaited. -/
  | endWhilePending (name : Identifier)
  /-- A value came after the whole value. -/
  | alreadyBuilt
  /-- The value is not complete. -/
  | notBuilt
  /-- A field was found outside of a map. -/
  | fieldOutsideMap (name : Identifier)
  /-- An end was found where nothing is open. -/
  | endOutside
  /-- A reason given in words. -/
  | other (message : String)

/-- The words of the cause. -/
def StructuralCause.message : StructuralCause → String
  | afterEnd call => call ++ "() called, but struct is built"
  | unexpectedTop expected found => "Expected " ++ expected.text ++ " but got " ++ found
  | expectedField found => "Expected field name or end of fields but got " ++ found
  | fieldInList name => "Expected list value but got start of field '" ++ name.text ++ "'"
  | fieldWhilePending name pending =>
    "Saw start of field '" ++ name.text ++ "' while expecting a value for '" ++ pending.text ++ "'"
  | duplicateField name => "Multiple entries for field: " ++ name.text
  | endWhilePending name => "Saw end while expecting value for field '" ++ name.text ++ "'"
  | alreadyBuilt => "Value is already built"
  | notBuilt => "Value is not yet built"
  | fieldOutsideMap name => "Field '" ++ name.text ++ "' started outside of a map"
  | endOutside => "End with no open map, struct or list"
  | other message => message

/-- Why the content of a value is refused. -/
inductive ValueCause
  /-- The text is no truth value. -/
  | notBoolean (s : String)
  /-- The text is no Base64. -/
  | notBase64 (e : Text.Base64.DecodeError)
  /-- The timestamp cannot be written. -/
  | unformattable (e : Timestamp.FormatError)
  /-- The text is no number of the type. -/
  | notNumber (type : CoreType) (s : String)
  /-- The text is no timestamp. -/
  | notTimestamp (e : Timestamp.ParseError)
  /-- The restriction does not accept the value. -/
  | unsatisfied (v : Value) (r : Restriction)
  /-- The list has no elements. -/
  | emptyList
  /-- The schema has no field types for the struct. -/
  | noTyper (type : QualifiedName)
  /-- The schema has no type for the field. -/
  | unrecognizedField (name : Identifier)
  /-- The text between the marks of a variable is no integer. -/
  | badVariable (s : String)
  /-- An observer was told to refuse the event with this number. -/
  | refused (number : Nat)
  /-- A reason given in words. -/
  | other (message : String)

/-- The words of the cause. -/
def ValueCause.message : ValueCause → String
  | notBoolean s => "Invalid boolean value: " ++ Text.quote s
  | notBase64 e => "Invalid base64 string: " ++ e.message
  | unformattable e => "Unformattable timestamp: " ++ e.message
  | notNumber type s => "Invalid " ++ type.name ++ " value: " ++ Text.quote s
  | notTimestamp e => "Invalid timestamp: " ++ e.message
  | unsatisfied v r => "Value " ++ v.text ++ " does not satisfy restriction " ++ r.text
  | emptyList => "List is empty"
  | noTyper type => "No typer for " ++ type.text
  | unrecognizedField name => "Unrecognized field: " ++ name.text
  | badVariable s => "Bad variable: " ++ s
  | refused number => "fail at " ++ toString number
  | other message => message

/-- The kinds of errors. -/
inductive ErrorKind
  /-- The sequence of events is malformed. -/
  | structural (cause : StructuralCause)
  /-- A value of one type stands where another is expected. -/
  | typeCast (expected actual : TypeRef)
  /-- Null stands where it is not admitted. -/
  | nullValue
  /-- The content of a value is refused. -/
  | value (cause : ValueCause)

/-- An error and the path of the place where it was found. -/
structure StreamError where
  /-- The place. -/
  path : Path
  /-- What is wrong. -/
  kind : ErrorKind

namespace StreamError

/-- A malformed sequence of events. -/
def structural (path : Path) (cause : StructuralCause) : StreamError := ⟨path, .structural cause⟩

/-- A value of an unexpected type. -/
def typeCast (path : Path) (expected actual : TypeRef) : StreamError :=
  ⟨path, .typeCast expected actual⟩

/-- A null that is not admitted. -/
def nullValue (path : Path) : StreamError := ⟨path, .nullValue⟩

/-- A value with bad content. -/
def value (path : Path) (cause : ValueCause) : StreamError := ⟨path, .value cause⟩

/-- The message, without the place. -/
def message (e : StreamError) : String :=
  match e.kind with
  | .structural cause => cause.message
  | .typeCast expected actual =>
    "Expected value of type " ++ expected.text ++ " but found " ++ actual.text
  | .nullValue => "Value is null"
  | .value cause => cause.message

/-- The message after the place, which is left out when it is the root. -/
def text (e : StreamError) : String :=
  if e.path.isRoot then e.message else e.path.text ++ ": " ++ e.message

/-- Whether the sequence of events is malformed. -/
def isStructural (e : StreamError) : Bool := e.kind matches .structural _

/-- Whether a type was not the one expected. -/
def isTypeCast (e : StreamError) : Bool := e.kind matches .typeCast _ _

/-- Whether the content is refused, null included. -/
def isValue (e : StreamError) : Bool := e.kind matches .value _ | .nullValue

end StreamError

/-- The states that a checked stream never leads to. -/
inductive Invariant
  /-- A field starts in a map that still awaits the value of another. -/
  | fieldStillPending (name pending : Identifier)
  /-- A value arrives in a map before any field. -/
  | valueBeforeField
  /-- A value arrives where nothing is expected. -/
  | nothingExpected
  /-- A field starts outside of a map. -/
  | fieldOutsideMap (name : Identifier)
  /-- An end arrives where nothing is expected. -/
  | endAfterAll
  /-- An end arrives where a value of the type is expected. -/
  | endWithoutStart (expected : TypeRef)
  /-- A field starts while so many events of another are held back. -/
  | fieldWhileHolding (name : Identifier) (count : Nat)
  /-- The value of a field completes while no field is in progress. -/
  | noFieldInProgress
  /-- A struct ends while a field is held back. -/
  | structEndsWhileHolding
  /-- More ends than starts arrive within a field. -/
  | depthBelowZero

/-- What is said of a broken invariant. -/
def Invariant.message : Invariant → String
  | fieldStillPending name pending =>
    "field " ++ name.text ++ " started while " ++ pending.text ++ " is still pending"
  | valueBeforeField => "value in a map cast frame before any field start"
  | nothingExpected => "cast reactor stack is empty"
  | fieldOutsideMap name =>
    "field start for '" ++ name.text ++ "' outside of a map cast frame"
  | endAfterAll => "end with an empty cast reactor stack"
  | endWithoutStart expected => "end with no open composite (expecting " ++ expected.text ++ ")"
  | fieldWhileHolding name count =>
    "field " ++ name.text ++ " started with " ++ toString count ++ " buffered events pending"
  | noFieldInProgress => "field value completed with no field in progress"
  | structEndsWhileHolding => "struct ended while a field is being buffered"
  | depthBelowZero => "attempt to subtract with overflow"

/-- What can stop a stage. -/
inductive Fault
  /-- An error of the stream. -/
  | error (e : StreamError)
  /-- A broken invariant of the stage. -/
  | broken (i : Invariant)

end ValueStream
