import ValueStream.Nesting
import ValueStream.StreamError

/-!
# Checking the structure of a stream

A checker accepts the events of one value of a given shape: every start has its end, the fields of
a map or struct are distinct, each field has exactly one value, and nothing comes after the value.

Like `Nesting`, of which it makes use, a checker acts on an event twice. `enter` decides whether
the event may come and takes it in; `leave`, once later stages have handled it, notes that the value
of a field is complete. An end that is refused has closed its frame all the same, and the error
reports the path that is left then.
-/

namespace ValueStream

/-- The state of a check. -/
structure Checker where
  /-- What is open. -/
  nesting : Nesting := []
  /-- The shape that the top-level value must have. -/
  top : TopType
  /-- Whether the top-level value is complete. -/
  done : Bool := false
deriving DecidableEq

namespace Checker

/-- What the event is called where it comes too late. -/
def callName : EventKind → String
  | .structStart _ => "StartStruct"
  | .mapStart => "StartMap"
  | .listStart _ => "StartList"
  | .fieldStart _ => "StartField"
  | .value _ => "Value"
  | .close => "End"

/-- What the event is called where something else is expected; the end of a map, struct or list
stands for the value that it completes. -/
def valueName : EventKind → String
  | .structStart _ => "struct start"
  | .mapStart => "map start"
  | .listStart _ => "list start"
  | .fieldStart name => "field '" ++ name.text ++ "'"
  | .value _ | .close => "value"

/-- The path to the current place. -/
def path (c : Checker) : Path := c.nesting.path

/-- A checker and the reason why it refuses an event. -/
def refuse (c : Checker) (cause : StructuralCause) : Checker × Option Fault :=
  (c, some (.error (.structural c.path cause)))

/-- Why a value may not come here, if it may not. -/
def valueObstacle (c : Checker) (kind : EventKind) : Option StructuralCause :=
  match c.nesting with
  | [] => if c.top.admits kind then none else some (.unexpectedTop c.top (valueName kind))
  | .map none _ :: _ => some (.expectedField (valueName kind))
  | _ => none

/-- Takes in a start or a value. -/
def enterValue (c : Checker) (kind : EventKind) : Checker × Option Fault :=
  match c.valueObstacle kind with
  | some cause => c.refuse cause
  | none =>
    let nesting := c.nesting.enter kind
    ({ c with nesting := nesting, done := nesting.isEmpty }, none)

/-- Takes in a field. -/
def enterField (c : Checker) (name : Identifier) : Checker × Option Fault :=
  match c.nesting with
  | [] => c.refuse (.unexpectedTop .struct (valueName (.fieldStart name)))
  | .list _ :: _ => c.refuse (.fieldInList name)
  | .field pending :: _ => c.refuse (.fieldWhilePending name pending)
  | .map (some pending) _ :: _ => (c, some (.broken (.fieldStillPending name pending)))
  | .map none seen :: rest =>
    if seen.contains name then c.refuse (.duplicateField name)
    else ({ c with nesting := .field name :: .map (some name) (seen ++ [name]) :: rest }, none)

/-- Takes in an end. -/
def enterClose (c : Checker) : Checker × Option Fault :=
  match c.nesting with
  | [] => c.refuse (.unexpectedTop c.top "end")
  | .field name :: rest => { c with nesting := rest }.refuse (.endWhilePending name)
  | _ :: [] => ({ c with nesting := [], done := true }, none)
  | _ :: rest =>
    let c := { c with nesting := rest }
    match c.valueObstacle .close with
    | some cause => c.refuse cause
    | none => (c, none)

/-- Decides whether an event may come, and takes it in. -/
def enter (c : Checker) (kind : EventKind) : Checker × Option Fault :=
  if c.done then c.refuse (.afterEnd (callName kind))
  else
    match kind with
    | .fieldStart name => c.enterField name
    | .close => c.enterClose
    | kind => c.enterValue kind

/-- The nesting once the value that belongs to its innermost map is complete. -/
def settle : Nesting → Nesting
  | .map _ seen :: rest => .map none seen :: rest
  | n => n

/-- Notes that an event was handled. -/
def leave (c : Checker) (kind : EventKind) : Checker :=
  if kind.completesValue then { c with nesting := settle c.nesting.closeField } else c

/-- Checks a sequence of events that later stages accept, up to the first that is refused. -/
def run (c : Checker) : List EventKind → Checker × Option Fault
  | [] => (c, none)
  | kind :: rest =>
    match c.enter kind with
    | (c, some fault) => (c, some fault)
    | (c, none) => (c.leave kind).run rest

end Checker

end ValueStream
