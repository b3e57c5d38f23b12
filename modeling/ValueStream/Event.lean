import ValueStream.Path
import ValueStream.Value.Equality
import ValueStream.Value.Text

/-!
# Events

A value is streamed as events: a scalar is one event; a map, struct or list is a start, the events
of its parts and an end, where the parts of a map or struct are each announced by the event of
their field. An event may carry the path of the place it belongs to.
-/

namespace ValueStream

/-- What an event says. -/
inductive EventKind
  /-- A struct of a type begins. -/
  | structStart (type : QualifiedName)
  /-- A map begins. -/
  | mapStart
  /-- A list begins. -/
  | listStart (type : ListType)
  /-- The next value belongs to the field. -/
  | fieldStart (name : Identifier)
  /-- A value as a whole. -/
  | value (v : Value)
  /-- The innermost map, struct or list ends. -/
  | close

namespace EventKind

/-- The name of the kind. -/
def name : EventKind → String
  | structStart _ => "struct-start"
  | mapStart => "map-start"
  | listStart _ => "list-start"
  | fieldStart _ => "field"
  | value _ => "value"
  | close => "end"

/-- Whether a map, struct or list begins. -/
def isStart : EventKind → Bool
  | structStart _ | mapStart | listStart _ => true
  | _ => false

/-- Whether the event completes a value. -/
def completesValue : EventKind → Bool
  | value _ | close => true
  | _ => false

/-- The written form. -/
def text : EventKind → String
  | structStart type => "struct-start " ++ type.text
  | listStart type => "list-start " ++ type.text
  | fieldStart field => "field " ++ field.text
  | value v => "value " ++ v.text
  | mapStart => "map-start"
  | close => "end"

/-- The type of the value that the event stands for or begins. -/
def typeOf : EventKind → Option TypeRef
  | value v => some v.typeOf
  | listStart type => some (.list type)
  | mapStart => some (.core .symbolMap)
  | structStart type => some (.named type)
  | fieldStart _ | close => none

/-- Whether two events say the same. -/
def same : EventKind → EventKind → Bool
  | structStart q, structStart r => decide (q = r)
  | mapStart, mapStart => true
  | listStart l, listStart m => l.same m
  | fieldStart f, fieldStart g => decide (f = g)
  | value v, value w => v.same w
  | close, close => true
  | _, _ => false

end EventKind

/-- An event, stamped with the path of its place or not. -/
structure Event where
  /-- What the event says. -/
  kind : EventKind
  /-- The path it is stamped with. -/
  path : Option Path := none

namespace Event

/-- The same event stamped with a path. -/
def stamp (e : Event) (p : Path) : Event := { e with path := some p }

/-- The same event without its stamp. -/
def unstamped (e : Event) : Event := { e with path := none }

/-- Another event with the same stamp. -/
def withKind (e : Event) (kind : EventKind) : Event := { e with kind := kind }

/-- The stamped path, or the root where there is none. -/
def place (e : Event) : Path := e.path.getD .root

/-- The written form; a stamp shows unless it is the root. -/
def text (e : Event) : String :=
  match e.path with
  | some p => if p.isRoot then e.kind.text else e.kind.text ++ " @ " ++ p.text
  | none => e.kind.text

/-- Whether two events are the same and have the same stamp. -/
def same (e f : Event) : Bool := e.kind.same f.kind && decide (e.path = f.path)

@[simp] theorem kind_stamp (e : Event) (p : Path) : (e.stamp p).kind = e.kind := rfl
@[simp] theorem path_stamp (e : Event) (p : Path) : (e.stamp p).path = some p := rfl
@[simp] theorem kind_unstamped (e : Event) : e.unstamped.kind = e.kind := rfl
@[simp] theorem kind_withKind (e : Event) (k : EventKind) : (e.withKind k).kind = k := rfl
@[simp] theorem path_withKind (e : Event) (k : EventKind) : (e.withKind k).path = e.path := rfl

end Event

/-- The shapes that the top-level value of a stream can be asked to have. -/
inductive TopType
  /-- Any. -/
  | value
  /-- A list. -/
  | list
  /-- A map or a struct. -/
  | map
  /-- A struct. -/
  | struct
deriving DecidableEq

namespace TopType

/-- The name of the shape. -/
def text : TopType → String
  | value => "value"
  | list => "list"
  | map => "map"
  | struct => "struct"

/-- Whether a value of the shape can begin with the event. -/
def admits : TopType → EventKind → Bool
  | value, _ => true
  | list, .listStart _ => true
  | map, .mapStart => true
  | map, .structStart _ => true
  | struct, .structStart _ => true
  | _, _ => false

end TopType

end ValueStream
