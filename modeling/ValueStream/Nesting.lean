import ValueStream.Event

/-!
# Nesting

What is open at a point of a stream of events: maps, lists and fields, one frame each, the
innermost first. A map frame remembers the fields seen and the field whose value is awaited, a list
frame the position of its latest element. Fields and positions are the steps of the path to the
current place; a map takes no step, nor does a list before its first element.

An event acts on the nesting twice, for what lies between is the time in which later stages handle
the event: `enter` comes before they do, so that a value stands at its own position while it is
handled, and `leave` comes after and closes the field that the value belonged to. Neither checks
anything; on a stream that is not well formed they do what they can.
-/

namespace ValueStream

/-- Something that is open. -/
inductive Frame
  /-- A map or struct, with the field whose value is awaited and the fields seen. -/
  | map (pending : Option Identifier) (seen : List Identifier)
  /-- A list, with the position of its latest element. -/
  | list (position : Option Nat)
  /-- A field whose value is not complete. -/
  | field (name : Identifier)
deriving DecidableEq

/-- All that is open, the innermost frame first. -/
abbrev Nesting := List Frame

/-- The step that a frame takes in the path to the current place. -/
def Frame.segment? : Frame → Option Segment
  | field name => some (.field name)
  | list (some i) => some (.index i)
  | list none | map _ _ => none

namespace Nesting

/-- The path to the current place. -/
def path (n : Nesting) : Path := ⟨n.reverse.filterMap Frame.segment?⟩

/-- A new element of the innermost list is about to come. -/
def nextElement : Nesting → Nesting
  | .list none :: rest => .list (some 0) :: rest
  | .list (some i) :: rest => .list (some (i + 1)) :: rest
  | n => n

/-- The nesting while an event is handled. -/
def enter (n : Nesting) : EventKind → Nesting
  | .fieldStart name => .field name :: n
  | .mapStart | .structStart _ => .map none [] :: nextElement n
  | .listStart _ => .list none :: nextElement n
  | .value _ => nextElement n
  | .close => n.tail

/-- The nesting without the innermost field, if a field is innermost. -/
def closeField : Nesting → Nesting
  | .field _ :: rest => rest
  | n => n

/-- The nesting after an event was handled. -/
def leave (n : Nesting) (kind : EventKind) : Nesting :=
  if kind.completesValue then closeField n else n

@[simp] theorem path_nil : path [] = .root := rfl

theorem path_cons (f : Frame) (n : Nesting) :
    path (f :: n) = ⟨(path n).segments ++ f.segment?.toList⟩ := by
  cases h : f.segment? <;> simp [path, h]

@[simp] theorem path_field (name : Identifier) (n : Nesting) :
    path (.field name :: n) = (path n).field name := by
  simp [path_cons, Frame.segment?, Path.field, Path.push]

@[simp] theorem path_map (pending : Option Identifier) (seen : List Identifier) (n : Nesting) :
    path (.map pending seen :: n) = path n := by
  simp [path_cons, Frame.segment?]

@[simp] theorem path_list_none (n : Nesting) : path (.list none :: n) = path n := by
  simp [path_cons, Frame.segment?]

@[simp] theorem path_list_some (i : Nat) (n : Nesting) :
    path (.list (some i) :: n) = (path n).index i := by
  simp [path_cons, Frame.segment?, Path.index, Path.push]

end Nesting

end ValueStream
