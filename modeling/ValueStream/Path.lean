import ValueStream.Name.Identifier

/-!
# Paths

A path leads from a value to a part of it: through fields of maps and structs and through
positions in lists, outermost step first. It is written `a.b[2].c`: a dot stands before every
field but the first, and an index stands in brackets. Paths are plain lists of steps, so that a
path kept by one holder is never changed by another.
-/

namespace ValueStream

/-- One step of a path. -/
inductive Segment
  /-- Into the field of a map or struct. -/
  | field (name : Identifier)
  /-- To a position in a list, counted from zero. -/
  | index (position : Nat)
deriving DecidableEq

/-- A way from a value to one of its parts. -/
structure Path where
  /-- The steps, outermost first. -/
  segments : List Segment
deriving DecidableEq

namespace Segment

/-- A step that follows another one. -/
def chars : Segment → List Char
  | field name => '.' :: name.text.toList
  | index position => '[' :: Nat.toDigits 10 position ++ [']']

end Segment

namespace Path

@[ext] theorem ext {p q : Path} (h : p.segments = q.segments) : p = q := by
  cases p; cases q; simp_all

/-- The path of the whole value. -/
def root : Path := ⟨[]⟩

/-- One step further. -/
def push (p : Path) (s : Segment) : Path := ⟨p.segments ++ [s]⟩

/-- Into a field. -/
def field (p : Path) (name : Identifier) : Path := p.push (.field name)

/-- To a position. -/
def index (p : Path) (position : Nat) : Path := p.push (.index position)

/-- One path, then another. -/
def append (p q : Path) : Path := ⟨p.segments ++ q.segments⟩

instance : Append Path := ⟨append⟩

/-- The path without its last step, if it has one. -/
def parent (p : Path) : Option Path :=
  if p.segments = [] then none else some ⟨p.segments.dropLast⟩

/-- The last step. -/
def last (p : Path) : Option Segment := p.segments.getLast?

/-- The number of steps. -/
def length (p : Path) : Nat := p.segments.length

/-- Whether the path leads to the whole value. -/
def isRoot (p : Path) : Bool := p.segments.isEmpty

/-- The written form of a list of steps, the first of which has no dot. -/
def chars : List Segment → List Char
  | .field name :: rest => name.text.toList ++ rest.flatMap Segment.chars
  | steps => steps.flatMap Segment.chars

/-- The written form. -/
def text (p : Path) : String := String.ofList (chars p.segments)

/-- What is shown of something that reports the path. -/
def reportText (p : Path) : String := "PathGetter(" ++ p.text ++ ")"

/-! ## Joining paths -/

@[simp] theorem segments_root : root.segments = [] := rfl
@[simp] theorem segments_push (p : Path) (s : Segment) :
    (p.push s).segments = p.segments ++ [s] := rfl
@[simp] theorem segments_field (p : Path) (name : Identifier) :
    (p.field name).segments = p.segments ++ [.field name] := rfl
@[simp] theorem segments_index (p : Path) (i : Nat) :
    (p.index i).segments = p.segments ++ [.index i] := rfl
@[simp] theorem segments_append (p q : Path) :
    (p ++ q).segments = p.segments ++ q.segments := rfl

@[simp] theorem root_append (p : Path) : root ++ p = p := by ext1; simp
@[simp] theorem append_root (p : Path) : p ++ root = p := by ext1; simp

theorem append_push (p q : Path) (s : Segment) : p ++ q.push s = (p ++ q).push s := by
  ext1; simp

theorem isRoot_iff {p : Path} : p.isRoot = true ↔ p = root := by
  simp [isRoot, Path.ext_iff]

end Path

end ValueStream
