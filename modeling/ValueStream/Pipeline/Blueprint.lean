import ValueStream.Pipeline.Run

/-!
# Setting up a pipeline

A blueprint is an element with what has to be done before it joins a pipeline: other blueprints may
be set up ahead of it, and it may need a checker ahead, which is set up unless there is one. Casts
and reorders need a checker. A blueprint may be watched; then what it finds ahead of it is noted,
before its own wishes are met and after.

A blueprint sees only what is ahead of it, and what it asks for is put there, so nothing that is in
place ever moves: the elements ahead of an element when it joins are those ahead of it for good.
-/

namespace ValueStream

mutual

/-- An element and what has to be done before it joins. -/
inductive Blueprint
  /-- The element, the wishes to be met in order, and the name under which it is watched. -/
  | mk (element : Element) (wishes : List Wish) (watch : Option String)

/-- What a blueprint asks for. -/
inductive Wish
  /-- To have another element set up ahead. -/
  | add (b : Blueprint)
  /-- To have a checker ahead. -/
  | ensureChecker

end

/-- What an element finds ahead of it. -/
structure Survey where
  /-- Whether there is a checker. -/
  hasChecker : Bool
  /-- The path that the first checker reports. -/
  checkerPath : Option Path
  /-- The path that the nearest element reports which reports one. -/
  reading : Option Path

/-- What a watched blueprint found ahead of it, before its wishes were met and after. -/
structure Watched where
  /-- The name under which it is watched. -/
  id : String
  /-- What it found first. -/
  before : Survey
  /-- What it found in the end. -/
  after : Survey

namespace Pipeline

/-- The path that the first checker of the pipeline reports. -/
def checkerPath (p : Pipeline) : Option Path :=
  p.elements.findSome? fun
    | .checker c => some c.path
    | _ => none

/-- What an element at the end of the pipeline would find ahead of it. -/
def survey (p : Pipeline) : Survey where
  hasChecker := p.hasChecker
  checkerPath := p.checkerPath
  reading := p.reading

/-- The pipeline with a further element at its end. -/
def add (p : Pipeline) (e : Element) : Pipeline := ⟨p.elements ++ [e]⟩

/-- The pipeline with a checker, which is added at the end unless there is one. -/
def ensureChecker (p : Pipeline) : Pipeline :=
  if p.hasChecker then p else p.add (.checker { top := .value })

end Pipeline

mutual

/-- Meets the wishes of a blueprint and adds its element. -/
def Blueprint.setUp (p : Pipeline) : Blueprint → Pipeline × List Watched
  | .mk element wishes watch =>
    let (q, watched) := Wish.meetAll p wishes
    (q.add element, watched ++ (watch.map fun id ↦ ⟨id, p.survey, q.survey⟩).toList)

/-- Meets one wish. -/
def Wish.meet (p : Pipeline) : Wish → Pipeline × List Watched
  | .add b => b.setUp p
  | .ensureChecker => (p.ensureChecker, [])

/-- Meets wishes in order. -/
def Wish.meetAll (p : Pipeline) : List Wish → Pipeline × List Watched
  | [] => (p, [])
  | w :: rest =>
    let (p, first) := w.meet p
    let (p, others) := Wish.meetAll p rest
    (p, first ++ others)

end

namespace Blueprint

/-- The blueprint of an element, which asks for what elements of its kind need. -/
def ofElement (e : Element) : Blueprint :=
  match e with
  | .cast _ | .reorder _ => .mk e [.ensureChecker] none
  | _ => .mk e [] none

end Blueprint

/-- Sets up blueprints in order. -/
def Pipeline.build (blueprints : List Blueprint) : Pipeline × List Watched :=
  Wish.meetAll ⟨[]⟩ (blueprints.map .add)

/-- The pipeline of elements, with the checkers that they need. -/
def Pipeline.ofElements (elements : List Element) : Pipeline :=
  (build (elements.map .ofElement)).1

end ValueStream
