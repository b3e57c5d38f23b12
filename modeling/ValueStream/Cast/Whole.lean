import ValueStream.Pipeline.Blueprint

/-!
# Casting a value

A value is cast by sending its events through a caster into a builder.
-/

namespace ValueStream

/-- The value that a run built, or the error that ended it. -/
def Run.built (r : Run) : Except Fault Value :=
  match r.fault with
  | some fault => .error fault
  | none =>
    match (Pipeline.mk r.elements).builders with
    | (_, b) :: _ => b.result.mapError .error
    | [] => .error (.error (.structural .root .notBuilt))

/-- The value cast to a type. -/
def Value.cast (v : Value) (type : TypeRef) (schema : Schema) (start : Path) :
    Except Fault Value :=
  ((Pipeline.ofElements
    [.cast (.new type schema start), .observer (.builder "" {})]).visit v).built

end ValueStream
