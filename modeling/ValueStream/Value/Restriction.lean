import ValueStream.Regex.Marked
import ValueStream.Value.Text

/-!
# What a restriction accepts

A pattern accepts the texts that it matches somewhere, and nothing that is no text. A range accepts
the values that can be compared with each of its bounds and lie on the right side of it; a bound
that cannot be compared with a value rejects it.
-/

namespace ValueStream

/-- Reads a pattern. -/
def Pattern.ofSource (source : String) : Except ModelError Pattern :=
  match h : Regex.parse source with
  | some r => .ok ⟨source, r, h⟩
  | none => .error (.invalidPattern source)

namespace ValueRange

/-- Whether a value is not below the lower bound. -/
def aboveLeast (r : ValueRange) (v : Value) : Bool :=
  match r.least with
  | none => true
  | some bound =>
    match v.order bound with
    | some .gt => true
    | some .eq => r.leastIncluded
    | _ => false

/-- Whether a value is not above the upper bound. -/
def belowGreatest (r : ValueRange) (v : Value) : Bool :=
  match r.greatest with
  | none => true
  | some bound =>
    match v.order bound with
    | some .lt => true
    | some .eq => r.greatestIncluded
    | _ => false

/-- Whether the range accepts a value. -/
def accepts (r : ValueRange) (v : Value) : Bool := r.aboveLeast v && r.belowGreatest v

end ValueRange

namespace Restriction

/-- Whether the restriction accepts a value. -/
def accepts : Restriction → Value → Bool
  | regex pattern, .scalar (.string s) => pattern.regex.isMatch s
  | regex _, _ => false
  | range bounds, v => bounds.accepts v

end Restriction

/-- Whether the restriction of a named type, if there is one, accepts a value. -/
def AtomicType.accepts (a : AtomicType) (v : Value) : Bool :=
  match a.restriction with
  | none => true
  | some r => r.accepts v

end ValueStream
