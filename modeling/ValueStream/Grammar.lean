import ValueStream.Event

/-!
# The grammar of streams

The sequences of events that stand for one value: a value as a whole, or the start of a list, its
elements and an end, or the start of a map or struct, its fields and an end, where a field is its
name followed by one value. The names in one map or struct are distinct. What a sequence may be
continued to is left open: a sequence that a stream begins with is any prefix of one.
-/

namespace ValueStream

mutual

/-- Events that stand for one value. -/
inductive IsValueStream : List EventKind → Prop
  /-- A value as a whole. -/
  | value (v : Value) : IsValueStream [.value v]
  /-- A list. -/
  | list (type : ListType) {elements : List EventKind} (h : IsElementStream elements) :
    IsValueStream (.listStart type :: (elements ++ [.close]))
  /-- A map. -/
  | map {names : List Identifier} {fields : List EventKind} (h : IsFieldStream names fields) :
    IsValueStream (.mapStart :: (fields ++ [.close]))
  /-- A struct. -/
  | struct (type : QualifiedName) {names : List Identifier} {fields : List EventKind}
    (h : IsFieldStream names fields) :
    IsValueStream (.structStart type :: (fields ++ [.close]))

/-- Events that stand for values one after another. -/
inductive IsElementStream : List EventKind → Prop
  /-- No values. -/
  | nil : IsElementStream []
  /-- One value, then others. -/
  | cons {first others : List EventKind} (h : IsValueStream first) (hs : IsElementStream others) :
    IsElementStream (first ++ others)

/-- Events that stand for fields with given names, which are distinct. -/
inductive IsFieldStream : List Identifier → List EventKind → Prop
  /-- No fields. -/
  | nil : IsFieldStream [] []
  /-- One field, then others of other names. -/
  | cons {name : Identifier} {names : List Identifier} {first others : List EventKind}
    (fresh : name ∉ names) (h : IsValueStream first) (hs : IsFieldStream names others) :
    IsFieldStream (name :: names) (.fieldStart name :: (first ++ others))

end

/-- Events that a stream for one value, of a shape that is asked for, begins with. -/
def BeginsStream (top : TopType) (kinds : List EventKind) : Prop :=
  (∃ rest, IsValueStream (kinds ++ rest)) ∧ ∀ first ∈ kinds.head?, top.admits first = true

end ValueStream
