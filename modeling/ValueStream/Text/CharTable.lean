/-!
# Tables of characters

A Unicode property is a table of inclusive ranges of code points. Membership is a search of the
table, so a property is a plain list that can be read, counted and compared.
-/

namespace ValueStream.Text

/-- A property of characters: the inclusive ranges of code points that have it. -/
abbrev CharTable := List (Nat × Nat)

/-- Whether the table lists the character. -/
def CharTable.has (table : CharTable) (c : Char) : Bool :=
  table.any fun range ↦ decide (range.1 ≤ c.toNat ∧ c.toNat ≤ range.2)

end ValueStream.Text
