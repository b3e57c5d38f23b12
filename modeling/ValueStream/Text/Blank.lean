import ValueStream.Text.CharTable

/-!
# Blank characters

The Unicode property White_Space: the twenty-five characters that separate words.
-/

namespace ValueStream.Text

/-- The ranges of the property White_Space. -/
def blankTable : CharTable :=
  [(0x9, 0xd), (0x20, 0x20), (0x85, 0x85), (0xa0, 0xa0), (0x1680, 0x1680), (0x2000, 0x200a),
   (0x2028, 0x2029), (0x202f, 0x202f), (0x205f, 0x205f), (0x3000, 0x3000)]

/-- A blank character, in any script. -/
def isBlank (c : Char) : Bool := blankTable.has c

end ValueStream.Text
