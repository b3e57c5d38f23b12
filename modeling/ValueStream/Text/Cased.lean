import ValueStream.Text.Word

/-!
# Characters with case

Small and capital letters, with those modifiers, numbers and symbols that have the shape of one. As
for word characters, what version 17 of Unicode added has no case.
-/

namespace ValueStream.Text

/-- Modifiers, numbers and symbols shaped like small letters: the property Other_Lowercase. -/
def otherLowercaseTable : CharTable :=
  [(0xaa, 0xaa), (0xba, 0xba), (0x2b0, 0x2b8), (0x2c0, 0x2c1), (0x2e0, 0x2e4), (0x345, 0x345),
   (0x37a, 0x37a), (0x10fc, 0x10fc), (0x1d2c, 0x1d6a), (0x1d78, 0x1d78), (0x1d9b, 0x1dbf),
   (0x2071, 0x2071), (0x207f, 0x207f), (0x2090, 0x209c), (0x2170, 0x217f), (0x24d0, 0x24e9),
   (0x2c7c, 0x2c7d), (0xa69c, 0xa69d), (0xa770, 0xa770), (0xa7f2, 0xa7f4), (0xa7f8, 0xa7f9),
   (0xab5c, 0xab5f), (0xab69, 0xab69), (0x10780, 0x10780), (0x10783, 0x10785), (0x10787, 0x107b0),
   (0x107b2, 0x107ba), (0x1e030, 0x1e06d)]

/-- Numbers and symbols shaped like capital letters: the property Other_Uppercase. -/
def otherUppercaseTable : CharTable :=
  [(0x2160, 0x216f), (0x24b6, 0x24cf), (0x1f130, 0x1f149), (0x1f150, 0x1f169), (0x1f170, 0x1f189)]

/-- A small letter, or a character shaped like one. -/
def isLowercase (c : Char) : Bool := earlierCategory c == .ll || otherLowercaseTable.has c

/-- A capital letter, or a character shaped like one. -/
def isUppercase (c : Char) : Bool := earlierCategory c == .lu || otherUppercaseTable.has c

example : "aAⅷ1".toList.map isLowercase = [true, false, true, false] := by decide +kernel

end ValueStream.Text
