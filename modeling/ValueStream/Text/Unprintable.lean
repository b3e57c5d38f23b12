import ValueStream.Text.CategoryTable

/-!
# Characters that do not show

Two properties decide which characters a quoted text spells out by number. A character is
unprintable when it is a control, format, surrogate, private-use or unassigned code point, a
separator other than the space, or one of the Hangul fillers, which are letters without a shape. It
is combining when it is a mark that joins the character before it: any mark that takes no space of
its own, and some that do.
-/

namespace ValueStream.Text

/-- The letters without a shape. -/
def fillerTable : CharTable :=
  [(0x115f, 0x1160), (0x3164, 0x3164), (0xffa0, 0xffa0)]

/-- The marks that take space and yet join the character before them: those with the property
Grapheme_Extend. -/
def joiningMarkTable : CharTable :=
  [(0x9be, 0x9be), (0x9d7, 0x9d7), (0xb3e, 0xb3e), (0xb57, 0xb57), (0xbbe, 0xbbe), (0xbd7, 0xbd7),
   (0xcc0, 0xcc0), (0xcc2, 0xcc2), (0xcc7, 0xcc8), (0xcca, 0xccb), (0xcd5, 0xcd6), (0xd3e, 0xd3e),
   (0xd57, 0xd57), (0xdcf, 0xdcf), (0xddf, 0xddf), (0x1715, 0x1715), (0x1734, 0x1734),
   (0x1b35, 0x1b35), (0x1b3b, 0x1b3b), (0x1b3d, 0x1b3d), (0x1b43, 0x1b44), (0x1baa, 0x1baa),
   (0x1bf2, 0x1bf3), (0x302e, 0x302f), (0xa953, 0xa953), (0xa9c0, 0xa9c0), (0x111c0, 0x111c0),
   (0x11235, 0x11235), (0x1133e, 0x1133e), (0x1134d, 0x1134d), (0x11357, 0x11357),
   (0x113b8, 0x113b8), (0x113c2, 0x113c2), (0x113c5, 0x113c5), (0x113c7, 0x113c9),
   (0x113cf, 0x113cf), (0x114b0, 0x114b0), (0x114bd, 0x114bd), (0x115af, 0x115af),
   (0x116b6, 0x116b6), (0x11930, 0x11930), (0x1193d, 0x1193d), (0x11f41, 0x11f41),
   (0x16ff0, 0x16ff1), (0x1d165, 0x1d166), (0x1d16d, 0x1d172)]

/-- A character without a shape of its own. -/
def isUnprintable (c : Char) : Bool :=
  (category c).isHidden && c != ' ' || fillerTable.has c

/-- A mark that extends the character before it. -/
def isCombining (c : Char) : Bool :=
  match category c with
  | .mn | .me => true
  | .mc => joiningMarkTable.has c
  | _ => false

example : "é \u00a0\u115f".toList.map isUnprintable = [false, false, true, true] := by
  decide +kernel
example : "a\u0301\u0903\u0cc0".toList.map isCombining = [false, true, false, true] := by
  decide +kernel

end ValueStream.Text
