/-!
# General categories

Every code point has one of thirty general categories, which are named by two letters: the kind of
character and a variety of it. Most properties of characters here are unions of categories, some
with a few characters more or less.
-/

namespace ValueStream.Text

/-- The general categories of code points. -/
inductive Category
  /-- Capital letters. -/
  | lu
  /-- Small letters. -/
  | ll
  /-- Letters that are a capital and a small letter in one. -/
  | lt
  /-- Modifier letters. -/
  | lm
  /-- Letters without case. -/
  | lo
  /-- Marks that take no space. -/
  | mn
  /-- Marks that take space. -/
  | mc
  /-- Marks that enclose a character. -/
  | me
  /-- Decimal digits. -/
  | nd
  /-- Numbers that are letters. -/
  | nl
  /-- Other numbers. -/
  | no
  /-- Punctuation that connects. -/
  | pc
  /-- Dashes. -/
  | pd
  /-- Opening brackets. -/
  | ps
  /-- Closing brackets. -/
  | pe
  /-- Opening quotes. -/
  | pi
  /-- Closing quotes. -/
  | pf
  /-- Other punctuation. -/
  | po
  /-- Mathematical symbols. -/
  | sm
  /-- Currency symbols. -/
  | sc
  /-- Symbols that modify others. -/
  | sk
  /-- Other symbols. -/
  | so
  /-- Spaces. -/
  | zs
  /-- The line separator. -/
  | zl
  /-- The paragraph separator. -/
  | zp
  /-- Control characters. -/
  | cc
  /-- Characters that direct the layout of text. -/
  | cf
  /-- Halves of surrogate pairs. -/
  | cs
  /-- Characters for private use. -/
  | co
  /-- Unassigned code points. -/
  | cn
deriving DecidableEq

namespace Category

/-- A letter of any kind. -/
def isLetter : Category → Bool
  | lu | ll | lt | lm | lo => true
  | _ => false

/-- A mark of any kind. -/
def isMark : Category → Bool
  | mn | mc | me => true
  | _ => false

/-- A number of any kind. -/
def isNumber : Category → Bool
  | nd | nl | no => true
  | _ => false

/-- A separator, or a code point without a character that could be seen. -/
def isHidden : Category → Bool
  | zs | zl | zp | cc | cf | cs | co | cn => true
  | _ => false

end Category

end ValueStream.Text
