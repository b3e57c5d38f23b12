import ValueStream.Regex.CharSet

/-!
# Properties by name

A pattern can name a general category of characters, by one letter, two letters or a long name, or
one of a few properties. Case, blanks, hyphens and underscores in a name do not count, nor does
*is* at its beginning.

Unicode has more properties than are known here: the scripts and their extensions, the ages, the
kinds of breaks, and many that characters have or lack, such as Emoji or Math. No tables are kept
for them. A pattern that names one of these, as in `\p{Greek}` or `\p{Script=Greek}`, is refused,
as is one that names a property there is not.
-/

namespace ValueStream

open Text.Category in
/-- The general categories by their names, and the unions of categories that have one. -/
def categoryNames : List (List String × List Text.Category) :=
  [(["c", "other"], [cc, cf, co, cn]), (["cc", "control", "cntrl"], [cc]), (["cf", "format"], [cf]),
   (["cn", "unassigned"], [cn]), (["co", "privateuse"], [co]),
   (["l", "letter"], [lu, ll, lt, lm, lo]), (["lc", "casedletter"], [lu, ll, lt]),
   (["ll", "lowercaseletter"], [ll]), (["lm", "modifierletter"], [lm]),
   (["lo", "otherletter"], [lo]), (["lt", "titlecaseletter"], [lt]),
   (["lu", "uppercaseletter"], [lu]), (["m", "mark", "combiningmark"], [mn, mc, me]),
   (["mc", "spacingmark"], [mc]), (["me", "enclosingmark"], [me]), (["mn", "nonspacingmark"], [mn]),
   (["n", "number"], [nd, nl, no]), (["nd", "decimalnumber", "digit"], [nd]),
   (["nl", "letternumber"], [nl]), (["no", "othernumber"], [no]),
   (["p", "punctuation", "punct"], [pc, pd, ps, pe, pi, pf, po]),
   (["pc", "connectorpunctuation"], [pc]), (["pd", "dashpunctuation"], [pd]),
   (["pe", "closepunctuation"], [pe]), (["pf", "finalpunctuation"], [pf]),
   (["pi", "initialpunctuation"], [pi]), (["po", "otherpunctuation"], [po]),
   (["ps", "openpunctuation"], [ps]), (["s", "symbol"], [sm, sc, sk, so]),
   (["sc", "currencysymbol"], [sc]), (["sk", "modifiersymbol"], [sk]), (["sm", "mathsymbol"], [sm]),
   (["so", "othersymbol"], [so]), (["z", "separator"], [zs, zl, zp]),
   (["zl", "lineseparator"], [zl]), (["zp", "paragraphseparator"], [zp]),
   (["zs", "spaceseparator"], [zs])]

namespace CharSet

/-- The letters and other signs of a name that count. -/
def propertyName (cs : List Char) : String :=
  let cs := cs.map Char.toLower
  let rest := match cs with
    | 'i' :: 's' :: rest => rest
    | _ => cs
  let name := rest.filter fun c ↦ decide (c.toNat < 128) && c != ' ' && c != '_' && c != '-'
  if rest.length < cs.length && name == ['c'] then "isc" else String.ofList name

/-- The characters of a category by its name. -/
def ofCategoryName (name : String) : Option CharSet :=
  match name with
  | "any" => some any
  | "ascii" => some (range 0 127)
  | "assigned" => some (outside (categories [.cn]))
  | name =>
    (categoryNames.find? fun entry ↦ entry.1.contains name).map fun entry ↦ categories entry.2

/-- The characters that have a property, by the name of the property or category. -/
def ofPropertyName (name : String) : Option CharSet :=
  match name with
  | "alphabetic" | "alpha" => some alphabetic
  | "lowercase" | "lower" => some lowercase
  | "uppercase" | "upper" => some uppercase
  | "whitespace" | "wspace" | "space" => some blank
  | name => ofCategoryName name

/-- The characters that have a value of a property, by their names. -/
def ofPropertyValue (property value : String) : Option CharSet :=
  if property = "gc" ∨ property = "generalcategory" then ofCategoryName value else Option.none

example : (ofPropertyValue "gc" "lu").isSome = true := by decide
example : (ofPropertyValue "script" "greek").isNone = true := by decide

end CharSet

end ValueStream
