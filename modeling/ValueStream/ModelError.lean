import ValueStream.Text.Quoted

/-!
# Errors of the data model

The four ways in which a name, a pattern or a map can fail to be one. The offending text is kept
as it was given; `ModelError.message` quotes it.
-/

namespace ValueStream

/-- Why a part of a value or of a type could not be made. -/
inductive ModelError
  /-- The text is no identifier. -/
  | invalidIdentifier (text : String)
  /-- The text is no qualified name. -/
  | invalidTypeName (text : String)
  /-- The text is no pattern. -/
  | invalidPattern (source : String)
  /-- A map was given the same key twice. -/
  | duplicateKey (key : String)
deriving DecidableEq, Repr

namespace ModelError

/-- The message, with offending texts quoted. -/
def message : ModelError → String
  | invalidIdentifier text => "Invalid identifier: " ++ Text.quote text
  | invalidTypeName text => "Invalid qualified type name: " ++ Text.quote text
  | invalidPattern source => "Invalid regex restriction " ++ Text.quote source
  | duplicateKey key => "Duplicate symbol map key: " ++ key

end ModelError

end ValueStream
