import ValueStream.Event

/-!
# Lines of the log

A line of the log shows a label, the path of the current place and an event, each in a colour of
its own. A colour is set by an escape sequence in front of a text and taken back by another one
behind it.
-/

namespace ValueStream

namespace LogLine

/-- The colours in use, as their numbers in an escape sequence. -/
inductive Colour
  /-- For labels. -/
  | grey
  /-- For paths. -/
  | blue
  /-- For events. -/
  | yellow

/-- The number that sets the colour. -/
def Colour.code : Colour → String
  | grey => "90"
  | blue => "34"
  | yellow => "33"

/-- An escape sequence. -/
def escape (code : String) : String := "\x1b[" ++ code ++ "m"

/-- A text in a colour, then the default colour again. -/
def coloured (colour : Colour) (text : String) : String :=
  escape colour.code ++ text ++ escape "39"

/-- The line for an event at a path, which may be unknown. -/
def text (label : String) (path : Option Path) (kind : EventKind) : String :=
  let place := (path.map Path.text).getD "<path unknown>"
  coloured .grey label ++ " " ++ coloured .blue place ++ ": " ++ coloured .yellow kind.text

end LogLine

end ValueStream
