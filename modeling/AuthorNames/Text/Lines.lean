import AuthorNames.Unicode.StepTable
/-!
A text line by line. A line feed ends a line, with the carriage return in front of it if there is
one, and the end of the text ends the last line.
-/

namespace AuthorNames.Text

open AuthorNames.Unicode (splitWhere)

/-- A line without the carriage return at its end. -/
def dropReturn (line : List Char) : List Char :=
  if line.getLast? = some '\r' then line.dropLast else line

/-- The lines of a text. Only a line that a line feed ends loses its carriage return, and there is no
empty last line. -/
def lines (text : List Char) : List (List Char) :=
  let pieces := splitWhere (· == '\n') text
  pieces.dropLast.map dropReturn ++ (pieces.drop (pieces.length - 1)).filter (· ≠ [])

/-- The first line of a text, empty if there is none. -/
def firstLine (text : String) : String :=
  String.ofList ((lines text.toList).headD [])

end AuthorNames.Text
