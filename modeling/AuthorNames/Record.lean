/-!
Records: what is written about an identifier. One value is no identifier but says that a change has
no author; its record shows itself, and every other record shows a name and an address.
-/

namespace AuthorNames

/-- An identifier and what is shown for it. -/
structure Record where
  identifier : String
  display : String
  deriving DecidableEq, Repr

/-- The record as it is written. -/
def Record.text (r : Record) : String :=
  r.identifier ++ " = " ++ r.display

/-- The value that stands for no author. -/
def noAuthor : String :=
  "(no author)"

/-- Whose identifier a value is. -/
inductive Identity where
  | nobody
  | author (identifier : String)
  deriving DecidableEq, Repr

/-- Whose identifier a value is. Only the very value that stands for no author is nobody's; the empty
text is an author's like any other. -/
def Identity.of (value : String) : Identity :=
  if value = noAuthor then .nobody else .author value

/-- A name and, in angle brackets, the address of an identifier in a domain. -/
def contactAddress (name identifier domain : String) : String :=
  name ++ " <" ++ identifier ++ "@" ++ domain ++ ">"

end AuthorNames
