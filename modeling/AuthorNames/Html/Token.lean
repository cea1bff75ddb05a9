/-!
The tokens of a page: what the reader of characters hands to the builder of the tree. Characters
come one at a time, for a page is read one character at a time.
-/

namespace AuthorNames.Html

/-- A start tag. Of two attributes with one name the first counts and the other is dropped. -/
structure Tag where
  name : String
  attributes : List (String × String)
  isSelfClosing : Bool
  deriving DecidableEq, Repr

/-- One token. A comment is told only by its place; its text is never looked at. -/
inductive Token where
  /-- A document type; `isOld` if it asks for the layout rules of old browsers. -/
  | doctype (isOld : Bool)
  | startTag (tag : Tag)
  | endTag (name : String)
  /-- An end tag without a name. -/
  | nameless
  | comment
  | char (c : Char)
  /-- The character zero where it is not simply replaced. -/
  | zero
  | endOfPage
  deriving DecidableEq, Repr

/-- How the text inside an element is read when it is not to be read as markup. -/
inductive RawKind where
  /-- Text with references, such as a title. -/
  | references
  /-- Text without. -/
  | plain
  | script
  /-- A script behind `<!--`. -/
  | scriptComment
  /-- A script inside a script, behind `<!--`. -/
  | scriptNested
  deriving DecidableEq, Repr

/-- The value of an attribute, if the tag has it. -/
def Tag.attribute? (tag : Tag) (name : String) : Option String :=
  tag.attributes.lookup name

/-- Whether two tags are the same but for the order of their attributes. -/
def Tag.isSame (a b : Tag) : Bool :=
  a.name == b.name && a.attributes.length == b.attributes.length &&
    a.attributes.all (b.attributes.contains ·)

/-- Whether a character separates words in markup: tab, line feed, form feed, carriage return or
space. -/
def isSpace (c : Char) : Bool :=
  c == '\t' || c == '\n' || c == '\x0c' || c == '\r' || c == ' '

end AuthorNames.Html
