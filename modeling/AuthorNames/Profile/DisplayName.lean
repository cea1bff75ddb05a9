import AuthorNames.Html.Document
import AuthorNames.Text.Blank
/-!
The display name on a profile page: the first text that is not blank directly inside a link of class
`project_link` that stands directly in a heading of class `project_title`. Links are taken in the
order in which they came to be, so one that the reader of the page had to open again comes after
all that were there before.
-/

namespace AuthorNames.Profile

open AuthorNames.Html AuthorNames.Text

/-- Whether an element has a class, one of the words of its attribute `class`. -/
def hasClass (e : Element) (name : String) : Bool :=
  match e.attributes.lookup "class" with
  | some classes => (words classes.toList).contains name.toList
  | none => false

/-- Whether an element is the heading that holds the name. -/
def isTitle (e : Element) : Bool :=
  e.name == "h1" && hasClass e "project_title"

/-- Whether an element is of the kind that holds the name, wherever it stands. -/
def isLink (e : Element) : Bool :=
  e.name == "a" && hasClass e "project_link"

/-- Whether a node is a link directly in the heading. -/
def isNameLink (tree : Tree) (i : Nat) : Bool :=
  (tree.element? i).any isLink && ((tree.parent? i).bind tree.element?).any isTitle

/-- The links directly in the heading, in the order in which they came to be. -/
def nameLinks (tree : Tree) : List Nat :=
  (List.range tree.nodes.size).filter (isNameLink tree)

/-- The texts directly inside those links. -/
def nameTexts (tree : Tree) : List (List Char) :=
  (nameLinks tree).flatMap fun i => (tree.childrenOf i).filterMap tree.text?

/-- The first of the texts that is not blank, with one space between its words. -/
def firstName? (texts : List (List Char)) : Option (List Char) :=
  (texts.map collapse).find? (· ≠ [])

/-- The display name on a page. -/
def displayName? (page : String) : Option String :=
  (firstName? (nameTexts (parse page.toList))).map String.ofList

end AuthorNames.Profile
