import AuthorNames.Html.Token
import AuthorNames.Html.Tree
/-!
The state in which the tree of a page is built, and the moves that the rules for tokens are made of.
Elements are on a stack while they are open. Elements that only change the look of text are listed
besides, for they are opened again wherever text follows after something closed them by accident.
-/

namespace AuthorNames.Html

/-- Which rules the next token follows. -/
inductive Mode where
  | initial | beforeHtml | beforeHead | inHead | afterHead | inBody | text | inTable | inTableText
  | inCaption | inColumnGroup | inTableBody | inRow | inCell | inSelect | inSelectInTable
  | inTemplate | afterBody | inFrameset | afterFrameset | afterAfterBody | afterAfterFrameset
  deriving DecidableEq, Repr

/-- An entry in the list of elements that change the look of text: such an element with its tag, or
a mark that shuts off those before it. -/
inductive Formatting where
  | marker
  | element (node : Nat) (tag : Tag)
  deriving DecidableEq, Repr

/-- The state of the builder. The stack has the innermost element first, the list of formatting
elements the latest. -/
structure Builder where
  tree : Tree
  mode : Mode
  /-- The mode to go back to after raw text or text in a table. -/
  resume : Mode
  templateModes : List Mode
  stack : List Nat
  formatting : List Formatting
  head : Option Nat
  form : Option Nat
  framesetOk : Bool
  /-- Whether what a table cannot hold is put in front of it. -/
  isFostering : Bool
  /-- Whether a line feed that comes next is dropped. -/
  dropsLine : Bool
  isOld : Bool
  /-- Text in a table that is held back, latest character first. -/
  pending : List Char
  deriving DecidableEq, Repr

/-- What is to be done after a step. -/
inductive Verdict where
  | done
  /-- The token is for the mode just entered. -/
  | again
  /-- The text that follows is read as it is, to the end tag of the element. -/
  | raw (kind : RawKind)
  /-- All that follows is text. -/
  | plaintext
  deriving DecidableEq, Repr

/-- Whether an element is one of the page's own vocabulary with one of the names. -/
def Element.isOne (names : List String) (e : Element) : Bool :=
  e.space == .html && names.contains e.name

/-- Elements of formulas whose inside is text. -/
def Element.isMathText (e : Element) : Bool :=
  e.space == .math && ["mi", "mo", "mn", "ms", "mtext"].contains e.name

/-- Elements of drawings whose inside is a page again. -/
def Element.isSvgPage (e : Element) : Bool :=
  e.space == .svg && ["foreignobject", "desc", "title"].contains e.name

/-- Elements beyond which an open element is out of reach. -/
def Element.isScope (e : Element) : Bool :=
  e.isOne ["applet", "caption", "html", "table", "td", "th", "marquee", "object", "template"] ||
    e.isMathText || e.isSvgPage

/-- `isScope` for items of lists. -/
def Element.isListScope (e : Element) : Bool :=
  e.isScope || e.isOne ["ol", "ul"]

/-- `isScope` for paragraphs. -/
def Element.isButtonScope (e : Element) : Bool :=
  e.isScope || e.isOne ["button"]

/-- `isScope` for the parts of tables. -/
def Element.isTableScope (e : Element) : Bool :=
  e.isOne ["html", "table", "template"]

/-- `isScope` for the parts of a choice. -/
def Element.isSelectScope (e : Element) : Bool :=
  !e.isOne ["optgroup", "option"]

/-- The names of elements whose end tag may be left out. -/
def impliedNames : List String :=
  ["dd", "dt", "li", "option", "optgroup", "p", "rb", "rp", "rt", "rtc"]

/-- The names of elements whose end tag may be left out in front of the end of a template, which ends
the parts of tables too. -/
def thoroughlyImpliedNames : List String :=
  impliedNames ++ ["caption", "colgroup", "tbody", "td", "tfoot", "th", "thead", "tr"]

/-- The names of headings. -/
def headingNames : List String :=
  ["h1", "h2", "h3", "h4", "h5", "h6"]

/-- The names of elements that are more than a look of text: an end tag does not reach beyond one. -/
def specialNames : List String :=
  ["address", "applet", "area", "article", "aside", "base", "basefont", "bgsound", "blockquote",
   "body", "br", "button", "caption", "center", "col", "colgroup", "dd", "details", "dir", "div",
   "dl", "dt", "embed", "fieldset", "figcaption", "figure", "footer", "form", "frame", "frameset",
   "h1", "h2", "h3", "h4", "h5", "h6", "head", "header", "hgroup", "hr", "html", "iframe", "img",
   "input", "isindex", "li", "link", "listing", "main", "marquee", "menu", "menuitem", "meta", "nav",
   "noembed", "noframes", "noscript", "object", "ol", "p", "param", "plaintext", "pre", "script",
   "section", "select", "source", "style", "summary", "table", "tbody", "td", "template", "textarea",
   "tfoot", "th", "thead", "title", "tr", "track", "ul", "wbr", "xmp"]

/-- Whether an element is more than a look of text. -/
def Element.isSpecial (e : Element) : Bool :=
  e.isOne specialNames

/-- Where something new is put. -/
inductive Place where
  | inside (parent : Nat)
  /-- In front of a table, or at the end of the element around it if the table is nowhere. -/
  | beforeTable (table around : Nat)
  deriving DecidableEq, Repr

namespace Builder

/-- The state before the first token. -/
def start : Builder :=
  ⟨.empty, .initial, .initial, [], [], [], none, none, true, false, false, false, []⟩

/-- Enters a mode. -/
def enter (b : Builder) (mode : Mode) : Builder :=
  { b with mode }

/-- The open element on top of the stack. -/
def current? (b : Builder) : Option Element :=
  b.stack.head?.bind b.tree.element?

/-- Whether the element with a number has one of the names. -/
def isOne (b : Builder) (names : List String) (i : Nat) : Bool :=
  (b.tree.element? i).any (·.isOne names)

/-- Whether the innermost open element has one of the names. -/
def currentIs (b : Builder) (names : List String) : Bool :=
  b.current?.any (·.isOne names)

/-- Whether any open element has the name. -/
def hasOpen (b : Builder) (name : String) : Bool :=
  b.stack.any (b.isOne [name])

/-- Whether one of the open elements satisfies the predicate before one closes the scope. -/
def reaches (tree : Tree) (isScope : Element → Bool) (wanted : Nat → Bool) : List Nat → Bool
  | [] => false
  | i :: rest => wanted i || (!(tree.element? i).any isScope && reaches tree isScope wanted rest)

/-- Whether an element with one of the names is open in the scope. -/
def inScope (b : Builder) (isScope : Element → Bool) (names : List String) : Bool :=
  reaches b.tree isScope (b.isOne names) b.stack

/-- Closes the innermost element. -/
def pop (b : Builder) : Builder :=
  { b with stack := b.stack.drop 1 }

/-- Closes elements while the innermost satisfies the predicate. -/
def popWhile (b : Builder) (p : Element → Bool) : Builder :=
  { b with stack := b.stack.dropWhile fun i => (b.tree.element? i).any p }

/-- Closes elements up to and with the first that has one of the names. -/
def popThrough (b : Builder) (names : List String) : Builder :=
  { b with stack := (b.stack.dropWhile fun i => !b.isOne names i).drop 1 }

/-- Closes elements until the innermost has one of the names. -/
def popUntil (b : Builder) (names : List String) : Builder :=
  { b with stack := b.stack.dropWhile fun i => !b.isOne names i }

/-- Closes the elements whose end tag may be left out. -/
def closeImplied (b : Builder) : Builder :=
  b.popWhile (·.isOne impliedNames)

/-- Closes the elements whose end tag may be left out, other than those with the name. -/
def closeImpliedBut (b : Builder) (name : String) : Builder :=
  b.popWhile fun e => e.isOne impliedNames && e.name != name

/-- Closes a paragraph. -/
def closeParagraph (b : Builder) : Builder :=
  (b.closeImpliedBut "p").popThrough ["p"]

/-- Closes the paragraph that is open, if one is. -/
def closeParagraphInScope (b : Builder) : Builder :=
  if b.inScope Element.isButtonScope ["p"] then b.closeParagraph else b

/-- Takes an element off the stack, wherever on it. -/
def unstack (b : Builder) (i : Nat) : Builder :=
  { b with stack := b.stack.erase i }

/-- The place in front of the innermost open table, or inside the template that is open within it. -/
def fosterPlace (b : Builder) : List Nat → Place
  | [] => .inside (b.stack.getLast?.getD 0)
  | i :: rest =>
    if b.isOne ["template"] i then .inside (b.tree.templateContents i)
    else if b.isOne ["table"] i then .beforeTable i (rest.head?.getD 0)
    else fosterPlace b rest

/-- Where something is put that belongs at the end of an element. -/
def placeIn (b : Builder) (target : Nat) : Place :=
  if b.isFostering && b.isOne ["table", "tbody", "tfoot", "thead", "tr"] target then
    b.fosterPlace b.stack
  else if b.isOne ["template"] target then .inside (b.tree.templateContents target)
  else .inside target

/-- Where the next node or character is put. -/
def place (b : Builder) : Place :=
  b.placeIn (b.stack.head?.getD 0)

/-- Puts a node into its place. -/
def putNode (b : Builder) (place : Place) (i : Nat) : Builder :=
  match place with
  | .inside parent => { b with tree := b.tree.append parent i }
  | .beforeTable table around =>
    if (b.tree.parent? table).isSome then { b with tree := b.tree.insertBefore table i }
    else { b with tree := b.tree.append around i }

/-- Puts a character into its place. -/
def putChar (b : Builder) (c : Char) : Builder :=
  match b.place with
  | .inside parent => { b with tree := b.tree.appendChar parent c }
  | .beforeTable table around =>
    if (b.tree.parent? table).isSome then { b with tree := b.tree.insertCharBefore table c }
    else { b with tree := b.tree.appendChar around c }

/-- Puts a comment at the end of a node. -/
def putCommentIn (b : Builder) (parent : Nat) : Builder :=
  let (tree, i) := b.tree.add .comment
  { b with tree := tree.append parent i }

/-- Puts a comment into its place. -/
def putComment (b : Builder) : Builder :=
  let (tree, i) := b.tree.add .comment
  { b with tree }.putNode b.place i

/-- A new element in its place, and its number. -/
def putElement (b : Builder) (space : Space) (tag : Tag) : Builder × Nat :=
  let (tree, i) := b.tree.addElement ⟨space, tag.name, tag.attributes⟩
  ({ b with tree }.putNode b.place i, i)

/-- A new element in its place, opened. -/
def openIn (b : Builder) (space : Space) (tag : Tag) : Builder :=
  let (b, i) := b.putElement space tag
  { b with stack := i :: b.stack }

/-- A new element of the page's vocabulary in its place, opened. -/
def openTag (b : Builder) (tag : Tag) : Builder :=
  b.openIn .html tag

/-- A new element that nothing is put into. -/
def putTag (b : Builder) (tag : Tag) : Builder :=
  (b.putElement .html tag).1

/-- An element that no tag asked for. -/
def openName (b : Builder) (name : String) : Builder :=
  b.openTag ⟨name, [], false⟩

/-- The root element, on the page itself. -/
def openRoot (b : Builder) (tag : Tag) : Builder :=
  let (tree, i) := b.tree.addElement ⟨.html, tag.name, tag.attributes⟩
  { b with tree := tree.append 0 i, stack := i :: b.stack }

/-- No frameset may follow. -/
def noFrameset (b : Builder) : Builder :=
  { b with framesetOk := false }

/-! The list of formatting elements. -/

/-- The entries after the last mark, latest first. -/
def afterMarker : List Formatting → List (Nat × Tag)
  | .element i tag :: rest => (i, tag) :: afterMarker rest
  | _ => []

/-- Whether an entry is for the element. -/
def isEntry (i : Nat) : Formatting → Bool
  | .element j _ => i == j
  | .marker => false

/-- Whether the element is in the list. -/
def isFormatting (b : Builder) (i : Nat) : Bool :=
  b.formatting.any (isEntry i)

/-- Takes the element off the list. -/
def unlist (b : Builder) (i : Nat) : Builder :=
  { b with formatting := b.formatting.eraseP (isEntry i) }

/-- Shuts off the formatting elements before. -/
def mark (b : Builder) : Builder :=
  { b with formatting := .marker :: b.formatting }

/-- Drops the entries after the last mark, and the mark. -/
def clearToMark (b : Builder) : Builder :=
  { b with formatting := (b.formatting.dropWhile (· ≠ .marker)).drop 1 }

/-- Whether the elements of an entry need not be opened again: it is a mark, or open. -/
def isSettled (b : Builder) : Formatting → Bool
  | .marker => true
  | .element i _ => b.stack.contains i

/-- Opens the elements of the entries again, last one first in the list, and gives the list with
the new elements. -/
def reopen : Builder → List Formatting → Builder × List Formatting
  | b, [] => (b, [])
  | b, .marker :: rest =>
    let (b, entries) := reopen b rest
    (b, .marker :: entries)
  | b, .element _ tag :: rest =>
    let (b, entries) := reopen b rest
    let (b, i) := b.putElement .html tag
    ({ b with stack := i :: b.stack }, .element i tag :: entries)

/-- Opens again the formatting elements that something closed by accident. -/
def reconstruct (b : Builder) : Builder :=
  let lost := b.formatting.takeWhile fun entry => !b.isSettled entry
  match lost with
  | [] => b
  | _ =>
    let kept := b.formatting.dropWhile fun entry => !b.isSettled entry
    let (b, entries) := b.reopen lost
    { b with formatting := entries ++ kept }

/-- The earliest of the entries after the last mark that are for the same tag, if there are three. -/
def thirdAlike? (b : Builder) (tag : Tag) : Option Nat :=
  let alike := (afterMarker b.formatting).filter fun entry => tag.isSame entry.2
  if alike.length ≥ 3 then alike.getLast?.map (·.1) else none

/-- Opens an element that changes the look of text. Of those that are alike three are remembered. -/
def openFormatting (b : Builder) (tag : Tag) : Builder :=
  let b := match b.thirdAlike? tag with
    | some i => b.unlist i
    | none => b
  let (b, i) := b.putElement .html tag
  { b with stack := i :: b.stack, formatting := .element i tag :: b.formatting }

/-- The end tag of an element that has no rule of its own: it closes the innermost one of that name,
unless one that is more than a look of text is open inside it. -/
def closeGeneric (b : Builder) (name : String) : Builder :=
  let above := b.stack.takeWhile fun i => !b.isOne [name] i
  if above.length = b.stack.length || above.any fun i => (b.tree.element? i).any Element.isSpecial then b
  else
    let rest := b.stack.drop (above.length + 1)
    { b with stack := rest }

end Builder

end AuthorNames.Html
