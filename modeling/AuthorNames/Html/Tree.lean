/-!
The tree of a page. Nodes are numbered in the order in which they come to be and keep their number
wherever they are moved, so a misplaced element can be put elsewhere while it is still open. A node
lists its children latest first: putting one at the end is the common case.
-/

namespace AuthorNames.Html

/-- The vocabulary that an element's name is from. -/
inductive Space where
  | html | svg | math
  deriving DecidableEq, Repr

/-- An element by its name and attributes. -/
structure Element where
  space : Space
  name : String
  attributes : List (String × String)
  deriving DecidableEq, Repr

/-- What a node is. The parts of a template belong to a tree of their own under a node of its own;
the characters of a text are kept latest first. -/
inductive Content where
  | document
  | templateContents
  | doctype
  | comment
  | text (reversed : List Char)
  | element (element : Element)
  deriving DecidableEq, Repr

/-- A node, with its parent and its children, latest first. -/
structure Node where
  content : Content
  parent : Option Nat
  children : List Nat
  deriving DecidableEq, Repr

/-- The nodes of a page by their numbers; number zero is the page itself. -/
structure Tree where
  nodes : Array Node
  deriving DecidableEq, Repr

namespace Tree

/-- A page with nothing on it. -/
def empty : Tree :=
  ⟨#[⟨.document, none, []⟩]⟩

/-- The node with a number. -/
def node? (t : Tree) (i : Nat) : Option Node :=
  t.nodes[i]?

/-- The element with a number. -/
def element? (t : Tree) (i : Nat) : Option Element :=
  match t.node? i with
  | some ⟨.element e, _, _⟩ => some e
  | _ => none

/-- The node that a node is in. -/
def parent? (t : Tree) (i : Nat) : Option Nat :=
  (t.node? i).bind (·.parent)

/-- Changes one node. -/
def update (t : Tree) (i : Nat) (change : Node → Node) : Tree :=
  match t.nodes[i]? with
  | some node => ⟨t.nodes.setIfInBounds i (change node)⟩
  | none => t

/-- A new node that is nowhere yet. -/
def add (t : Tree) (content : Content) : Tree × Nat :=
  (⟨t.nodes.push ⟨content, none, []⟩⟩, t.nodes.size)

/-- Takes a node out of the node it is in. -/
def detach (t : Tree) (i : Nat) : Tree :=
  match t.parent? i with
  | none => t
  | some p =>
    (t.update p fun node => { node with children := node.children.erase i }).update i
      fun node => { node with parent := none }

/-- Moves a node to the end of another. -/
def append (t : Tree) (parent child : Nat) : Tree :=
  ((t.detach child).update parent fun node => { node with children := child :: node.children }).update
    child fun node => { node with parent := some parent }

/-- The list with an element put behind the first occurrence of another. -/
def insertBehind (mark new : Nat) : List Nat → List Nat
  | [] => []
  | i :: rest => if i = mark then i :: new :: rest else i :: insertBehind mark new rest

/-- Moves a node to directly in front of another, if that is in one. -/
def insertBefore (t : Tree) (sibling child : Nat) : Tree :=
  let t := t.detach child
  match t.parent? sibling with
  | none => t
  | some p =>
    (t.update p fun node => { node with children := insertBehind sibling child node.children }).update
      child fun node => { node with parent := some p }

/-- Whether a node is a text. -/
def isText (t : Tree) (i : Nat) : Bool :=
  match t.node? i with
  | some ⟨.text _, _, _⟩ => true
  | _ => false

/-- Puts one more character at the end of a text. -/
def pushChar (t : Tree) (i : Nat) (c : Char) : Tree :=
  t.update i fun node =>
    match node.content with
    | .text reversed => { node with content := .text (c :: reversed) }
    | _ => node

/-- Puts a character at the end of a node: to the text that is there, or as a new one. -/
def appendChar (t : Tree) (parent : Nat) (c : Char) : Tree :=
  match (t.node? parent).bind (·.children.head?) with
  | some last =>
    if t.isText last then t.pushChar last c
    else
      let (t, i) := t.add (.text [c])
      t.append parent i
  | none =>
    let (t, i) := t.add (.text [c])
    t.append parent i

/-- The child in front of a node. -/
def previous? (t : Tree) (i : Nat) : Option Nat := do
  let p ← t.parent? i
  let node ← t.node? p
  ((node.children.dropWhile (· ≠ i)).drop 1).head?

/-- Puts a character directly in front of a node, if that is in one. -/
def insertCharBefore (t : Tree) (sibling : Nat) (c : Char) : Tree :=
  match t.parent? sibling with
  | none => t
  | some _ =>
    match t.previous? sibling with
    | some previous =>
      if t.isText previous then t.pushChar previous c
      else
        let (t, i) := t.add (.text [c])
        t.insertBefore sibling i
    | none =>
      let (t, i) := t.add (.text [c])
      t.insertBefore sibling i

/-- Moves all that is in one node to the end of another. -/
def moveChildren (t : Tree) (source target : Nat) : Tree :=
  match t.node? source with
  | none => t
  | some node => node.children.foldr (fun child t => t.append target child) t

/-- A new element that is nowhere yet. A template has its contents in it from the beginning. -/
def addElement (t : Tree) (e : Element) : Tree × Nat :=
  let (t, i) := t.add (.element e)
  if e.space = .html ∧ e.name = "template" then
    let (t, contents) := t.add .templateContents
    (t.append i contents, i)
  else (t, i)

/-- The node that holds the parts of a template: its first child. -/
def templateContents (t : Tree) (template : Nat) : Nat :=
  ((t.node? template).bind (·.children.getLast?)).getD template

/-- The numbers of a node's children, first to last. -/
def childrenOf (t : Tree) (i : Nat) : List Nat :=
  match t.node? i with
  | some node => node.children.reverse
  | none => []

/-- The characters of a text node. -/
def text? (t : Tree) (i : Nat) : Option (List Char) :=
  match t.node? i with
  | some ⟨.text reversed, _, _⟩ => some reversed.reverse
  | _ => none

end Tree

end AuthorNames.Html
