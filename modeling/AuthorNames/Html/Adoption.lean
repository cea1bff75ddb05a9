import AuthorNames.Html.Builder
/-!
End tags of elements that change the look of text. Such an element may be closed while others are
open inside it; those are then taken out of it, and the look is given to their contents instead by a
new element of the same tag.
-/

namespace AuthorNames.Html

namespace Builder

/-- What is being rearranged: the node last put in order, the open elements that stay between it and
the element being closed (innermost first), and the entry behind which the new one goes, or none if
it takes the place of the old one. -/
structure Chain where
  builder : Builder
  last : Nat
  kept : List Nat
  behind : Option Nat

/-- The tag of an entry in the list of formatting elements. -/
def formattingTag? (b : Builder) (i : Nat) : Option Tag :=
  b.formatting.findSome? fun
    | .element j tag => if i = j then some tag else none
    | .marker => none

/-- The entry of one element made that of another. -/
def relist (b : Builder) (i : Nat) (entry : Formatting) : Builder :=
  { b with formatting := b.formatting.map fun e => if isEntry i e then entry else e }

/-- One open element between the element being closed and the one inside it that stays. The first
three that change the look of text are opened anew around what stays; all others are closed. -/
def Chain.link (block : Nat) (chain : Chain) (isNear : Bool) (i : Nat) : Chain :=
  match isNear, chain.builder.formattingTag? i with
  | true, some tag =>
    let (tree, new) := chain.builder.tree.addElement ⟨.html, tag.name, tag.attributes⟩
    let b := { chain.builder with tree := (tree.detach chain.last).append new chain.last }
    { builder := b.relist i (.element new tag)
      last := new
      kept := chain.kept ++ [new]
      behind := if chain.last = block then some new else chain.behind }
  | _, _ => { chain with builder := chain.builder.unlist i }

/-- The elements between, nearest to the one that stays first. -/
def Chain.linkAll (block : Nat) : Chain → Nat → List Nat → Chain
  | chain, _, [] => chain
  | chain, count, i :: rest => linkAll block (chain.link block (count < 3) i) (count + 1) rest

/-- The list with an entry put in front of that of an element. -/
def listInFront (entry : Formatting) (i : Nat) : List Formatting → List Formatting
  | [] => []
  | e :: rest => if isEntry i e then entry :: e :: rest else e :: listInFront entry i rest

/-- The rearrangement, when `block` is open inside the element `old` of tag `tag`: the open elements
are `inner` and the block, then `between`, the element, and `outer`. -/
def rearrange (b : Builder) (old block : Nat) (tag : Tag) (inner between outer : List Nat) : Builder :=
  let chain := Chain.linkAll block ⟨b, block, [], none⟩ 0 between
  let b := chain.builder
  let b := { b with stack := inner ++ block :: chain.kept ++ old :: outer, tree := b.tree.detach chain.last }
  let b := b.putNode (b.placeIn (outer.head?.getD 0)) chain.last
  let (tree, new) := b.tree.addElement ⟨.html, tag.name, tag.attributes⟩
  let b := { b with tree := (tree.moveChildren block new).append block new }
  let b := match chain.behind with
    | none => b.relist old (.element new tag)
    | some i => { b with formatting := listInFront (.element new tag) i b.formatting }.unlist old
  { b with stack := inner ++ new :: block :: chain.kept ++ outer }

/-- One round: the innermost formatting element of the name is closed, or one that is open inside it
is taken out of it. The flag tells whether there may be more to do. -/
def adoptOnce (b : Builder) (name : String) : Builder × Bool :=
  match (afterMarker b.formatting).find? fun entry => entry.2.name == name with
  | none => (b.closeGeneric name, false)
  | some (old, tag) =>
    if !b.stack.contains old then (b.unlist old, false)
    else if !reaches b.tree Element.isScope (· == old) b.stack then (b, false)
    else
      let above := b.stack.takeWhile (· ≠ old)
      let outer := (b.stack.dropWhile (· ≠ old)).drop 1
      let isBlock := fun i => (b.tree.element? i).any Element.isSpecial
      let fromOld := above.reverse
      match fromOld.dropWhile (!isBlock ·) with
      | [] => ({ b with stack := outer }.unlist old, false)
      | block :: innerFirst =>
        (b.rearrange old block tag innerFirst.reverse (fromOld.takeWhile (!isBlock ·)).reverse outer, true)

/-- Rounds until nothing is left to do, at most as many as the first argument says. -/
def adoptRounds (name : String) : Nat → Builder → Builder
  | 0, b => b
  | rounds + 1, b =>
    match b.adoptOnce name with
    | (b, true) => adoptRounds name rounds b
    | (b, false) => b

/-- The end tag of an element that changes the look of text. -/
def closeFormatting (b : Builder) (name : String) : Builder :=
  match b.stack with
  | top :: rest =>
    if b.isOne [name] top && !b.isFormatting top then { b with stack := rest } else adoptRounds name 8 b
  | [] => b

end Builder

end AuthorNames.Html
