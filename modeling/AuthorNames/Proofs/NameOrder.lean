import AuthorNames.Proofs.WordCollapse

/-! Of all the texts directly inside the links of the heading, the name is the
first that is not blank. First means here that its link came to be first; a
link that the reader of the page opened again, or put elsewhere, can stand on
the page before one that came to be earlier. -/
namespace AuthorNames.NameOrder
open AuthorNames.Html AuthorNames.Profile AuthorNames.Text AuthorNames.WordCollapse

/-- The element has a class: it is one of the pieces between the blanks of its attribute. -/
def HasClass (e : Element) (name : String) : Prop :=
  ∃ classes, e.attributes.lookup "class" = some classes ∧
    name.toList ∈ classes.toList.splitOnP isBlank

/-- The node is a link of the page's project, directly in the page's title. -/
structure IsMatch (tree : Tree) (i : Nat) : Prop where
  link : ∃ e, tree.element? i = some e ∧ e.name = "a" ∧ HasClass e "project_link"
  title : ∃ p e, tree.parent? i = some p ∧ tree.element? p = some e ∧
    e.name = "h1" ∧ HasClass e "project_title"

/-- The text is child number `place.2` of a link that is number `place.1` in an order of nodes. -/
def IsNameText (tree : Tree) (order : List Nat) (place : Nat × Nat) (text : List Char) : Prop :=
  ∃ link child, order[place.1]? = some link ∧ IsMatch tree link ∧
    (tree.childrenOf link)[place.2]? = some child ∧ tree.text? child = some text

/-- In an earlier link, or earlier in the same link. -/
def Earlier (a b : Nat × Nat) : Prop :=
  a.1 < b.1 ∨ a.1 = b.1 ∧ a.2 < b.2

/-- The name is made of the words of a text in a link, and every text that comes before it in a
link is blank. -/
def IsFirstName (tree : Tree) (order : List Nat) (name : List Char) : Prop :=
  ∃ place text, IsNameText tree order place text ∧
    name = [' '].intercalate ((text.splitOnP isBlank).filter (· ≠ [])) ∧ name ≠ [] ∧
    ∀ before other, IsNameText tree order before other → Earlier before place → Blank other

/-! ### Links and their names -/

theorem hasClass_iff {e : Element} {name : String} (nonempty : name.toList ≠ []) :
    hasClass e name = true ↔ HasClass e name := by
  rw [hasClass, HasClass]
  cases e.attributes.lookup "class" with
  | none => simp
  | some classes =>
    simp only [words_eq_splitOnP, List.contains_iff_mem, List.mem_filter, nonempty, ne_eq,
      not_false_iff, decide_true, and_true, Option.some.injEq, exists_eq_left']

theorem isNameLink_iff {tree : Tree} {i : Nat} : isNameLink tree i = true ↔ IsMatch tree i := by
  have link (e : Element) : isLink e = true ↔ e.name = "a" ∧ HasClass e "project_link" := by
    rw [isLink, Bool.and_eq_true, beq_iff_eq, hasClass_iff (by decide)]
  have title (e : Element) : isTitle e = true ↔ e.name = "h1" ∧ HasClass e "project_title" := by
    rw [isTitle, Bool.and_eq_true, beq_iff_eq, hasClass_iff (by decide)]
  rw [isNameLink, Bool.and_eq_true, Option.any_eq_true, Option.any_eq_true]
  simp only [link, title, Option.bind_eq_some_iff]
  constructor
  · rintro ⟨linked, e, ⟨p, inside, found⟩, titled⟩
    exact ⟨linked, p, e, inside, found, titled⟩
  · rintro ⟨linked, p, e, inside, found, titled⟩
    exact ⟨linked, e, ⟨p, inside, found⟩, titled⟩

/-- The name that a node gives, if it is a text and not blank. -/
def nameOf? (tree : Tree) (child : Nat) : Option (List Char) :=
  (tree.text? child).bind fun text => if collapse text = [] then none else some (collapse text)

/-- The name that a link gives, the first of those that its children give. -/
def nameIn? (tree : Tree) (link : Nat) : Option (List Char) :=
  if isNameLink tree link then (tree.childrenOf link).findSome? (nameOf? tree) else none

/-- The texts in the links, the links in some order. -/
def textsIn (tree : Tree) (order : List Nat) : List (List Char) :=
  (order.filter (isNameLink tree)).flatMap fun i => (tree.childrenOf i).filterMap tree.text?

theorem firstName?_children (tree : Tree) (children : List Nat) :
    firstName? (children.filterMap tree.text?) = children.findSome? (nameOf? tree) := by
  induction children with
  | nil => rfl
  | cons child rest ih =>
    rw [List.filterMap_cons, List.findSome?_cons, nameOf?]
    cases tree.text? child with
    | none => exact ih
    | some text =>
      rw [Option.bind_some, firstName?_cons, ih]
      split <;> rfl

theorem firstName?_append (texts others : List (List Char)) :
    firstName? (texts ++ others) = (firstName? texts).or (firstName? others) := by
  rw [firstName?, List.map_append, List.find?_append]
  rfl

theorem firstName?_textsIn (tree : Tree) (order : List Nat) :
    firstName? (textsIn tree order) = order.findSome? (nameIn? tree) := by
  induction order with
  | nil => rfl
  | cons link rest ih =>
    rw [textsIn] at ih ⊢
    rw [List.filter_cons, List.findSome?_cons, nameIn?]
    by_cases linked : isNameLink tree link = true
    · rw [if_pos linked, if_pos linked, List.flatMap_cons, firstName?_append,
        firstName?_children, ih]
      cases (tree.childrenOf link).findSome? (nameOf? tree) <;> rfl
    · rw [if_neg linked, if_neg linked, ih]

/-! ### The first of them -/

theorem findSome?_eq_some_iff_place {α β : Type} {g : α → Option β} {list : List α} {b : β} :
    list.findSome? g = some b ↔
      ∃ (i : Nat) (a : α), list[i]? = some a ∧ g a = some b ∧
        ∀ j < i, ∀ d, list[j]? = some d → g d = none := by
  rw [List.findSome?_eq_some_iff]
  constructor
  · rintro ⟨front, a, back, rfl, gives, nothing⟩
    refine ⟨front.length, a, by simp, gives, fun j before d there => nothing d ?_⟩
    rw [List.getElem?_append_left before] at there
    exact List.mem_of_getElem? there
  · rintro ⟨i, a, here, gives, nothing⟩
    obtain ⟨inside, rfl⟩ := List.getElem?_eq_some_iff.mp here
    refine ⟨list.take i, list[i], list.drop (i + 1), ?_, gives, fun d member => ?_⟩
    · rw [List.getElem_cons_drop, List.take_append_drop]
    · obtain ⟨j, bound, rfl⟩ := List.mem_take_iff_getElem.mp member
      exact nothing j (by omega) _ (List.getElem?_eq_getElem _)

theorem nameOf?_eq_some_iff {tree : Tree} {child : Nat} {name : List Char} :
    nameOf? tree child = some name ↔
      ∃ text, tree.text? child = some text ∧ name = collapse text ∧ name ≠ [] := by
  rw [nameOf?, Option.bind_eq_some_iff]
  refine exists_congr fun text => and_congr_right fun _ => ?_
  split
  · rename_i blank
    simp [blank]
  · rename_i something
    constructor
    · rintro ⟨⟩
      exact ⟨rfl, something⟩
    · rintro ⟨rfl, -⟩
      rfl

theorem nameOf?_eq_none_iff {tree : Tree} {child : Nat} :
    nameOf? tree child = none ↔ ∀ text, tree.text? child = some text → Blank text := by
  rw [nameOf?, Option.bind_eq_none_iff]
  refine forall₂_congr fun text _ => ?_
  rw [← collapse_eq_nil_iff, ite_eq_left_iff]
  simp

theorem nameIn?_eq_none_iff {tree : Tree} {link : Nat} :
    nameIn? tree link = none ↔ (IsMatch tree link →
      ∀ child ∈ tree.childrenOf link, ∀ text, tree.text? child = some text → Blank text) := by
  rw [nameIn?, ← isNameLink_iff]
  split
  · rename_i linked
    simp only [List.findSome?_eq_none_iff, nameOf?_eq_none_iff, linked, forall_const]
  · rename_i unlinked
    simp [unlinked]

theorem firstName?_eq_some_iff {tree : Tree} {order : List Nat} {name : List Char} :
    firstName? (textsIn tree order) = some name ↔ IsFirstName tree order name := by
  -- the first link that gives a name, and in it the first child that does
  rw [firstName?_textsIn, findSome?_eq_some_iff_place]
  constructor
  · rintro ⟨i, link, here, gives, nothing⟩
    rw [nameIn?] at gives
    split at gives
    case isFalse => cases gives
    rename_i linked
    rw [findSome?_eq_some_iff_place] at gives
    obtain ⟨k, child, there, named, blankBefore⟩ := gives
    obtain ⟨text, found, rfl, something⟩ := nameOf?_eq_some_iff.mp named
    refine ⟨(i, k), text, ⟨link, child, here, isNameLink_iff.mp linked, there, found⟩,
      collapse_eq_intercalate text, something, ?_⟩
    rintro ⟨j, l⟩ other ⟨link', child', here', linked', there', found'⟩ (before | ⟨same, before⟩)
    · exact nameIn?_eq_none_iff.mp (nothing j before link' here') linked' child'
        (List.mem_of_getElem? there') other found'
    · obtain rfl : j = i := same
      obtain rfl : link = link' := Option.some.inj (here.symm.trans here')
      exact nameOf?_eq_none_iff.mp (blankBefore l before child' there') other found'
  · rintro ⟨⟨i, k⟩, text, ⟨link, child, here, linked, there, found⟩, rfl, something, blankBefore⟩
    have named : nameOf? tree child = some (collapse text) :=
      nameOf?_eq_some_iff.mpr ⟨text, found, rfl, by rwa [collapse_eq_intercalate]⟩
    rw [← collapse_eq_intercalate]
    refine ⟨i, link, here, ?_, fun j before link' here' => ?_⟩
    · rw [nameIn?, if_pos (isNameLink_iff.mpr linked), findSome?_eq_some_iff_place]
      refine ⟨k, child, there, named, fun l before child' there' => ?_⟩
      exact nameOf?_eq_none_iff.mpr fun other found' =>
        blankBefore (i, l) other ⟨link, child', here, linked, there', found'⟩ (.inr ⟨rfl, before⟩)
    · refine nameIn?_eq_none_iff.mpr fun linked' child' member other found' => ?_
      obtain ⟨l, there'⟩ := List.getElem?_of_mem member
      exact blankBefore (j, l) other ⟨link', child', here', linked', there', found'⟩ (.inl before)

/-! ### The two orders -/

def creationOrder (tree : Tree) : List Nat :=
  List.range tree.nodes.size

theorem mem_creationOrder {tree : Tree} {link : Nat} (linked : IsMatch tree link) :
    link ∈ creationOrder tree := by
  obtain ⟨⟨e, found, -⟩, -⟩ := linked
  rw [creationOrder, List.mem_range]
  refine Nat.lt_of_not_le fun beyond => ?_
  rw [Tree.element?, Tree.node?, Array.getElem?_eq_none beyond] at found
  cases found

/-- A node and all below it, as they stand on the page: each before what is in it, and what is in
one child before the next. The first argument bounds the depth. -/
def walk (tree : Tree) : Nat → Nat → List Nat
  | 0, _ => []
  | depth + 1, i => i :: (tree.childrenOf i).flatMap (walk tree depth)

/-- The nodes of the page in document order; no branch has more of them than there are nodes. -/
def documentOrder (tree : Tree) : List Nat :=
  walk tree tree.nodes.size 0

/-- The second node is the first or somewhere in it. -/
inductive Within (tree : Tree) : Nat → Nat → Prop where
  | here (i : Nat) : Within tree i i
  | child {i child j : Nat} (inside : child ∈ tree.childrenOf i) (within : Within tree child j) :
      Within tree i j

/-- The second node is in the first, or in a later child of a node that has the first in an earlier
one. -/
def Precedes (tree : Tree) (i j : Nat) : Prop :=
  (∃ child ∈ tree.childrenOf i, Within tree child j) ∨
    ∃ parent first second, [first, second].Sublist (tree.childrenOf parent) ∧
      Within tree first i ∧ Within tree second j

theorem within_of_mem_walk {tree : Tree} {depth i j : Nat} (member : j ∈ walk tree depth i) :
    Within tree i j := by
  induction depth generalizing i with
  | zero => cases member
  | succ depth ih =>
    rcases List.mem_cons.mp member with rfl | below
    · exact .here j
    · obtain ⟨child, inside, member⟩ := List.mem_flatMap.mp below
      exact .child inside (ih member)

theorem walk_pairwise (tree : Tree) (depth i : Nat) :
    (walk tree depth i).Pairwise (Precedes tree) := by
  induction depth generalizing i with
  | zero => exact .nil
  | succ depth ih =>
    refine .cons (fun j below => ?_) (List.pairwise_flatMap.mpr ⟨fun child _ => ih child, ?_⟩)
    · obtain ⟨child, inside, member⟩ := List.mem_flatMap.mp below
      exact .inl ⟨child, inside, within_of_mem_walk member⟩
    · refine List.pairwise_iff_forall_sublist.mpr fun {first second} inOrder j inFirst k inSecond => ?_
      exact .inr ⟨i, first, second, inOrder, within_of_mem_walk inFirst,
        within_of_mem_walk inSecond⟩

/-- The list is in the order of the tree: each node in it precedes all behind it. -/
theorem documentOrder_pairwise (tree : Tree) : (documentOrder tree).Pairwise (Precedes tree) :=
  walk_pairwise tree _ 0

/-- The nodes of an order that give a name. -/
def namedLinks (tree : Tree) (order : List Nat) : List Nat :=
  order.filter fun i => (nameIn? tree i).isSome

/-- The name that the first node of an order gives, of those that give one. -/
def firstGiven? (tree : Tree) (order : List Nat) : Option (List Char) :=
  (namedLinks tree order).head?.bind (nameIn? tree)

theorem firstGiven?_eq_findSome? (tree : Tree) (order : List Nat) :
    firstGiven? tree order = order.findSome? (nameIn? tree) := by
  induction order with
  | nil => rfl
  | cons i rest ih =>
    rw [firstGiven?, namedLinks] at ih ⊢
    rw [List.filter_cons, List.findSome?_cons]
    cases given : nameIn? tree i with
    | none => exact ih
    | some name => simp [given]

/-- In any order of the nodes, the name is first if the first link that gives one gives it. -/
theorem isFirstName_iff {tree : Tree} {order : List Nat} {name : List Char} :
    IsFirstName tree order name ↔ firstGiven? tree order = some name := by
  rw [← firstName?_eq_some_iff, firstName?_textsIn, firstGiven?_eq_findSome?]

theorem displayName?_eq_some_iff {page name : String} :
    displayName? page = some name ↔
      firstName? (textsIn (parse page.toList) (creationOrder (parse page.toList))) =
        some name.toList := by
  rw [displayName?, Option.map_eq_some_iff]
  constructor
  · rintro ⟨found, first, rfl⟩
    rw [String.toList_ofList]
    exact first
  · intro first
    exact ⟨name.toList, first, String.ofList_toList⟩

theorem displayName?_eq_none_iff {page : String} :
    displayName? page = none ↔
      firstName? (textsIn (parse page.toList) (creationOrder (parse page.toList))) = none :=
  Option.map_eq_none_iff

/-- **The name on a page is the first text in a link that is not blank, by when the links came to
be.** There is none only if all such texts are blank. It is the first as the page stands too exactly
if the link that stands first on it, of those that give a name, gives the same one as the link that
came to be first. -/
theorem name_is_first_text (page : String) :
    let tree := parse page.toList
    (∀ name, displayName? page = some name ↔ IsFirstName tree (creationOrder tree) name.toList) ∧
    (displayName? page = none ↔ ∀ link, IsMatch tree link →
      ∀ child ∈ tree.childrenOf link, ∀ text, tree.text? child = some text → Blank text) ∧
    (firstGiven? tree (documentOrder tree) = firstGiven? tree (creationOrder tree) ↔
      ∀ name, displayName? page = some name ↔
        IsFirstName tree (documentOrder tree) name.toList) := by
  intro tree
  have byCreation (name : String) :
      displayName? page = some name ↔ IsFirstName tree (creationOrder tree) name.toList := by
    rw [displayName?_eq_some_iff, firstName?_eq_some_iff]
  refine ⟨byCreation, ?_, ?_⟩
  · rw [displayName?_eq_none_iff, firstName?_textsIn, List.findSome?_eq_none_iff]
    simp only [nameIn?_eq_none_iff]
    refine ⟨fun blank link linked => blank link (mem_creationOrder linked) linked,
      fun blank link _ => blank link⟩
  · simp only [byCreation, isFirstName_iff]
    refine ⟨fun same name => by rw [same], fun agree => Option.ext fun name => ?_⟩
    rw [← String.toList_ofList (l := name)]
    exact (agree _).symm

def twoHeadings : String :=
  "<h1 class=project_title><a class=project_link> <b>Ann</b></a></h1>" ++
    "<h1 class=project_title><a class=project_link>Bo</a></h1>"

theorem blank_link_hides_no_name :
    displayName? twoHeadings = some "Bo" ∧
      IsFirstName (parse twoHeadings.toList) (documentOrder (parse twoHeadings.toList))
        "Bo".toList := by
  have shown : displayName? twoHeadings = some "Bo" :=
    displayName?_eq_some_iff.mpr (by decide +kernel)
  exact ⟨shown, ((name_is_first_text twoHeadings).2.2.mp (by decide +kernel) "Bo").mp shown⟩

/-- When the link around everything is closed, the reader opens it once more inside the heading that
it may not go beyond. The new link takes over the first text, after the link in the object came to
be. -/
def reopenedPage : String :=
  "<a class=project_link><h1 class=project_title>First<object>" ++
    "<h1 class=project_title><a class=project_link>Second</a></h1></object></a>"

theorem reopened_link_comes_too_late :
    displayName? reopenedPage = some "Second" ∧
    ¬ (displayName? reopenedPage = some "First" ↔
      IsFirstName (parse reopenedPage.toList) (documentOrder (parse reopenedPage.toList))
        "First".toList) := by
  have shown : displayName? reopenedPage = some "Second" :=
    displayName?_eq_some_iff.mpr (by decide +kernel)
  have stands : firstName? (textsIn (parse reopenedPage.toList)
      (documentOrder (parse reopenedPage.toList))) = some "First".toList := by
    decide +kernel
  refine ⟨shown, fun claimed => ?_⟩
  have other := claimed.mpr (firstName?_eq_some_iff.mp stands)
  rw [shown] at other
  exact absurd other (by decide)

end AuthorNames.NameOrder
