import AuthorNames.Proofs.WordCollapse

/-! A name written into a page with its ampersands and less-than signs escaped
is read back from the page, whatever markup it looks like. The reader of the
page is followed through the name: behind any part of it, the text in the link
is what was escaped. -/
namespace AuthorNames.EscapedName
open AuthorNames.Html AuthorNames.Profile AuthorNames.Text AuthorNames.WordCollapse

/-- A character as it is written on a page: the two that begin markup as references. -/
def escapeChar (c : Char) : List Char :=
  if c = '&' then ['&', 'a', 'm', 'p', ';']
  else if c = '<' then ['&', 'l', 't', ';']
  else [c]

def escape (text : List Char) : List Char :=
  text.flatMap escapeChar

/-- What stands in front of the name on its page. -/
def opening : String :=
  "<html><body><h1 class=\"project_title\"><a class=\"project_link\" href=\"#\">"

def closing : String :=
  "</a></h1></body></html>"

/-- The page that shows a text as the name. -/
def profilePage (text : String) : String :=
  opening ++ String.ofList (escape text.toList) ++ closing

/-! ### Line breaks -/

theorem unifyBreaks_append {front : List Char} (noReturn : '\r' ∉ front) (rest : List Char) :
    unifyBreaks (front ++ rest) = front ++ unifyBreaks rest := by
  induction front with
  | nil => rfl
  | cons c front ih =>
    obtain ⟨other, noReturn⟩ := List.ne_and_not_mem_of_not_mem_cons noReturn
    rw [List.cons_append, unifyBreaks, ih noReturn]
    · rfl
    · rintro _ rfl
      exact absurd rfl other
    · rintro rfl
      exact absurd rfl other

theorem escapeChar_no_return {c : Char} (other : c ≠ '\r') : '\r' ∉ escapeChar c := by
  rw [escapeChar]
  split
  · decide
  · split
    · decide
    · simpa using other.symm

theorem escapeChar_begins {c : Char} (other : c ≠ '\n') (rest tail : List Char) :
    escapeChar c ++ rest ≠ '\n' :: tail := by
  rw [escapeChar]
  split
  · simp
  · split
    · simp
    · simp [other]

/-- Line breaks are unified in an escaped text as in the text itself. -/
theorem unifyBreaks_escape {rest : List Char} (separate : ∀ tail, rest ≠ '\n' :: tail)
    (text : List Char) :
    unifyBreaks (escape text ++ rest) = escape (unifyBreaks text) ++ unifyBreaks rest := by
  fun_induction unifyBreaks text with
  | case1 text ih => exact congrArg ('\n' :: ·) ih
  | case2 text alone ih =>
    have apart : ∀ tail, escape text ++ rest ≠ '\n' :: tail := by
      intro tail
      cases text with
      | nil => exact separate tail
      | cons c text =>
        -- a lone return is not followed by a feed, so neither is it once the text is escaped
        have other : c ≠ '\n' := fun feed => alone text (by rw [feed])
        rw [escape, List.flatMap_cons, List.append_assoc]
        exact escapeChar_begins other _ tail
    have unified : unifyBreaks ('\r' :: (escape text ++ rest)) =
        '\n' :: unifyBreaks (escape text ++ rest) := by
      rw [unifyBreaks]
      exact apart
    exact unified.trans (congrArg ('\n' :: ·) ih)
  | case3 c text notPair notReturn ih =>
    have other : c ≠ '\r' := fun same => notReturn same
    rw [escape, List.flatMap_cons, List.append_assoc,
      unifyBreaks_append (escapeChar_no_return other), escape, List.flatMap_cons,
      List.append_assoc]
    exact congrArg (escapeChar c ++ ·) ih
  | case4 => rfl

theorem mem_unifyBreaks {text : List Char} {c : Char} (member : c ∈ unifyBreaks text) :
    c = '\n' ∨ c ∈ text := by
  fun_induction unifyBreaks text with
  | case1 text ih =>
    rcases List.mem_cons.mp member with feed | member
    · exact .inl feed
    · exact (ih member).imp_right (List.mem_cons_of_mem _ <| List.mem_cons_of_mem _ ·)
  | case2 text alone ih =>
    rcases List.mem_cons.mp member with feed | member
    · exact .inl feed
    · exact (ih member).imp_right (List.mem_cons_of_mem _)
  | case3 d text notPair notReturn ih =>
    rcases List.mem_cons.mp member with rfl | member
    · exact .inr List.mem_cons_self
    · exact (ih member).imp_right (List.mem_cons_of_mem _)
  | case4 => cases member

/-- The kind of a line break makes no difference to the words of a text. -/
theorem splitWord_unifyBreaks (text : List Char) : splitWord (unifyBreaks text) = splitWord text := by
  have feed : isBlank '\n' = true := by decide
  have back : isBlank '\r' = true := by decide
  fun_induction unifyBreaks text with
  | case1 text ih => simp [splitWord, ih, feed, back, consWord]
  | case2 text alone ih => simp [splitWord, ih, feed, back]
  | case3 c text notPair notReturn ih => simp only [splitWord, ih]
  | case4 => rfl

theorem collapse_unifyBreaks (text : List Char) : collapse (unifyBreaks text) = collapse text := by
  rw [collapse, words, splitWord_unifyBreaks]
  rfl

/-! ### The reader of characters -/

section
variable {last : String} {b : Builder}

theorem feed_enter {state next : LexerState} {c : Char}
    (reaction : ∀ foreign, react last foreign state c = .enter next) :
    Parser.feed ⟨state, last, b⟩ c = ⟨next, last, b⟩ := by
  rw [Parser.feed, Parser.read]
  dsimp only
  rw [reaction]
  rfl

theorem feed_give {state next : LexerState} {c : Char} {token : Token}
    (reaction : ∀ foreign, react last foreign state c = .give token next) :
    Parser.feed ⟨state, last, b⟩ c = Parser.take ⟨next, last, b⟩ token := by
  rw [Parser.feed, Parser.read]
  dsimp only
  rw [reaction]
  rfl

theorem take_done {state : LexerState} {token : Token} {after : Builder}
    (noStart : ∀ tag, token ≠ .startTag tag) (taken : b.take token = (after, .done)) :
    Parser.take ⟨state, last, b⟩ token = ⟨state, last, after⟩ := by
  rw [Parser.take]
  simp only [taken]
  exact noStart

/-- Each escaped character is read as the one token that it stands for. -/
theorem feed_escapeChar {c : Char} (nonzero : c ≠ '\x00') :
    (escapeChar c).foldl Parser.feed ⟨.data, last, b⟩ = Parser.take ⟨.data, last, b⟩ (.char c) := by
  rw [escapeChar]
  split
  · rename_i ampersand
    subst ampersand
    rfl
  · rename_i noReference
    split
    · rename_i less
      subst less
      rfl
    · rename_i noTag
      refine feed_give fun foreign => ?_
      simp only [react, noReference, noTag, nonzero, if_false]
      rfl

/-- A character that goes into the name of a tag as it is. -/
def isTagLetter (c : Char) : Bool :=
  !endsName c && nameChar c == c

theorem feed_endTagName {letters name : List Char} (ordinary : letters.all isTagLetter = true) :
    letters.foldl Parser.feed ⟨.tagName ⟨true, name, []⟩, last, b⟩ =
      ⟨.tagName ⟨true, letters.reverse ++ name, []⟩, last, b⟩ := by
  induction letters generalizing name with
  | nil => rfl
  | cons c rest ih =>
    rw [List.all_cons, isTagLetter, Bool.and_eq_true, Bool.and_eq_true, Bool.not_eq_true',
      beq_iff_eq] at ordinary
    obtain ⟨⟨inside, same⟩, later⟩ := ordinary
    have step : Parser.feed ⟨.tagName ⟨true, name, []⟩, last, b⟩ c =
        ⟨.tagName ⟨true, c :: name, []⟩, last, b⟩ :=
      feed_enter fun foreign => by simp only [react, inside, same, Bool.false_eq_true, if_false]
    rw [List.foldl_cons, step, ih later, List.reverse_cons, List.append_assoc]
    rfl

def endTagText (name : List Char) : List Char :=
  '<' :: '/' :: name ++ ['>']

theorem feed_endTag {first : Char} {rest : List Char} (letter : first.isAlpha = true)
    (lower : first.toLower = first) (ordinary : rest.all isTagLetter = true) {after : Builder}
    (taken : b.take (.endTag (String.ofList (first :: rest))) = (after, .done)) :
    (endTagText (first :: rest)).foldl Parser.feed ⟨.data, last, b⟩ = ⟨.data, last, after⟩ := by
  have opened : Parser.feed ⟨.data, last, b⟩ '<' = ⟨.tagOpen, last, b⟩ :=
    feed_enter fun _ => rfl
  have slashed : Parser.feed ⟨.tagOpen, last, b⟩ '/' = ⟨.endTagOpen, last, b⟩ :=
    feed_enter fun _ => rfl
  have begun : Parser.feed ⟨.endTagOpen, last, b⟩ first =
      ⟨.tagName ⟨true, [first], []⟩, last, b⟩ :=
    feed_enter fun foreign => by
      have inside : first ≠ '>' := by rintro rfl; cases letter
      simp only [react, inside, letter, lower, if_true, if_false]
  have closed (name : List Char) : Parser.feed ⟨.tagName ⟨true, name, []⟩, last, b⟩ '>' =
      Parser.take ⟨.data, last, b⟩ (.endTag (readText name)) :=
    feed_give fun _ => rfl
  simp only [endTagText, List.cons_append, List.foldl_cons, List.foldl_append, List.foldl_nil,
    opened, slashed, begun, feed_endTagName ordinary, closed]
  rw [readText, List.reverse_append, List.reverse_reverse]
  exact take_done nofun taken

theorem finish_data {after : Builder} (taken : b.take .endOfPage = (after, .done)) :
    Parser.finish ⟨.data, last, b⟩ = after.tree := by
  have ended : Parser.take ⟨.data, last, b⟩ .endOfPage = ⟨.data, last, after⟩ :=
    take_done nofun taken
  simp only [Parser.finish, atEnd, List.foldl_nil, ended]

end

/-! ### The tree of the page -/

def linkTag : Tag :=
  ⟨"a", [("class", "project_link"), ("href", "#")], false⟩

def elementIn (parent : Nat) (name : String) (attributes : List (String × String))
    (children : List Nat) : Node :=
  ⟨.element ⟨.html, name, attributes⟩, some parent, children⟩

/-- The nodes of the page, with what is in the link, the last of them. -/
def pageNodes (inLink : List Nat) : List Node :=
  [⟨.document, none, [1]⟩,
    elementIn 0 "html" [] [3, 2],
    elementIn 1 "head" [] [],
    elementIn 1 "body" [] [4],
    elementIn 3 "h1" [("class", "project_title")] [5],
    elementIn 4 "a" linkTag.attributes inLink]

/-- The page behind some characters of its name, the latest first. Before the first there is no
text in the link. -/
def pageTree : List Char → Tree
  | [] => ⟨(pageNodes []).toArray⟩
  | seen => ⟨(pageNodes [6] ++ [Node.mk (.text seen) (some 5) []]).toArray⟩

def namePart (seen : List Char) : Builder :=
  { Builder.start with
    tree := pageTree seen
    mode := .inBody
    stack := [5, 4, 3, 1]
    formatting := [.element 5 linkTag]
    head := some 2
    framesetOk := false
    isOld := true }

/-- In the name, behind some characters of it. -/
def reading (seen : List Char) : Parser :=
  ⟨.data, "a", namePart seen⟩

theorem opening_read : opening.toList.foldl Parser.feed .start = reading [] := by
  decide +kernel

theorem appendChar_pageTree (seen : List Char) (c : Char) :
    (pageTree seen).appendChar 5 c = pageTree (c :: seen) := by
  cases seen <;> rfl

theorem charInBody_namePart (seen : List Char) (c : Char) :
    Rules.charInBody (namePart seen) c = namePart (c :: seen) := by
  have settled : (namePart seen).reconstruct = namePart seen := by cases seen <;> rfl
  have inLink : (namePart seen).place = .inside 5 := by cases seen <;> rfl
  have frameless : (namePart seen).noFrameset = namePart seen := rfl
  rw [Rules.charInBody]
  simp only [settled, frameless, ite_self, Builder.putChar, inLink]
  rw [namePart]
  simp only [appendChar_pageTree]
  rfl

theorem take_namePart (seen : List Char) (c : Char) :
    (namePart seen).take (.char c) = (namePart (c :: seen), .done) := by
  have ordinary : Rules.isForeign (namePart seen) (.char c) = false := by cases seen <;> rfl
  have step : Rules.step (namePart seen) (.char c) = (namePart (c :: seen), .done) := by
    rw [Rules.step, ordinary]
    exact congrArg (·, _) (charInBody_namePart seen c)
  -- a single step takes the character, so of the bound only the form matters
  have bound : Rules.stepBound (namePart seen) = 47 + 1 := rfl
  have unmoved : { namePart seen with dropsLine := false } = namePart seen := rfl
  have keepsLine : (namePart seen).dropsLine = false := rfl
  rw [Builder.take]
  simp only [unmoved, keepsLine, Bool.false_and, Bool.false_eq_true, if_false, bound]
  rw [Rules.settle, step]

theorem take_reading (seen : List Char) (c : Char) :
    (reading seen).take (.char c) = reading (c :: seen) :=
  take_done nofun (take_namePart seen c)

theorem feed_escape {text : List Char} (nonzero : '\x00' ∉ text) (seen : List Char) :
    (escape text).foldl Parser.feed (reading seen) = reading (text.reverse ++ seen) := by
  induction text generalizing seen with
  | nil => rfl
  | cons c text ih =>
    obtain ⟨here, later⟩ := List.ne_and_not_mem_of_not_mem_cons nonzero
    have step : (escapeChar c).foldl Parser.feed (reading seen) = reading (c :: seen) :=
      (feed_escapeChar here.symm).trans (take_reading seen c)
    rw [escape, List.flatMap_cons, List.foldl_append, step]
    exact (ih later (c :: seen)).trans (by rw [List.reverse_cons, List.append_assoc]; rfl)

def afterLink (seen : List Char) : Builder :=
  { namePart seen with stack := [4, 3, 1], formatting := [] }

def afterTitle (seen : List Char) : Builder :=
  { afterLink seen with stack := [3, 1] }

theorem end_link (seen : List Char) :
    (namePart seen).take (.endTag "a") = (afterLink seen, .done) := by
  cases seen <;> rfl

theorem end_title (seen : List Char) :
    (afterLink seen).take (.endTag "h1") = (afterTitle seen, .done) := by
  cases seen <;> rfl

theorem end_body (seen : List Char) :
    (afterTitle seen).take (.endTag "body") = ((afterTitle seen).enter .afterBody, .done) := by
  cases seen <;> rfl

theorem end_root (seen : List Char) :
    ((afterTitle seen).enter .afterBody).take (.endTag "html") =
      ((afterTitle seen).enter .afterAfterBody, .done) := by
  cases seen <;> rfl

theorem end_page (seen : List Char) :
    ((afterTitle seen).enter .afterAfterBody).take .endOfPage =
      ((afterTitle seen).enter .afterAfterBody, .done) := by
  cases seen <;> rfl

theorem closing_read (seen : List Char) :
    (closing.toList.foldl Parser.feed (reading seen)).finish = pageTree seen := by
  have tags : closing.toList = endTagText ['a'] ++ endTagText ['h', '1'] ++
    endTagText ['b', 'o', 'd', 'y'] ++ endTagText ['h', 't', 'm', 'l'] := by decide
  rw [tags, List.foldl_append, List.foldl_append, List.foldl_append, reading,
    feed_endTag (by decide) (by decide) (by decide) (end_link seen),
    feed_endTag (by decide) (by decide) (by decide) (end_title seen),
    feed_endTag (by decide) (by decide) (by decide) (end_body seen),
    feed_endTag (by decide) (by decide) (by decide) (end_root seen)]
  exact finish_data (end_page seen)

/-! ### The name -/

theorem parse_profilePage {text : String} (nonzero : '\x00' ∉ text.toList) :
    parse (profilePage text).toList = pageTree (unifyBreaks text.toList).reverse := by
  have nonzeroUnified : '\x00' ∉ unifyBreaks text.toList := fun member =>
    (mem_unifyBreaks member).elim (by decide) nonzero
  have characters : (profilePage text).toList =
      opening.toList ++ (escape text.toList ++ closing.toList) := by
    simp [profilePage]
  have unmarked : dropMark (opening.toList ++ (escape text.toList ++ closing.toList)) =
      opening.toList ++ (escape text.toList ++ closing.toList) := rfl
  have closingUnified : unifyBreaks closing.toList = closing.toList := by decide
  have apart : ∀ tail, closing.toList ≠ '\n' :: tail := by rintro tail ⟨⟩
  rw [parse, characters, unmarked, unifyBreaks_append (by decide), unifyBreaks_escape apart,
    closingUnified, List.foldl_append, List.foldl_append, opening_read,
    feed_escape nonzeroUnified, List.append_nil, closing_read]

theorem nameTexts_pageTree (seen : List Char) :
    nameTexts (pageTree seen) = if seen = [] then [] else [seen.reverse] := by
  cases seen <;> rfl

theorem firstName?_pageTree (text : List Char) :
    firstName? (nameTexts (pageTree text.reverse)) =
      if collapse text = [] then none else some (collapse text) := by
  rw [nameTexts_pageTree, List.reverse_reverse]
  by_cases nothing : text = []
  · rw [nothing]
    rfl
  · rw [if_neg (by simpa using nothing), firstName?_cons]
    rfl

theorem displayName_profilePage {text : String} (nonzero : '\x00' ∉ text.toList) :
    displayName? (profilePage text) =
      if Blank text.toList then none else some (String.ofList (collapse text.toList)) := by
  rw [displayName?, parse_profilePage nonzero, firstName?_pageTree, collapse_unifyBreaks]
  by_cases blank : Blank text.toList
  · rw [if_pos ((collapse_eq_nil_iff _).mpr blank), if_pos blank]
    rfl
  · rw [if_neg (mt (collapse_eq_nil_iff _).mp blank), if_neg blank]
    rfl

/-- **Reading a name off its page undoes the escaping**, and nothing is left of the spacing but one
space between each two words. -/
theorem escaped_name_comes_back (text : String) (nonzero : '\x00' ∉ text.toList) :
    (Blank text.toList → displayName? (profilePage text) = none) ∧
    (¬ Blank text.toList →
      displayName? (profilePage text) = some (String.ofList
        ([' '].intercalate ((text.toList.splitOnP isBlank).filter (· ≠ []))))) ∧
    (text ≠ "" → IsTidy text.toList → displayName? (profilePage text) = some text) := by
  have shown := displayName_profilePage nonzero
  refine ⟨fun blank => ?_, fun something => ?_, fun nonempty tidy => ?_⟩
  · rw [shown, if_pos blank]
  · rw [shown, if_neg something, collapse_eq_intercalate]
  · have something : ¬ Blank text.toList := by
      rw [← collapse_eq_nil_iff, collapse_tidy tidy]
      simpa using nonempty
    rw [shown, if_neg something, collapse_tidy tidy, String.ofList_toList]

theorem markup_in_a_name_comes_back :
    displayName? (profilePage "\r\nTom &amp; <b>Jerry\t</b> &#65; ") =
      some "Tom &amp; <b>Jerry </b> &#65;" ∧
    displayName? (profilePage "</a> & &lt") = some "</a> & &lt" ∧
    displayName? (profilePage " \r") = none := by
  refine ⟨?_, ?_, ?_⟩
  · have spaced := (escaped_name_comes_back "\r\nTom &amp; <b>Jerry\t</b> &#65; " (by decide)).2.1
      (by decide)
    rw [spaced]
    exact congrArg (some ∘ String.ofList) (by decide : _ = "Tom &amp; <b>Jerry </b> &#65;".toList)
  · have tidy : IsTidy "</a> & &lt".toList :=
      ⟨by simp [isBlank], by simp [List.infix_cons_iff], by decide, by decide⟩
    exact (escaped_name_comes_back "</a> & &lt" (by decide)).2.2 (by decide) tidy
  · exact (escaped_name_comes_back " \r" (by decide)).1 (by decide)

end AuthorNames.EscapedName
