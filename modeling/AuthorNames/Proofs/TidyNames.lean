import AuthorNames.Proofs.LinePerRecord
import AuthorNames.Proofs.NameOrder
import Mathlib.Data.List.Chain

/-! A display name keeps the words of one text of its page and none of the
spacing between them. Words that are joined come apart again as they were, so a
name stays as it is when it is collapsed once more. -/
namespace AuthorNames.TidyNames
open AuthorNames.Html AuthorNames.Profile AuthorNames.Text AuthorNames.WordCollapse AuthorNames.NameOrder
open AuthorNames.LinePerRecord (page_of_fetched)
open AuthorNames.RunReference (localContext)

variable {word text : List Char} {list : List (List Char)}

/-! ### Joined words -/

/-- What holds no blank goes to the word behind it. -/
theorem splitWord_append (unbroken : ∀ c ∈ word, isBlank c = false) (rest : List Char) :
    splitWord (word ++ rest) = (word ++ (splitWord rest).1, (splitWord rest).2) := by
  induction word with
  | nil => rfl
  | cons c word ih =>
    obtain ⟨letter, unbroken⟩ := List.forall_mem_cons.mp unbroken
    rw [List.cons_append, splitWord, ih unbroken, letter]
    rfl

/-- A space ends a word. -/
theorem splitWord_space (rest : List Char) : splitWord (' ' :: rest) = ([], words rest) := rfl

/-- Words that are joined come apart as they were. -/
theorem words_unwords (formed : ∀ word ∈ list, IsWord word) : words (unwords list) = list := by
  fun_induction unwords list with
  | case1 => rfl
  | case2 word =>
    obtain ⟨nonempty, unbroken⟩ := formed word List.mem_cons_self
    have whole : splitWord word = (word, []) := by simpa [splitWord] using splitWord_append unbroken []
    rw [words, whole, consWord, if_neg (by simpa using nonempty)]
  | case3 word rest _ ih =>
    obtain ⟨⟨nonempty, unbroken⟩, others⟩ := List.forall_mem_cons.mp formed
    have front : splitWord (word ++ ' ' :: unwords rest) = (word, rest) := by
      rw [splitWord_append unbroken, splitWord_space, List.append_nil, ih others]
    rw [words, front, consWord, if_neg (by simpa using nonempty)]

/-- Neither word nor spacing is lost or made when a text is collapsed once more. -/
theorem words_collapse (text : List Char) : words (collapse text) = words text :=
  words_unwords fun _ member => isWord_of_mem_words member

theorem collapse_collapse (text : List Char) : collapse (collapse text) = collapse text := by
  rw [collapse, words_collapse, ← collapse]

/-! ### Their spacing -/

theorem space_notMem (formed : IsWord word) : ' ' ∉ word :=
  fun inside => absurd (formed.2 ' ' inside) (by decide)

/-- Joined words begin as the first of them does. -/
theorem head?_unwords (formed : ∀ word ∈ list, IsWord word) : (unwords list).head? ≠ some ' ' := by
  have begins (word rest : List Char) (isWord : IsWord word) : (word ++ rest).head? ≠ some ' ' := by
    rw [List.head?_append_of_ne_nil _ isWord.1]
    exact fun space => space_notMem isWord (List.mem_of_head? space)
  fun_cases unwords list with
  | case1 => simp
  | case2 word =>
    rw [← List.append_nil word]
    exact begins word [] (formed word List.mem_cons_self)
  | case3 word => exact begins word _ (formed word List.mem_cons_self)

/-- Joined words end as the last of them does. -/
theorem getLast?_unwords (formed : ∀ word ∈ list, IsWord word) : (unwords list).getLast? ≠ some ' ' := by
  fun_induction unwords list with
  | case1 => simp
  | case2 word => exact fun space => space_notMem (formed word List.mem_cons_self) (List.mem_of_getLast? space)
  | case3 word rest more ih =>
    have others := (List.forall_mem_cons.mp formed).2
    have something : unwords rest ≠ [] := by
      rw [ne_eq, unwords_eq_nil_iff fun word member => (others word member).1]
      exact fun single => more single
    rw [List.getLast?_append_of_ne_nil _ (List.cons_ne_nil _ _), List.getLast?_cons_of_ne_nil something]
    exact ih others

/-- No two neighbours are spaces both. -/
def IsSpaced (text : List Char) : Prop :=
  text.IsChain fun c d => ¬ (c = ' ' ∧ d = ' ')

theorem isSpaced_word (formed : IsWord word) : IsSpaced word := by
  refine List.isChain_iff_forall_rel_of_append_cons_cons.mpr ?_
  rintro c d front back rfl ⟨rfl, -⟩
  exact space_notMem formed (by simp)

theorem isSpaced_unwords (formed : ∀ word ∈ list, IsWord word) : IsSpaced (unwords list) := by
  fun_induction unwords list with
  | case1 => exact .nil
  | case2 word => exact isSpaced_word (formed word List.mem_cons_self)
  | case3 word rest _ ih =>
    obtain ⟨first, others⟩ := List.forall_mem_cons.mp formed
    refine List.isChain_append.mpr ⟨isSpaced_word first, List.isChain_cons.mpr ⟨?_, ih others⟩, ?_⟩
    · rintro d behind ⟨-, rfl⟩
      exact head?_unwords others behind
    · rintro c ending d - ⟨rfl, -⟩
      exact space_notMem first (List.mem_of_getLast? ending)

theorem isTidy_collapse (text : List Char) : IsTidy (collapse text) := by
  have formed (word) (member : word ∈ words text) : IsWord word := isWord_of_mem_words member
  refine ⟨fun _ => blank_of_mem_collapse, fun twice => ?_, head?_unwords formed, getLast?_unwords formed⟩
  obtain ⟨front, back, same⟩ := twice
  rw [List.append_assoc] at same
  exact List.isChain_iff_forall_rel_of_append_cons_cons.mp (isSpaced_unwords formed) same.symm ⟨rfl, rfl⟩

/-! ### Names -/

/-- A name as it is found on a page: with single spaces only, and with the words of one of the texts in
the page's links. -/
structure KeepsWords (page name : String) : Prop where
  nonempty : name.toList ≠ []
  tidy : IsTidy name.toList
  collapsed : collapse name.toList = name.toList
  pieces : ∃ link child text, IsMatch (parse page.toList) link ∧ child ∈ (parse page.toList).childrenOf link ∧
    (parse page.toList).text? child = some text ∧
    (name.toList.splitOnP isBlank).filter (· ≠ []) = (text.splitOnP isBlank).filter (· ≠ [])

theorem keepsWords_of_displayName {page name : String} (shown : displayName? page = some name) :
    KeepsWords page name := by
  obtain ⟨⟨i, j⟩, text, ⟨link, child, -, linked, inside, found⟩, named, nonempty, -⟩ :=
    firstName?_eq_some_iff.mp (displayName?_eq_some_iff.mp shown)
  rw [← collapse_eq_intercalate] at named
  refine ⟨nonempty, named ▸ isTidy_collapse text, by rw [named, collapse_collapse],
    link, child, text, linked, List.mem_of_getElem? inside, found, ?_⟩
  rw [← words_eq_splitOnP, ← words_eq_splitOnP, named, words_collapse]

/-- **Names are tidy and keep every word.** Whatever a page holds, a name found on it has single spaces
between its words and no other blanks, and its words are those of one text of the page. So it is with
every name that is fetched, whatever the reply and its charset. -/
theorem names_keep_every_word :
    (∀ page name, displayName? page = some name → KeepsWords page name) ∧
      ∀ (ctx : Context) web identifier name, (ctx.lookup web identifier).result = .ok (.fetched name) →
        ∃ page, (ctx.page web identifier).result = .ok page ∧ KeepsWords (String.ofList page) name := by
  refine ⟨fun page name shown => keepsWords_of_displayName shown, fun ctx web identifier name fetched => ?_⟩
  obtain ⟨page, found, shown⟩ := page_of_fetched fetched
  exact ⟨page, found, keepsWords_of_displayName shown⟩

/-- A name behind a line separator, with a tab and a no-break space inside. -/
def spacedPage : String :=
  "<h1 class=project_title><a class=project_link>\u2028Ann\t&#160;Lée"

theorem spaced_name_keeps_every_word :
    displayName? spacedPage = some "Ann Lée" ∧ KeepsWords spacedPage "Ann Lée" ∧
      let web : Web := ⟨true, [("http://localhost/users/x",
        .page ⟨200, "OK", none, none, Utf8.bytesOf spacedPage, 0⟩)]⟩
      (localContext.lookup web "x").result = .ok (.fetched "Ann Lée") ∧
        ∃ page, (localContext.page web "x").result = .ok page ∧ KeepsWords (String.ofList page) "Ann Lée" := by
  have shown : displayName? spacedPage = some "Ann Lée" := displayName?_eq_some_iff.mpr (by decide +kernel)
  refine ⟨shown, names_keep_every_word.1 _ _ shown, ?_⟩
  intro web
  have fetched : (localContext.lookup web "x").result = .ok (.fetched "Ann Lée") := by
    decide +kernel
  exact ⟨fetched, names_keep_every_word.2 _ _ _ _ fetched⟩

end AuthorNames.TidyNames
