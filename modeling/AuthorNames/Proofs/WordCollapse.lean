import AuthorNames.Profile.DisplayName

/-! A collapsed text holds no blank but the space, whatever the text was, so
neither does any display name. Its words are the pieces between the blanks, and
a text that has single spaces only is left as it is. -/
namespace AuthorNames.WordCollapse
open AuthorNames.Text

/-- A text of blanks, or an empty one. -/
def Blank (text : List Char) : Prop :=
  ∀ c ∈ text, isBlank c = true

instance (text : List Char) : Decidable (Blank text) :=
  decidable_of_iff (text.all isBlank = true) List.all_eq_true

/-- A word is not empty and holds no blank. -/
def IsWord (word : List Char) : Prop :=
  word ≠ [] ∧ ∀ c ∈ word, isBlank c = false

/-- The unfinished word holds no blank, and those behind it are words. -/
private theorem splitWord_words (text : List Char) :
    (∀ c ∈ (splitWord text).1, isBlank c = false) ∧ ∀ word ∈ (splitWord text).2, IsWord word := by
  induction text with
  | nil => simp [splitWord]
  | cons c rest ih =>
    obtain ⟨unfinished, finished⟩ := ih
    rw [splitWord]
    dsimp only
    split
    · refine ⟨by simp, fun word member => ?_⟩
      rw [consWord] at member
      split at member
      · exact finished word member
      · rename_i nonempty
        rcases List.mem_cons.mp member with rfl | member
        · exact ⟨by simpa using nonempty, unfinished⟩
        · exact finished word member
    · rename_i letter
      refine ⟨fun d member => ?_, finished⟩
      rcases List.mem_cons.mp member with rfl | member
      · simpa using letter
      · exact unfinished d member

theorem isWord_of_mem_words {text word : List Char} (member : word ∈ words text) : IsWord word := by
  obtain ⟨unfinished, finished⟩ := splitWord_words text
  rw [words, consWord] at member
  split at member
  · exact finished word member
  · rename_i nonempty
    rcases List.mem_cons.mp member with rfl | member
    · exact ⟨by simpa using nonempty, unfinished⟩
    · exact finished word member

theorem mem_unwords {list : List (List Char)} {c : Char} (member : c ∈ unwords list) :
    c = ' ' ∨ ∃ word ∈ list, c ∈ word := by
  induction list with
  | nil => cases member
  | cons word rest ih =>
    cases rest with
    | nil => exact .inr ⟨word, List.mem_cons_self, member⟩
    | cons next rest =>
      rw [unwords, List.mem_append, List.mem_cons] at member
      · rcases member with inside | space | later
        · exact .inr ⟨word, List.mem_cons_self, inside⟩
        · exact .inl space
        · rcases ih later with space | ⟨other, among, inside⟩
          · exact .inl space
          · exact .inr ⟨other, List.mem_cons_of_mem _ among, inside⟩
      · simp

/-- The only blank of a collapsed text is the space. -/
theorem blank_of_mem_collapse {text : List Char} {c : Char} (member : c ∈ collapse text)
    (blank : isBlank c = true) : c = ' ' := by
  rcases mem_unwords member with space | ⟨word, among, inside⟩
  · exact space
  · rw [(isWord_of_mem_words among).2 c inside] at blank
    cases blank

/-! ### Words as the pieces between blanks -/

theorem consWord_filter (word : List Char) (rest : List (List Char)) :
    consWord word (rest.filter (· ≠ [])) = (word :: rest).filter (· ≠ []) := by
  cases word <;> rfl

theorem splitWord_eq_splitOnP (text : List Char) :
    ∃ first rest, text.splitOnP isBlank = first :: rest ∧
      splitWord text = (first, rest.filter (· ≠ [])) := by
  induction text with
  | nil => exact ⟨[], [], List.splitOnP_nil, rfl⟩
  | cons c text ih =>
    obtain ⟨first, rest, pieces, split⟩ := ih
    rw [splitWord, split, List.splitOnP_cons_eq_if_modifyHead, pieces]
    by_cases blank : isBlank c = true
    · refine ⟨[], first :: rest, if_pos blank, ?_⟩
      simp only [blank, if_true, consWord_filter]
    · exact ⟨c :: first, rest, if_neg blank, if_neg blank⟩

theorem words_eq_splitOnP (text : List Char) :
    words text = (text.splitOnP isBlank).filter (· ≠ []) := by
  obtain ⟨first, rest, pieces, split⟩ := splitWord_eq_splitOnP text
  rw [words, split, pieces, consWord_filter]

theorem unwords_eq_intercalate (list : List (List Char)) :
    unwords list = [' '].intercalate list := by
  fun_induction unwords list with
  | case1 => rfl
  | case2 word => exact (List.append_nil word).symm
  | case3 word rest notEmpty ih =>
    cases rest with
    | nil => cases notEmpty rfl
    | cons next rest => rw [ih]; rfl

theorem collapse_eq_intercalate (text : List Char) :
    collapse text = [' '].intercalate ((text.splitOnP isBlank).filter (· ≠ [])) := by
  rw [collapse, unwords_eq_intercalate, words_eq_splitOnP]

theorem consWord_eq_nil_iff {word : List Char} {rest : List (List Char)} :
    consWord word rest = [] ↔ word = [] ∧ rest = [] := by
  cases word <;> simp [consWord]

theorem words_eq_nil_iff (text : List Char) : words text = [] ↔ Blank text := by
  rw [words, consWord_eq_nil_iff, Blank]
  induction text with
  | nil => simp [splitWord]
  | cons c rest ih =>
    rw [splitWord, List.forall_mem_cons, ← ih]
    by_cases blank : isBlank c = true
    · simp only [blank, if_true, consWord_eq_nil_iff, true_and]
    · simp [blank]

theorem unwords_eq_nil_iff {list : List (List Char)} (nonempty : ∀ word ∈ list, word ≠ []) :
    unwords list = [] ↔ list = [] := by
  fun_cases unwords list with
  | case1 => simp
  | case2 word => simpa using nonempty word List.mem_cons_self
  | case3 => simp

/-- Nothing is left of a text only if there is nothing but blanks in it. -/
theorem collapse_eq_nil_iff (text : List Char) : collapse text = [] ↔ Blank text := by
  rw [collapse, unwords_eq_nil_iff fun _ member => (isWord_of_mem_words member).1, words_eq_nil_iff]

/-! ### Texts that are left as they are -/

/-- A text with no other blanks than single spaces, and none at its ends. -/
structure IsTidy (text : List Char) : Prop where
  spaces : ∀ c ∈ text, isBlank c = true → c = ' '
  single : ¬ [' ', ' '] <:+: text
  first : text.head? ≠ some ' '
  last : text.getLast? ≠ some ' '

theorem splitWord_nonempty {c : Char} {rest : List Char} (letter : isBlank c = false) :
    (splitWord (c :: rest)).1 ≠ [] := by
  simp [splitWord, letter]

theorem unwords_letter (c : Char) (word : List Char) (rest : List (List Char)) :
    unwords ((c :: word) :: rest) = c :: unwords (word :: rest) := by
  cases rest <;> rfl

/-- Here the text may begin with a space, in front of which stands the empty word. -/
theorem unwords_splitWord {text : List Char} (spaces : ∀ c ∈ text, isBlank c = true → c = ' ')
    (single : ¬ [' ', ' '] <:+: text) (last : text.getLast? ≠ some ' ') :
    unwords ((splitWord text).1 :: (splitWord text).2) = text := by
  induction text with
  | nil => rfl
  | cons c rest ih =>
    have spacesIn : ∀ d ∈ rest, isBlank d = true → d = ' ' :=
      fun d later => spaces d (List.mem_cons_of_mem _ later)
    have singleIn : ¬ [' ', ' '] <:+: rest :=
      fun twice => single (twice.trans (List.suffix_cons c rest).isInfix)
    by_cases blank : isBlank c = true
    · obtain rfl := spaces c List.mem_cons_self blank
      cases rest with
      | nil => cases last rfl
      | cons d rest =>
        have letter : isBlank d = false := by
          rw [← Bool.not_eq_true]
          intro blank
          obtain rfl := spaces d (List.mem_cons_of_mem _ List.mem_cons_self) blank
          exact single ⟨[], rest, rfl⟩
        have again := ih spacesIn singleIn (by simpa using last)
        rw [splitWord]
        simp only [blank, if_true, consWord, List.isEmpty_iff, splitWord_nonempty letter, if_false]
        exact congrArg (' ' :: ·) again
    · have lastIn : rest.getLast? ≠ some ' ' := by
        cases rest <;> simp_all
      rw [splitWord]
      simp only [blank, Bool.false_eq_true, if_false, unwords_letter, ih spacesIn singleIn lastIn]

theorem collapse_tidy {text : List Char} (tidy : IsTidy text) : collapse text = text := by
  cases text with
  | nil => rfl
  | cons c rest =>
    have letter : isBlank c = false := by
      rw [← Bool.not_eq_true]
      intro blank
      obtain rfl := tidy.spaces c List.mem_cons_self blank
      exact tidy.first rfl
    rw [collapse, words, consWord, if_neg (by simpa using splitWord_nonempty letter)]
    exact unwords_splitWord tidy.spaces tidy.single tidy.last

theorem firstName?_cons (text : List Char) (texts : List (List Char)) :
    Profile.firstName? (text :: texts) =
      if collapse text = [] then Profile.firstName? texts else some (collapse text) := by
  rw [Profile.firstName?, List.map_cons, List.find?_cons]
  by_cases blank : collapse text = []
  · simp only [blank, ne_eq, not_true, decide_false, if_true]
    rfl
  · simp only [blank, ne_eq, not_false_iff, decide_true, if_false]

/-- A display name is a collapsed text of its page. -/
theorem displayName_is_collapsed {page name : String} (shown : Profile.displayName? page = some name) :
    ∃ text, name.toList = collapse text ∧ name.toList ≠ [] := by
  obtain ⟨found, first, rfl⟩ := Option.map_eq_some_iff.mp shown
  have member := List.mem_of_find?_eq_some first
  obtain ⟨text, -, rfl⟩ := List.mem_map.mp member
  have nonempty := List.find?_some first
  exact ⟨text, String.toList_ofList, by simpa using nonempty⟩

end AuthorNames.WordCollapse
