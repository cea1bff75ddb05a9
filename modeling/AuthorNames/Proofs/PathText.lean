import AuthorNames.Proofs.ReadPaths
import Mathlib.Data.List.Basic

/-! A path as a text and as a list of segments. Since no segment holds a slash,
the text determines the list, and what is said of the text's end, whether it is
a slash and what stands in front of it, can be said of the last segments. -/
namespace AuthorNames.PathText
open AuthorNames.Url AuthorNames.ReadPaths

/-- Segments as a path writes them, each behind a slash. -/
def written (list : List (List Char)) : List Char :=
  list.flatMap ('/' :: ·)

/-- A path without a slash at its end. -/
def folder (path : List Char) : List Char :=
  if path.getLast? = some '/' then path.dropLast else path

/-- A path without a slash at its end, unless it is nothing but that slash. -/
def lessOneSlash (path : List Char) : List Char :=
  if path = ['/'] then path else folder path

/-- What a segment is put behind: the path without a slash at its end, and
nothing where only a slash is left. -/
def stem (path : List Char) : List Char :=
  if lessOneSlash path = ['/'] then [] else lessOneSlash path

/-- The last segment of a path. -/
def lastSegment (path : List Char) : List Char :=
  (path.reverse.takeWhile (· ≠ '/')).reverse

/-- A path up to its last slash. -/
def parent (path : List Char) : List Char :=
  (path.reverse.dropWhile (· ≠ '/')).reverse

/-- What a URL shows in front of its path. -/
def leading (url : Url) : List Char :=
  url.scheme.toList ++ [':'] ++ ((url.authority.map Authority.text).getD []) ++ url.path.guard

/-- What a URL shows behind its path. -/
def trailing (url : Url) : List Char :=
  behind '?' url.query ++ behind '#' url.fragment

variable {list front first second : List (List Char)} {segment : List Char} {c : Char}

theorem toList_text (url : Url) : url.text.toList = leading url ++ url.path.text ++ trailing url := by
  rw [Url.text, String.toList_ofList, leading, trailing, List.append_assoc _ (behind '?' url.query)]

theorem text_segments (isGuarded : Bool) (list : List (List Char)) :
    (Path.segments isGuarded (list.map String.ofList)).text = written list := by
  rw [Path.text, segmentText, written, List.flatMap_map]
  simp only [String.toList_ofList]

theorem written_concat (front : List (List Char)) (segment : List Char) :
    written (front ++ [segment]) = written front ++ '/' :: segment := by
  simp [written]

theorem written_eq_cons (nonempty : list ≠ []) : ∃ rest, written list = '/' :: rest := by
  obtain ⟨first, rest, rfl⟩ := List.exists_cons_of_ne_nil nonempty
  exact ⟨first ++ written rest, rfl⟩

theorem written_ne_nil (nonempty : list ≠ []) : written list ≠ [] := by
  obtain ⟨rest, whole⟩ := written_eq_cons nonempty
  rw [whole]
  exact List.cons_ne_nil _ _

theorem written_eq_slash_iff : written list = ['/'] ↔ list = [[]] := by
  constructor
  · intro root
    cases list with
    | nil => cases root
    | cons first rest =>
      rw [written, List.flatMap_cons, List.cons_append, List.cons.injEq, List.append_eq_nil_iff] at root
      obtain ⟨-, empty, none⟩ := root
      rw [empty]
      by_contra more
      exact written_ne_nil (fun same => more (by rw [same])) none
  · rintro rfl
    rfl

/-- Nothing in a written path ends it. -/
theorem endsPath_written (inside : Inside list) (member : c ∈ written list) : endsPath c = false := by
  obtain ⟨segment, among, within⟩ := List.mem_flatMap.mp member
  rcases List.mem_cons.mp within with rfl | letter
  · rfl
  · exact (inside segment among c letter).2

/-! The list read off the text. -/

theorem takeWhile_written (slashless : '/' ∉ segment) (list : List (List Char)) :
    (segment ++ written list).takeWhile (· ≠ '/') = segment := by
  rw [List.takeWhile_append_of_pos]
  · cases list with
    | nil => exact List.append_nil _
    | cons next rest => simp [written]
  · intro c member
    exact decide_eq_true fun slash => slashless (slash ▸ member)

theorem dropWhile_written (slashless : '/' ∉ segment) (list : List (List Char)) :
    (segment ++ written list).dropWhile (· ≠ '/') = written list := by
  rw [List.dropWhile_append_of_pos]
  · cases list with
    | nil => rfl
    | cons next rest => simp [written]
  · intro c member
    exact decide_eq_true fun slash => slashless (slash ▸ member)

theorem slash_notMem (inside : Inside list) (member : segment ∈ list) : '/' ∉ segment :=
  fun slash => (inside segment member '/' slash).1 rfl

theorem slash_notMem_last (inside : Inside (front ++ [segment])) : '/' ∉ segment :=
  slash_notMem inside (List.mem_append_right front List.mem_cons_self)

theorem inside_tail {first : List Char} (inside : Inside (first :: list)) : Inside list :=
  throughout_sublist (List.sublist_cons_self _ _) inside

/-- Segments that do not begin as an authority does are not written like one. -/
theorem not_slashes_written (inside : Inside list) (single : ¬ BeginsAsAuthority list) :
    ¬ ['/', '/'] <+: written list := by
  rintro ⟨behind, same⟩
  cases list with
  | nil => cases same
  | cons first rest =>
    have shown : '/' :: behind = first ++ written rest := (List.cons.inj same).2
    cases first with
    | cons c others =>
      have slash : '/' = c := (List.cons.inj shown).1
      exact slash_notMem inside List.mem_cons_self (slash ▸ List.mem_cons_self)
    | nil =>
      cases rest with
      | nil => cases shown
      | cons next later => exact single ⟨by simp, rfl⟩

/-- A path's text determines its segments. -/
theorem written_injective (firstInside : Inside first) (secondInside : Inside second)
    (same : written first = written second) : first = second := by
  induction first generalizing second with
  | nil =>
    by_contra other
    exact written_ne_nil (fun none => other none.symm) same.symm
  | cons head rest ih =>
    cases second with
    | nil => cases same
    | cons other later =>
      have firstSlashless := slash_notMem firstInside List.mem_cons_self
      have secondSlashless := slash_notMem secondInside List.mem_cons_self
      have behind : head ++ written rest = other ++ written later := (List.cons.inj same).2
      have heads := congrArg (List.takeWhile (· ≠ '/')) behind
      have tails := congrArg (List.dropWhile (· ≠ '/')) behind
      rw [takeWhile_written firstSlashless, takeWhile_written secondSlashless] at heads
      rw [dropWhile_written firstSlashless, dropWhile_written secondSlashless] at tails
      rw [heads, ih (inside_tail firstInside) (inside_tail secondInside) tails]

/-! The end of the text. -/

theorem getLast?_written (front : List (List Char)) (segment : List Char) :
    (written (front ++ [segment])).getLast? = some (segment.getLast?.getD '/') := by
  rw [written_concat, List.getLast?_append, List.getLast?_cons]
  rfl

theorem folder_closed (list : List (List Char)) : folder (written (list ++ [[]])) = written list := by
  have ends : (written (list ++ [[]])).getLast? = some '/' := getLast?_written list []
  rw [folder, if_pos ends, written_concat, List.dropLast_concat]

/-- A path ends in a slash exactly if its last segment is empty. -/
theorem getLast?_open (slashless : '/' ∉ segment) (nonempty : segment ≠ []) :
    (written (front ++ [segment])).getLast? ≠ some '/' := by
  intro ends
  rw [getLast?_written, List.getLast?_eq_some_getLast nonempty, Option.getD_some, Option.some.injEq] at ends
  exact slashless (ends ▸ List.getLast_mem nonempty)

theorem getLast?_eq_slash_iff (slashless : '/' ∉ segment) :
    (written (front ++ [segment])).getLast? = some '/' ↔ segment = [] := by
  constructor
  · intro ends
    by_contra nonempty
    exact getLast?_open slashless nonempty ends
  · rintro rfl
    exact getLast?_written front []

theorem folder_open (slashless : '/' ∉ segment) (nonempty : segment ≠ []) :
    folder (written (front ++ [segment])) = written (front ++ [segment]) := by
  rw [folder, if_neg (getLast?_open slashless nonempty)]

theorem dropEmptyBack_closed (more : front ≠ []) : dropEmptyBack (front ++ [[]]) = front := by
  have long : 1 < (front ++ [[]]).length := by
    have length := List.length_pos_iff.mpr more
    rw [List.length_append, List.length_singleton]
    omega
  rw [dropEmptyBack, if_pos ⟨long, List.getLast?_concat⟩, List.dropLast_concat]

theorem dropEmptyBack_open (nonempty : segment ≠ []) : dropEmptyBack (front ++ [segment]) = front ++ [segment] := by
  rw [dropEmptyBack, if_neg]
  rintro ⟨-, empty⟩
  rw [List.getLast?_concat, Option.some.injEq] at empty
  exact nonempty empty

/-- The three ways in which a path can end: it is the root, it ends in a slash
behind other segments, or it does not end in a slash. -/
theorem ending_cases (nonempty : list ≠ []) :
    list = [[]] ∨ (∃ front, front ≠ [] ∧ list = front ++ [[]]) ∨
      ∃ front last, last ≠ [] ∧ list = front ++ [last] := by
  obtain none | ⟨front, last, rfl⟩ := List.eq_nil_or_concat' list
  · exact absurd none nonempty
  · by_cases empty : last = []
    · subst empty
      by_cases root : front = []
      · subst root
        exact .inl rfl
      · exact .inr (.inl ⟨front, root, rfl⟩)
    · exact .inr (.inr ⟨front, last, empty, rfl⟩)

/-- The list without an empty last segment is the text without a slash at its end. -/
theorem lessOneSlash_written (inside : Inside list) (nonempty : list ≠ []) :
    lessOneSlash (written list) = written (dropEmptyBack list) := by
  rw [lessOneSlash]
  obtain rfl | ⟨front, more, rfl⟩ | ⟨front, last, unended, rfl⟩ := ending_cases nonempty
  · rfl
  · have other : written (front ++ [[]]) ≠ ['/'] := by
      rw [ne_eq, written_eq_slash_iff]
      intro root
      have none : front ++ [[]] = [] ++ [[]] := root
      exact more (List.append_cancel_right none)
    rw [if_neg other, folder_closed, dropEmptyBack_closed more]
  · have other : written (front ++ [last]) ≠ ['/'] := by
      rw [ne_eq, written_eq_slash_iff]
      intro root
      have ends : some last = some [] := by rw [← List.getLast?_concat (l := front), root]; rfl
      exact unended (Option.some.inj ends)
    have slashless := slash_notMem_last inside
    rw [if_neg other, folder_open slashless unended, dropEmptyBack_open unended]

theorem stem_written (inside : Inside list) (nonempty : list ≠ []) :
    stem (written list) = written (base (dropEmptyBack list)) := by
  rw [stem, lessOneSlash_written inside nonempty, base]
  simp only [written_eq_slash_iff]
  split <;> rfl

/-- The last slash of a path is the one in front of its last segment. -/
private theorem reverse_written (slashless : '/' ∉ segment) (front : List (List Char)) :
    (written (front ++ [segment])).reverse = segment.reverse ++ '/' :: (written front).reverse ∧
      ∀ c ∈ segment.reverse, decide (c ≠ '/') = true := by
  constructor
  · rw [written_concat, List.reverse_append, List.reverse_cons, List.append_assoc]
    rfl
  · intro c member
    exact decide_eq_true fun slash => slashless (slash ▸ List.mem_reverse.mp member)

theorem lastSegment_written (slashless : '/' ∉ segment) : lastSegment (written (front ++ [segment])) = segment := by
  obtain ⟨backwards, letters⟩ := reverse_written slashless front
  rw [lastSegment, backwards, List.takeWhile_append_of_pos letters]
  simp

theorem parent_written (slashless : '/' ∉ segment) :
    parent (written (front ++ [segment])) = written front ++ ['/'] := by
  obtain ⟨backwards, letters⟩ := reverse_written slashless front
  rw [parent, backwards, List.dropWhile_append_of_pos letters]
  simp

end AuthorNames.PathText
