import AuthorNames.Proofs.AddedSegment
import AuthorNames.Proofs.LineSegments
import AuthorNames.Settings.Basic

/-! Which identifiers share a page. Those without tabs and line breaks that are
no dots have a page each. All others share the page of what is left of them when
the breaks are dropped, dots share the base itself, and there are bases that do
not keep the place above them, or their own, apart from the page of the empty
name. -/
namespace AuthorNames.SharedPages
open AuthorNames.Url AuthorNames.ReadPaths AuthorNames.PercentEscapes AuthorNames.PathText
open AuthorNames.AcceptedSettings AuthorNames.AddedSegment AuthorNames.LineSegments
open AuthorNames.Text.Utf8 (bytesOf)

/-- No break is dropped from the identifier, and it is no dots. -/
def IsPlain (identifier : String) : Prop :=
  (∀ c ∈ identifier.toList, isBreak c = false) ∧ identifier ≠ "." ∧ identifier ≠ ".."

/-- The places that a base with that path does not keep apart. The page of the
empty name is the root itself where the base is, and what is above a drive is the
drive; and where a base ends in two slashes, leaving the last one out and going
up from it are the same. -/
def Meet (path : List Char) : Place → Place → Prop
  | .base, .above => (lessOneSlash path).getLast? = some '/'
  | .base, .page name => name = [] ∧ stem path = []
  | .above, .page name => name = [] ∧ (stem path = [] ∨ isDriveLike (lastSegment (stem path)) = true)
  | _, _ => False

variable {list front : List (List Char)} {last : List Char} {first second : String} {base : Url}

theorem encode_eq_nil_iff {name : List Char} : Percent.encode segmentEscapes name = [] ↔ name = [] := by
  constructor
  · intro none
    have nil : Percent.encode segmentEscapes [] = [] := rfl
    exact encode_injective rfl (none.trans nil.symm)
  · rintro rfl
    rfl

theorem leave_concat (front : List (List Char)) (last : List Char) :
    leave (front ++ [last]) = if isDriveLike last then front ++ [last] else front := by
  rw [leave, List.getLast?_concat]
  simp only [List.dropLast_concat]

/-- The list of a path, less an empty last segment, is the root or what another
segment is put behind. -/
theorem base_cases (list : List (List Char)) (nonempty : list ≠ []) :
    (list = [[]] ∧ Url.base list = []) ∨ ∃ front last, list = front ++ [last] ∧ Url.base list = front ++ [last] := by
  by_cases root : list = [[]]
  · exact .inl ⟨root, by rw [Url.base, if_pos root]⟩
  · have kept : Url.base list = list := by rw [Url.base, if_neg root]
    obtain none | ⟨front, last, whole⟩ := List.eq_nil_or_concat' list
    · exact absurd none nonempty
    · exact .inr ⟨front, last, whole, kept.trans whole⟩

/-- Going up from a base is staying there only behind an empty segment. -/
theorem eq_above_iff (inside : Inside list) (nonempty : list ≠ []) :
    list = leave (Url.base list) ++ [[]] ↔ (written list).getLast? = some '/' := by
  rcases base_cases list nonempty with ⟨rfl, root⟩ | ⟨front, last, rfl, kept⟩
  · rw [root]
    exact ⟨fun _ => rfl, fun _ => rfl⟩
  · have slashless := slash_notMem_last inside
    rw [kept, getLast?_eq_slash_iff slashless, leave_concat]
    constructor
    · intro same
      split at same
      · simp at same
      · exact (List.cons.inj (List.append_inj' same rfl).2).1
    · rintro rfl
      rfl

/-- The base itself is a page below it only if both are the root. -/
theorem eq_page_iff (nonempty : list ≠ []) (segment : List Char) :
    list = Url.base list ++ [segment] ↔ segment = [] ∧ written (Url.base list) = [] := by
  rcases base_cases list nonempty with ⟨rfl, root⟩ | ⟨front, last, rfl, kept⟩
  · rw [root]
    simp [written, eq_comm]
  · rw [kept]
    constructor
    · intro same
      simp at same
    · rintro ⟨-, none⟩
      exact absurd none (written_ne_nil (by simp))

/-- The place above is a page below only at the root and behind a drive. -/
theorem above_eq_page_iff (inside : Inside list) (segment : List Char) :
    leave list ++ [[]] = list ++ [segment] ↔
      segment = [] ∧ (written list = [] ∨ isDriveLike (lastSegment (written list)) = true) := by
  rcases List.eq_nil_or_concat' list with rfl | ⟨front, last, rfl⟩
  · simp [leave, written]
  · have slashless := slash_notMem_last inside
    have rooted : written (front ++ [last]) ≠ [] := written_ne_nil (by simp)
    rw [leave_concat, lastSegment_written slashless]
    split
    · rename_i drive
      simp [drive]
    · rename_i other
      simp [other, rooted]

/-- Two places have the same segments if they are the same or if the base does
not keep them apart. -/
theorem landing_eq_iff (inside : Inside list) (nonempty : list ≠ []) (place other : Place) :
    landing list place = landing list other ↔
      place = other ∨ Meet (written list) place other ∨ Meet (written list) other place := by
  have back := throughout_sublist (dropEmptyBack_sublist list) inside
  have rest := dropEmptyBack_ne_nil nonempty
  have above := eq_above_iff back rest
  have page (name : List Char) := eq_page_iff rest (Percent.encode segmentEscapes name)
  have both (name : List Char) := above_eq_page_iff (throughout_sublist (base_sublist _) back)
    (Percent.encode segmentEscapes name)
  simp only [encode_eq_nil_iff] at page both
  rw [← lessOneSlash_written inside nonempty] at above
  simp only [← stem_written inside nonempty] at page both
  cases place with
  | base =>
    cases other with
    | base => simp
    | above => simpa [landing, Meet] using above
    | page name => simpa [landing, Meet] using page name
  | above =>
    cases other with
    | base =>
      rw [eq_comm]
      simpa [landing, Meet] using above
    | above => simp
    | page name => simpa [landing, Meet] using both name
  | page name =>
    cases other with
    | base =>
      rw [eq_comm]
      simpa [landing, Meet] using page name
    | above =>
      rw [eq_comm]
      simpa [landing, Meet] using both name
    | page other =>
      have apart : Percent.encode segmentEscapes name = Percent.encode segmentEscapes other ↔ name = other :=
        ⟨encode_injective rfl, congrArg _⟩
      simpa [landing, Meet] using apart

/-- The URLs of two identifiers differ in nothing but their paths, so they are
written alike only if their segments are the same. -/
theorem text_eq_iff (inside : Inside list) (path : base.path = .segments false (list.map String.ofList))
    (web : base.kind = .web) {firstUrl secondUrl : Url} (firstAdded : base.withSegment? first = some firstUrl)
    (secondAdded : base.withSegment? second = some secondUrl) :
    firstUrl.text = secondUrl.text ↔ landing list (placeOf first) = landing list (placeOf second) := by
  rw [withSegment?_web web path, Option.some.injEq] at firstAdded secondAdded
  subst firstAdded secondAdded
  constructor
  · intro same
    have shown := congrArg String.toList same
    rw [toList_text, toList_text, text_segments, text_segments] at shown
    have behind := List.append_cancel_right shown
    have paths := List.append_cancel_left behind
    exact written_injective (inside_landing inside first) (inside_landing inside second) paths
  · intro same
    rw [same]

/-- **Which identifiers share a page.** Two identifiers have the same URL exactly
if they ask for the same place, or for two that the base does not keep apart. Of
those that are no dots and from which no break is dropped, each has a URL of its
own. -/
theorem pages_shared_iff (settings : Settings) (base : Url) (accepted : settings.base = .ok base)
    (web : base.scheme = "http" ∨ base.scheme = "https") (first second : String) :
    ∃ firstUrl secondUrl, base.withSegment? first = some firstUrl ∧ base.withSegment? second = some secondUrl ∧
      (firstUrl.text = secondUrl.text ↔
        placeOf first = placeOf second ∨ Meet base.path.text (placeOf first) (placeOf second) ∨
          Meet base.path.text (placeOf second) (placeOf first)) ∧
      (IsPlain first → IsPlain second → (firstUrl.text = secondUrl.text ↔ first = second)) := by
  have kind := kind_of_scheme web
  obtain ⟨list, path, inside, nonempty, -⟩ := segments_of_web (wellFormed_of_accepted accepted) kind
  have firstAdded := withSegment?_web kind path first
  have secondAdded := withSegment?_web kind path second
  have same := text_eq_iff inside path kind firstAdded secondAdded
  refine ⟨_, _, firstAdded, secondAdded, ?_, ?_⟩
  · rw [same, path, text_segments]
    exact landing_eq_iff inside nonempty _ _
  · rintro ⟨firstUnbroken, firstOne, firstTwo⟩ ⟨secondUnbroken, secondOne, secondTwo⟩
    rw [same, placeOf_plain firstUnbroken firstOne firstTwo, placeOf_plain secondUnbroken secondOne secondTwo,
      landing_eq_iff inside nonempty]
    simp [Meet, String.toList_inj]

/-- A base of the web on this machine. -/
def localSettings : Settings :=
  { Settings.empty with baseUrl := some "http://[::1]/users/" }

/-- The base URL of those settings. -/
def localBase : Url :=
  ⟨"http", some ⟨"", "", .ipv6 [0, 0, 0, 0, 0, 0, 0, 1], none⟩, .segments false ["users", ""], none, none⟩

/-- Escapes in an identifier do not make it another's. -/
theorem pages_not_shared_by_escapes :
    localSettings.base = .ok localBase ∧ IsPlain "a b" ∧ IsPlain "a%20b" ∧
      ∃ firstUrl secondUrl, localBase.withSegment? "a b" = some firstUrl ∧
        localBase.withSegment? "a%20b" = some secondUrl ∧ firstUrl.text ≠ secondUrl.text := by
  have accepted : localSettings.base = .ok localBase := by decide +kernel
  have first : IsPlain "a b" := ⟨by simp [isBreak], by decide, by decide⟩
  have second : IsPlain "a%20b" := ⟨by simp [isBreak], by decide, by decide⟩
  obtain ⟨firstUrl, secondUrl, firstAdded, secondAdded, -, apart⟩ :=
    pages_shared_iff localSettings localBase accepted (.inl rfl) "a b" "a%20b"
  refine ⟨accepted, first, second, firstUrl, secondUrl, firstAdded, secondAdded, ?_⟩
  rw [ne_eq, apart first second]
  decide

/-- A tab inside an identifier is dropped, and a dot and two dots both lead to
the base: so identifiers of one input can share a page. -/
theorem broken_identifier_shares_page :
    identifiers (bytesOf "a\tb\nab\n.\n..\n") = ["a\tb", "ab", ".", ".."] ∧
      localBase.withSegment? "a\tb" = localBase.withSegment? "ab" ∧
      localBase.withSegment? "." = localBase.withSegment? ".." ∧
      ¬ ∀ (settings : Settings) (base firstUrl secondUrl : Url) (first second : String),
        settings.base = .ok base → base.scheme = "http" ∨ base.scheme = "https" →
        Text.trim first = first → Text.trim second = second → '\n' ∉ first.toList → '\n' ∉ second.toList →
        first ≠ second → base.withSegment? first = some firstUrl → base.withSegment? second = some secondUrl →
        firstUrl.text ≠ secondUrl.text := by
  have accepted : localSettings.base = .ok localBase := by decide +kernel
  have dropped : localBase.withSegment? "a\tb" = localBase.withSegment? "ab" := by decide +kernel
  refine ⟨by decide +kernel, dropped, by decide +kernel, fun apart => ?_⟩
  obtain ⟨url, added⟩ : ∃ url, localBase.withSegment? "ab" = some url := ⟨_, rfl⟩
  exact apart localSettings localBase url url "a\tb" "ab" accepted (.inl rfl) (by decide +kernel)
    (by decide +kernel) (by decide) (by decide) (by decide) (dropped.trans added) added rfl

end AuthorNames.SharedPages
