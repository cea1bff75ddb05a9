import AuthorNames.Proofs.SharedPages

/-! Which identifiers stay below their base. A page of its own is always there,
but a dot and two dots are the base without its slash, and two dots with a break
between them go up from it. Only the root, which has nothing above it, and a
drive, which is never left, keep those too; and a base of two slashes keeps
nothing, for it loses both. -/
namespace AuthorNames.BelowBase
open AuthorNames.Url AuthorNames.ReadPaths AuthorNames.PathText AuthorNames.AddedSegment
open AuthorNames.SharedPages AuthorNames.LineSegments
open AuthorNames.Text.Utf8 (bytesOf)

/-- Whether a place is below a base with that path, which is not the root. -/
def IsBelow (path : List Char) : Place → Prop
  | .base => False
  | .above => isDriveLike (lastSegment (stem path)) = true
  | .page _ => True

variable {list : List (List Char)}

/-- The path of a base is the root, two slashes, or other segments, of which those
that another is put behind are written without the slash at the end. -/
theorem folder_cases (inside : Inside list) (nonempty : list ≠ []) :
    list = [[]] ∨ list = [[], []] ∨
      (folder (written list) = written (dropEmptyBack list) ∧ dropEmptyBack list ≠ [[]] ∧
        written list ≠ ['/'] ∧ written list ≠ ['/', '/']) := by
  obtain rfl | ⟨front, more, rfl⟩ | ⟨front, last, unclosed, rfl⟩ := ending_cases nonempty
  · exact .inl rfl
  · by_cases root : front = [[]]
    · subst root
      exact .inr (.inl rfl)
    · rw [dropEmptyBack_closed more]
      refine .inr (.inr ⟨folder_closed front, root, ?_, ?_⟩)
      · rw [ne_eq, written_eq_slash_iff]
        intro slash
        have none : front ++ [[]] = [] ++ [[]] := slash
        exact more (List.append_cancel_right none)
      · intro slashes
        have twice : front ++ [[]] = [[]] ++ [[]] :=
          written_injective inside (throughout_append throughout_empty throughout_empty) slashes
        exact root (List.append_cancel_right twice)
  · have slashless := slash_notMem_last inside
    have ends : (written (front ++ [last])).getLast? ≠ some '/' := getLast?_open slashless unclosed
    rw [dropEmptyBack_open unclosed]
    refine .inr (.inr ⟨folder_open slashless unclosed, ?_, ?_, ?_⟩)
    · intro root
      rw [root] at ends
      exact ends rfl
    · intro slash
      rw [slash] at ends
      exact ends rfl
    · intro slashes
      rw [slashes] at ends
      exact ends rfl

/-- Nothing shorter than a path with a slash behind it begins with it. -/
theorem not_prefix_of_length {path other : List Char} (short : other.length ≤ path.length) :
    ¬ path ++ ['/'] <+: other := by
  intro within
  have length := within.length_le
  rw [List.length_append, List.length_singleton] at length
  omega

/-- Behind other segments than the root's, exactly the places below have the path
of the base and a slash in front. -/
theorem prefix_landing_iff (inside : Inside list) (nonempty : list ≠ []) (other : dropEmptyBack list ≠ [[]])
    (place : Place) :
    written (dropEmptyBack list) ++ ['/'] <+: written (landing list place) ↔ IsBelow (written list) place := by
  have back := throughout_sublist (dropEmptyBack_sublist list) inside
  have kept : Url.base (dropEmptyBack list) = dropEmptyBack list := by rw [Url.base, if_neg other]
  cases place with
  | base => exact iff_of_false (not_prefix_of_length (Nat.le_refl _)) id
  | page name =>
    refine iff_of_true ?_ trivial
    rw [landing, kept, written_concat]
    exact ⟨Percent.encode segmentEscapes name, List.append_assoc _ _ _⟩
  | above =>
    rw [IsBelow, stem_written inside nonempty, landing, kept, written_concat]
    rcases List.eq_nil_or_concat' (dropEmptyBack list) with none | ⟨front, last, whole⟩
    · exact absurd none (dropEmptyBack_ne_nil nonempty)
    · rw [whole] at back ⊢
      rw [lastSegment_written (slash_notMem_last back), leave_concat]
      split
      · rename_i drive
        exact iff_of_true (List.prefix_refl _) drive
      · rename_i free
        refine iff_of_false (not_prefix_of_length ?_) free
        rw [written_concat, List.length_append, List.length_append, List.length_cons]
        simp

/-- At the root everything is below, and behind two slashes nothing is. -/
theorem prefix_folder_iff (inside : Inside list) (nonempty : list ≠ []) (identifier : String) :
    folder (written list) ++ ['/'] <+: written (landing list (placeOf identifier)) ↔
      written list ≠ ['/', '/'] ∧ (written list = ['/'] ∨ IsBelow (written list) (placeOf identifier)) := by
  obtain rfl | rfl | ⟨folded, other, slash, slashes⟩ := folder_cases inside nonempty
  · have landed : landing [[]] (placeOf identifier) ≠ [] := by
      rw [← push_web]
      exact push_ne_nil nonempty
    obtain ⟨rest, whole⟩ := written_eq_cons landed
    exact iff_of_true ⟨rest, whole.symm⟩ ⟨by decide, .inl rfl⟩
  · obtain ⟨segment, single⟩ : ∃ segment, landing [[], []] (placeOf identifier) = [segment] := by
      cases placeOf identifier <;> exact ⟨_, rfl⟩
    have within := inside_landing inside identifier
    rw [single] at within ⊢
    exact iff_of_false (not_slashes_written within fun begins => Nat.lt_irrefl 1 begins.1) (fun both => both.1 rfl)
  · rw [folded, prefix_landing_iff inside nonempty other]
    simp only [slash, slashes, ne_eq, not_false_eq_true, false_or, true_and]

/-- Going up from other segments than a drive leads to the path in front of the
last one. -/
theorem written_above (inside : Inside list) (nonempty : list ≠ []) (rooted : stem (written list) ≠ [])
    (free : isDriveLike (lastSegment (stem (written list))) = false) :
    written (landing list .above) = parent (stem (written list)) := by
  have kept := throughout_sublist ((base_sublist _).trans (dropEmptyBack_sublist list)) inside
  rw [stem_written inside nonempty] at rooted free ⊢
  rcases List.eq_nil_or_concat' (Url.base (dropEmptyBack list)) with none | ⟨front, last, whole⟩
  · rw [none] at rooted
    exact absurd rfl rooted
  · rw [landing, whole]
    rw [whole] at kept free
    have slashless := slash_notMem_last kept
    rw [lastSegment_written slashless] at free
    rw [leave_concat, free, parent_written slashless]
    exact written_concat front []

/-- **Which identifiers stay below their base.** Behind a base of the web the path
of an identifier's URL begins with the path of the base and a slash exactly if
the identifier names a page of its own or goes up from a drive; at the root every
identifier does, and behind two slashes none. A dot and two dots give the path
of the base without its slash, and going up the one that leads to it. -/
theorem stays_below_base_iff (settings : Settings) (base : Url) (accepted : settings.base = .ok base)
    (web : base.scheme = "http" ∨ base.scheme = "https") (identifier : String) :
    ∃ url, base.withSegment? identifier = some url ∧
      (folder base.path.text ++ ['/'] <+: url.path.text ↔
        base.path.text ≠ ['/', '/'] ∧ (base.path.text = ['/'] ∨ IsBelow base.path.text (placeOf identifier))) ∧
      (placeOf identifier = .base → url.path.text = lessOneSlash base.path.text) ∧
      (placeOf identifier = .above → stem base.path.text ≠ [] →
        isDriveLike (lastSegment (stem base.path.text)) = false → url.path.text = parent (stem base.path.text)) ∧
      (∀ name, placeOf identifier = .page name →
        url.path.text = stem base.path.text ++ '/' :: Percent.encode segmentEscapes name) := by
  have kind := kind_of_scheme web
  obtain ⟨list, path, inside, nonempty, -⟩ := segments_of_web (wellFormed_of_accepted accepted) kind
  refine ⟨_, withSegment?_web kind path identifier, ?_, ?_, ?_, ?_⟩
  all_goals rw [path, text_segments, text_segments]
  · exact prefix_folder_iff inside nonempty identifier
  · intro dots
    rw [dots, landing, lessOneSlash_written inside nonempty]
  · intro dots rooted free
    rw [dots, written_above inside nonempty rooted free]
  · intro name page
    rw [page, landing, written_concat, stem_written inside nonempty]

/-- Dots with an escaped slash behind them do not lead out. -/
theorem stays_below_base_behind_dots :
    localSettings.base = .ok localBase ∧ placeOf "../etc" = .page "../etc".toList ∧
      ∃ url, localBase.withSegment? "../etc" = some url ∧ "/users/".toList <+: url.path.text := by
  have accepted : localSettings.base = .ok localBase := by decide +kernel
  have page : placeOf "../etc" = .page "../etc".toList := by decide
  obtain ⟨url, added, below, -⟩ := stays_below_base_iff localSettings localBase accepted (.inl rfl) "../etc"
  refine ⟨accepted, page, url, added, ?_⟩
  rw [page] at below
  exact below.mpr ⟨by decide, .inr trivial⟩

/-- Two dots with a tab between them lead out. -/
theorem broken_dots_climb :
    identifiers (bytesOf ".\t.\n") = [".\t."] ∧
      (localBase.withSegment? ".\t.").map (·.path.text) = some "/".toList ∧
      ¬ ∀ (settings : Settings) (base url : Url) (identifier : String), settings.base = .ok base →
        base.scheme = "http" ∨ base.scheme = "https" → base.withSegment? identifier = some url →
        folder base.path.text ++ ['/'] <+: url.path.text := by
  have accepted : localSettings.base = .ok localBase := by decide +kernel
  refine ⟨by decide +kernel, by decide +kernel, fun below => ?_⟩
  obtain ⟨url, added⟩ : ∃ url, localBase.withSegment? ".\t." = some url := ⟨_, rfl⟩
  have climbs : url.path.text = "/".toList := by
    have path : (localBase.withSegment? ".\t.").map (·.path.text) = some "/".toList := by decide +kernel
    rw [added] at path
    exact Option.some.inj path
  have kept := below localSettings localBase url ".\t." accepted (.inl rfl) added
  rw [climbs] at kept
  exact absurd kept (by decide)

end AuthorNames.BelowBase
