import AuthorNames.Proofs.PathText

/-! Where an identifier leads from a base. Behind a base of the web there are
three places to go: the base itself for a dot and two dots, the place above it
for two dots that are read only once a break between them is dropped, and a page
of its own for everything else, whose segment stands for the identifier's bytes. -/
namespace AuthorNames.AddedSegment
open AuthorNames.Url AuthorNames.ReadPaths AuthorNames.PercentEscapes AuthorNames.PathText
open AuthorNames.Text.Utf8 (bytesOf)

/-- What an identifier asks for. -/
inductive Place where
  /-- The base itself: no segment is added. -/
  | base
  /-- The place above: the last segment is taken away. -/
  | above
  /-- The page with that name below the base. -/
  | page (name : List Char)
  deriving DecidableEq

/-- What is left of an identifier where tabs and line breaks are dropped. -/
def letters (identifier : String) : List Char :=
  identifier.toList.filter (!isBreak ·)

/-- The place that an identifier asks for. The check on dots comes before the
breaks are dropped, and a lone dot that is left names nothing. -/
def placeOf (identifier : String) : Place :=
  if identifier = "." ∨ identifier = ".." then .base
  else if letters identifier = ['.', '.'] then .above
  else if letters identifier = ['.'] then .page []
  else .page (letters identifier)

/-- The escapes of a segment behind a base of the web. -/
abbrev segmentEscapes : Percent.EscapeSet :=
  Percent.segment true

/-- The segments of a place. -/
def landing (list : List (List Char)) : Place → List (List Char)
  | .base => dropEmptyBack list
  | .above => leave (Url.base (dropEmptyBack list)) ++ [[]]
  | .page name => Url.base (dropEmptyBack list) ++ [Percent.encode segmentEscapes name]

/-- A segment as a path writes it: visible ASCII characters, none of which ends
a segment or the path, and percent signs in escapes alone. -/
structure IsSegment (segment : List Char) : Prop where
  visible : ∀ c ∈ segment, 0x20 < c.toNat ∧ c.toNat < 0x7F
  closed : ∀ c ∈ segment, c ∉ ['/', '\\', '?', '#']
  escapes : WellEscaped segment

variable {list : List (List Char)} {text : List Char} {identifier : String} {source : String} {base url : Url}

/-! Dots. -/

/-- However a dot is written, it is read as a dot. -/
theorem decode_of_isDot (dot : isDot text = true) : Percent.decode text = [46] := by
  simp only [isDot, Bool.or_eq_true, beq_iff_eq] at dot
  rcases dot with (rfl | rfl) | rfl <;> decide

theorem decode_of_isDotDot (dots : isDotDot text = true) : Percent.decode text = [46, 46] := by
  rw [isDotDot.eq_def] at dots
  split at dots
  · rename_i rest
    rw [decode_other (by decide), decode_of_isDot dots]
    rfl
  · rename_i e rest
    rw [Bool.and_eq_true, Bool.or_eq_true, beq_iff_eq, beq_iff_eq] at dots
    obtain ⟨either, dot⟩ := dots
    have first : Percent.decode ('%' :: '2' :: e :: rest) = 46 :: Percent.decode rest := by
      rcases either with rfl | rfl <;> rfl
    rw [first, decode_of_isDot dot]
  · cases dots

/-- A written segment is a dot exactly if it is written from one. -/
theorem isDot_encode (isSpecial : Bool) :
    isDot (Percent.encode (Percent.segment isSpecial) text) = true ↔ text = ['.'] := by
  have marks : Percent.segment isSpecial '%' = true := by cases isSpecial <;> rfl
  constructor
  · intro dot
    have bytes := decode_of_isDot dot
    rw [decode_encode marks] at bytes
    exact utf8_injective bytes
  · rintro rfl
    cases isSpecial <;> rfl

theorem isDotDot_encode (isSpecial : Bool) :
    isDotDot (Percent.encode (Percent.segment isSpecial) text) = true ↔ text = ['.', '.'] := by
  have marks : Percent.segment isSpecial '%' = true := by cases isSpecial <;> rfl
  constructor
  · intro dots
    have bytes := decode_of_isDotDot dots
    rw [decode_encode marks] at bytes
    exact utf8_injective bytes
  · rintro rfl
    cases isSpecial <;> rfl

/-! The three places. -/

theorem eq_dot_iff : identifier = "." ↔ identifier.toList = ['.'] :=
  String.toList_inj.symm

theorem eq_dotDot_iff : identifier = ".." ↔ identifier.toList = ['.', '.'] :=
  String.toList_inj.symm

/-- Behind a base of the web, what is added leads to the place that is asked for. -/
theorem push_web (list : List (List Char)) (identifier : String) :
    push .web list identifier.toList = landing list (placeOf identifier) := by
  unfold push placeOf
  dsimp only
  rw [← letters]
  by_cases bare : identifier = "." ∨ identifier = ".."
  · rw [if_pos bare, if_pos (bare.imp eq_dot_iff.mp eq_dotDot_iff.mp)]
    rfl
  · rw [if_neg bare, if_neg (fun dots => bare (dots.imp eq_dot_iff.mpr eq_dotDot_iff.mpr))]
    -- Only files have drives and empty segments in front that are treated apart.
    have settled (list : List (List Char)) : settle .web list = list := rfl
    have front (closed : List (List Char)) (segment : List Char) : atFront .web closed segment = segment := rfl
    have special : Kind.web.isSpecial = true := rfl
    rw [settled, finish, front, special]
    by_cases two : letters identifier = ['.', '.']
    · rw [if_pos ((isDotDot_encode true).mpr two), if_pos two]
      rfl
    · rw [if_neg (fun dots => two ((isDotDot_encode true).mp dots)), if_neg two]
      by_cases one : letters identifier = ['.']
      · rw [if_pos ((isDot_encode true).mpr one), if_pos one]
        rfl
      · rw [if_neg (fun dot => one ((isDot_encode true).mp dot)), if_neg one]
        rfl

theorem inside_landing (inside : Inside list) (identifier : String) :
    Inside (landing list (placeOf identifier)) := by
  rw [← push_web]
  exact inside_push inside

/-- A URL of the web has segments, and a host in front of them. -/
theorem segments_of_web (formed : WellFormed base) (web : base.kind = .web) :
    ∃ list, base.path = .segments false (list.map String.ofList) ∧ Inside list ∧ list ≠ [] ∧
      base.authority ≠ none := by
  have special : base.kind.isSpecial = true := by rw [web]; rfl
  cases formed with
  | whole _ _ general =>
    rw [special] at general
    cases general
  | segments path inside nonempty hosted =>
    obtain ⟨rfl, host⟩ := hosted special
    exact ⟨_, path, inside, nonempty (.inr special), host⟩

theorem withSegment?_web (web : base.kind = .web) (path : base.path = .segments false (list.map String.ofList))
    (identifier : String) :
    base.withSegment? identifier =
      some { base with path := .segments false ((landing list (placeOf identifier)).map String.ofList) } := by
  rw [Url.withSegment?, path]
  simp only [List.map_map, Function.comp_def, String.toList_ofList, List.map_id', web, push_web]

theorem kind_of_scheme (web : base.scheme = "http" ∨ base.scheme = "https") : base.kind = .web := by
  rcases web with scheme | scheme <;> rw [Url.kind, scheme] <;> rfl

/-! Segments that stand for an identifier. -/

/-- An identifier without tabs and line breaks that is no dots asks for the page of its own name. -/
theorem placeOf_plain (unbroken : ∀ c ∈ identifier.toList, isBreak c = false) (one : identifier ≠ ".")
    (two : identifier ≠ "..") : placeOf identifier = .page identifier.toList := by
  have whole : letters identifier = identifier.toList := by
    rw [letters, List.filter_eq_self]
    intro c member
    rw [unbroken c member]
    rfl
  rw [placeOf, whole, if_neg (not_or.mpr ⟨one, two⟩), if_neg (fun dots => two (eq_dotDot_iff.mpr dots)),
    if_neg (fun dot => one (eq_dot_iff.mpr dot))]

theorem isSegment_encode (name : List Char) : IsSegment (Percent.encode segmentEscapes name) where
  visible := by
    intro c member
    rcases mem_encode member with ⟨-, kept⟩ | rfl | digit
    · simp only [segmentEscapes, Percent.segment, Percent.path, Percent.fragment, Percent.controls,
        Bool.or_eq_false_iff, decide_eq_false_iff_not, beq_eq_false_iff_ne] at kept
      have space : c.toNat ≠ 0x20 := fun same => kept.1.1.1.1.1.1.1.1.1.1.1.2 (Char.toNat_inj.mp same)
      omega
    · decide
    · exact (isDigit_plain digit).1
  closed := by
    intro c member
    rcases mem_encode member with ⟨-, kept⟩ | rfl | digit
    · simp only [segmentEscapes, Percent.segment, Percent.path, Bool.or_eq_false_iff, Bool.true_and,
        beq_eq_false_iff_ne] at kept
      simp [kept]
    · decide
    · have plain := (isDigit_plain digit).2
      simp only [List.mem_cons, not_or] at plain ⊢
      exact plain.2
  escapes := wellEscaped_encode rfl name

/-- A base and the same base with a slash at its end have the same segments to
put another behind. -/
theorem dropEmptyBack_slash {other : List (List Char)} (inside : Inside list) (otherInside : Inside other)
    (nonempty : list ≠ []) (unended : (written list).getLast? ≠ some '/')
    (slash : written other = written list ++ ['/']) : dropEmptyBack other = dropEmptyBack list := by
  have longer : other = list ++ [[]] := by
    apply written_injective otherInside (throughout_append inside throughout_empty)
    rw [slash, written_concat]
  obtain rfl | ⟨front, more, rfl⟩ | ⟨front, last, unclosed, rfl⟩ := ending_cases nonempty
  · exact absurd rfl unended
  · exact absurd (getLast?_written front []) unended
  · rw [longer, dropEmptyBack_closed nonempty, dropEmptyBack_open unclosed]

/-- **The segment of an identifier can be read back.** Behind a base of the web
an identifier without tabs and line breaks that is no dots becomes one segment
behind the base's path, and the escapes of that segment stand for the bytes of
the identifier. Whether the base ends in a slash makes no difference. -/
theorem added_segment_reads_back (source : String) (base : Url) (read : Url.parse source = .ok base)
    (web : base.scheme = "http" ∨ base.scheme = "https") :
    (∀ identifier : String, (∀ c ∈ identifier.toList, c ≠ '\t' ∧ c ≠ '\n' ∧ c ≠ '\r') →
      identifier ≠ "." → identifier ≠ ".." →
      ∃ url segment, base.withSegment? identifier = some url ∧
        url.path.text = stem base.path.text ++ '/' :: segment ∧ IsSegment segment ∧
        Percent.decode segment = bytesOf identifier) ∧
    ∀ (otherSource : String) (other : Url), Url.parse otherSource = .ok other →
      other = { base with path := other.path } → base.path.text.getLast? ≠ some '/' →
      other.path.text = base.path.text ++ ['/'] →
      ∀ identifier : String, other.withSegment? identifier = base.withSegment? identifier := by
  have kind := kind_of_scheme web
  obtain ⟨list, path, inside, nonempty, -⟩ := segments_of_web (wellFormed_of_parse read) kind
  constructor
  · intro identifier unbroken one two
    have plain : ∀ c ∈ identifier.toList, isBreak c = false := by
      intro c member
      simp [isBreak, unbroken c member]
    have added := withSegment?_web kind path identifier
    rw [placeOf_plain plain one two] at added
    refine ⟨_, Percent.encode segmentEscapes identifier.toList, added, ?_, isSegment_encode _, decode_encode rfl _⟩
    rw [path, text_segments, text_segments, stem_written inside nonempty, landing, written_concat]
  · intro otherSource other otherRead same unended slash identifier
    have otherKind : other.kind = .web := by
      rw [same]
      exact kind
    obtain ⟨otherList, otherPath, otherInside, -, -⟩ := segments_of_web (wellFormed_of_parse otherRead) otherKind
    rw [path, text_segments] at unended slash
    rw [otherPath, text_segments] at slash
    have landed : landing otherList (placeOf identifier) = landing list (placeOf identifier) := by
      have back := dropEmptyBack_slash inside otherInside nonempty unended slash
      cases placeOf identifier <;> simp only [landing, back]
    rw [withSegment?_web kind path, withSegment?_web otherKind otherPath, landed, same]

/-- The URL of a path on this machine, with a query and a fragment behind it. -/
def loopback (segments : List String) : Url :=
  ⟨"http", some ⟨"", "", .ipv6 [0, 0, 0, 0, 0, 0, 0, 1], none⟩, .segments false segments, some "q", some "f"⟩

/-- Of two slashes at the end of a base one is left in front of the segment, and
signs, escapes and letters beyond ASCII all come back. -/
theorem added_segment_reads_back_behind_two_slashes :
    Url.parse "http://[::1]/a//?q#f" = .ok (loopback ["a", "", ""]) ∧
      (∃ url segment, (loopback ["a", "", ""]).withSegment? "é\\%2F?.." = some url ∧
        url.path.text = "/a//".toList ++ segment ∧ IsSegment segment ∧
        Percent.decode segment = bytesOf "é\\%2F?..") ∧
      (loopback ["a", ""]).withSegment? ".\t." = (loopback ["a"]).withSegment? ".\t." := by
  have twice : Url.parse "http://[::1]/a//?q#f" = .ok (loopback ["a", "", ""]) := by decide +kernel
  have once : Url.parse "http://[::1]/a/?q#f" = .ok (loopback ["a", ""]) := by decide +kernel
  have never : Url.parse "http://[::1]/a?q#f" = .ok (loopback ["a"]) := by decide +kernel
  obtain ⟨url, segment, added, path, written, read⟩ :=
    (added_segment_reads_back _ _ twice (.inl rfl)).1 "é\\%2F?.." (by simp) (by decide) (by decide)
  refine ⟨twice, ⟨url, segment, added, path, written, read⟩, ?_⟩
  exact (added_segment_reads_back _ _ never (.inl rfl)).2 _ _ once rfl (by decide) rfl ".\t."

end AuthorNames.AddedSegment
