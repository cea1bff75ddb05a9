import AuthorNames.Proofs.CharacterBoundaries
import AuthorNames.Proofs.LossyDecoding
import AuthorNames.Proofs.RunReference

/-! Lines may be cut before the bytes are decoded or afterwards. A line feed is
read as one whatever is broken off in front of it, and nothing else ever is, so
the lines of the decoded text are the decoded lines of the bytes, and what is
ill-formed in one line is seen in no other. -/
namespace AuthorNames.DecodedLines
open AuthorNames.CharacterBoundaries AuthorNames.LineSegments AuthorNames.LossyDecoding
open AuthorNames.Text.Utf8
open AuthorNames.RunReference (localContext)

/-- The lines of a text: its pieces between line feeds, without an empty last
one. -/
def textLines (text : List Char) : List (List Char) :=
  let pieces := text.splitOn '\n'
  if pieces.getLast? = some [] then pieces.dropLast else pieces

/-- The identifiers that a text lists, one to a line. -/
def textIdentifiers (text : List Char) : List String :=
  (textLines text).map fun line => String.ofList (Text.trimmed line)

/-- What has begun is one ill-formed part at least. -/
private theorem partsFrom_within_ne_nil (bytes : List UInt8) (missing : Nat) (low high : UInt8) (value : Nat) :
    partsFrom (.within missing low high value) bytes ≠ [] := by
  induction bytes generalizing missing low high value with
  | nil => simp [partsFrom, finish]
  | cons byte rest ih =>
    simp only [partsFrom, feed]
    split
    · cases missing with
      | zero => simp
      | succ missing => simpa using ih missing 0x80 0xBF _
    · simp

/-- Only where there are no bytes there is no text. -/
theorem decodeLossy_eq_nil {bytes : List UInt8} : decodeLossy bytes = [] ↔ bytes = [] := by
  refine ⟨fun empty => ?_, fun empty => empty ▸ rfl⟩
  rw [decodeLossy, List.map_eq_nil_iff, parts] at empty
  cases bytes with
  | nil => rfl
  | cons byte rest =>
    exfalso
    simp only [partsFrom, feed, List.append_eq_nil_iff] at empty
    obtain ⟨unread, later⟩ := empty
    cases next : (start byte).2 with
    | within missing low high value => exact partsFrom_within_ne_nil rest _ _ _ _ (next ▸ later)
    | fresh =>
      -- A byte that begins no longer character is read or refused at once.
      revert unread next
      simp only [start]
      split_ifs <;> simp

/-- A line feed is read as one, whatever is in front of it. -/
theorem decodeLossy_append_feed (front back : List UInt8) :
    decodeLossy (front ++ 10 :: back) = decodeLossy front ++ '\n' :: decodeLossy back := by
  rw [decodeLossy_append front (by decide) back]
  rfl

/-- What holds of bytes without a line feed, and behind a first line if it holds
of what follows, holds of all bytes. -/
theorem line_induction {holds : List UInt8 → Prop} (feedless : ∀ bytes, 10 ∉ bytes → holds bytes)
    (line : ∀ front back, 10 ∉ front → holds back → holds (front ++ 10 :: back)) (bytes : List UInt8) :
    holds bytes := by
  induction measure : bytes.length using Nat.strong_induction_on generalizing bytes with
  | _ count ih =>
    by_cases feeds : 10 ∈ bytes
    · obtain ⟨front, back, rfl, first⟩ := List.eq_append_cons_of_mem feeds
      refine line front back first (ih back.length ?_ back rfl)
      rw [← measure, List.length_append, List.length_cons]
      omega
    · exact feedless bytes feeds

/-- The pieces of the decoded text are the decoded pieces of the bytes. -/
theorem splitOn_decodeLossy (bytes : List UInt8) :
    (decodeLossy bytes).splitOn '\n' = (bytes.splitOn 10).map decodeLossy := by
  induction bytes using line_induction with
  | feedless bytes feedless =>
    rw [List.splitOn_eq_singleton (feed_notMem_decodeLossy feedless), List.splitOn_eq_singleton feedless]
    rfl
  | line front back feedless ih =>
    rw [decodeLossy_append_feed, List.splitOn_append_cons_self, List.splitOn_append_cons_self, ih,
      List.splitOn_eq_singleton (feed_notMem_decodeLossy feedless), List.splitOn_eq_singleton feedless,
      List.map_append]
    rfl

/-- The lines of the decoded text are the decoded lines of the bytes. -/
theorem textLines_decodeLossy (bytes : List UInt8) :
    textLines (decodeLossy bytes) = (segments bytes).map decodeLossy := by
  have empty : ((bytes.splitOn 10).map decodeLossy).getLast? = some [] ↔
      (bytes.splitOn 10).getLast? = some [] := by
    rw [List.getLast?_map, Option.map_eq_some_iff]
    simp only [decodeLossy_eq_nil, exists_eq_right]
  simp only [textLines, segments, splitOn_decodeLossy, empty]
  split
  · rw [List.map_dropLast]
  · rfl

theorem textIdentifiers_decodeLossy (bytes : List UInt8) :
    textIdentifiers (decodeLossy bytes) = identifiers bytes := by
  rw [textIdentifiers, textLines_decodeLossy, List.map_map, identifiers]
  rfl

/-- Line feeds are neither made nor lost. -/
theorem count_feed_decodeLossy (bytes : List UInt8) :
    (decodeLossy bytes).count '\n' = bytes.count 10 := by
  induction bytes using line_induction with
  | feedless bytes feedless =>
    rw [List.count_eq_zero_of_not_mem feedless, List.count_eq_zero_of_not_mem (feed_notMem_decodeLossy feedless)]
  | line front back feedless ih =>
    rw [decodeLossy_append_feed, List.count_append, List.count_append, List.count_cons_self,
      List.count_cons_self, ih, List.count_eq_zero_of_not_mem feedless,
      List.count_eq_zero_of_not_mem (feed_notMem_decodeLossy feedless)]

/-- What is in front of a line feed and what is behind it are cut apart. -/
theorem segments_append_feed (front back : List UInt8) :
    segments (front ++ 10 :: back) = front.splitOn 10 ++ segments back := by
  obtain ⟨first, others, pieces⟩ := List.exists_cons_of_ne_nil (List.splitOn_ne_nil (10 : UInt8) back)
  have last : (front.splitOn 10 ++ back.splitOn 10).getLast? = (back.splitOn 10).getLast? := by
    rw [List.getLast?_append, pieces, List.getLast?_cons]
    rfl
  simp only [segments, List.splitOn_append_cons_self, last]
  split
  · rw [List.dropLast_append_of_ne_nil (List.splitOn_ne_nil _ _)]
  · rfl

theorem identifiers_append_feed (front back : List UInt8) :
    identifiers (front ++ 10 :: back) = identifiers (front ++ [10]) ++ identifiers back := by
  have alone := segments_append_feed front []
  have nothing : segments [] = [] := rfl
  rw [nothing, List.append_nil] at alone
  simp only [identifiers, segments_append_feed front back, alone, List.map_append]

/-- A line that is a text is resolved as that text, whatever its neighbours are. -/
theorem identifier_of_encoded {bytes : List UInt8} {i : Nat} {text : List Char}
    (line : (segments bytes)[i]? = some (encode text)) :
    (identifiers bytes)[i]? = some (String.ofList (Text.trimmed text)) := by
  rw [identifiers, List.getElem?_map, line, Option.map_some, decodeLossy_encode]

/-- **Nothing is lost by cutting lines before decoding them.** The values that
a run resolves, one after the other until one fails, are the identifiers of the
text that all its bytes together decode to. So line feeds are neither made nor
lost, what is in front of one and what is behind it are read apart, and a line
that is a text is resolved as that text, trimmed. -/
theorem decoding_may_come_first (ctx : Context) (web : Web) (bytes : List UInt8) (output : Output) :
    let values := textIdentifiers (decodeLossy bytes)
    let loop := ctx.process web values output
    let run := ctx.run web (.ofBytes bytes) output
    (Input.ofBytes bytes).values = values ∧
    (run.output = loop.output ∧ run.occurrences = loop.occurrences ∧
      run.result =
        match loop.failure with
        | some failure => .error failure
        | none => .ok loop.output.written) ∧
    (decodeLossy bytes).count '\n' = bytes.count 10 ∧
    (∀ front back : List UInt8, bytes = front ++ 10 :: back →
      values = (Input.ofBytes (front ++ [10])).values ++ (Input.ofBytes back).values) ∧
    ∀ (i : Nat) (text : List Char), (segments bytes)[i]? = some (encode text) →
      values[i]? = some (String.ofList (Text.trimmed text)) := by
  intro values loop run
  have read (some : List UInt8) : (Input.ofBytes some).values = identifiers some := by
    rw [values_are_identifiers, delivered_ofBytes]
  have same : values = identifiers bytes := textIdentifiers_decodeLossy bytes
  have runs : run = ctx.run web (.ofBytes bytes) output := rfl
  rw [Context.run, read, ← same] at runs
  refine ⟨(read bytes).trans same.symm, ?_, count_feed_decodeLossy bytes, ?_, ?_⟩
  · rw [runs]
    refine ⟨rfl, rfl, ?_⟩
    dsimp only [loop]
    cases (ctx.process web values output).failure <;> rfl
  · rintro front back rfl
    rw [same, read, read, identifiers_append_feed]
  · intro i text line
    rw [same, identifier_of_encoded line]

/-- A character that is cut off by a line feed, a line that is a text, and one
that is cut off by the end: the broken ones stay on their lines. -/
theorem decoding_may_come_first_around_broken_characters :
    let bytes : List UInt8 := [0xE2, 0x82, 0x0A, 0x20, 0xC3, 0xA9, 0x0D, 0x0A, 0xF0, 0x9F]
    bytes = [0xE2, 0x82] ++ 10 :: [0x20, 0xC3, 0xA9, 0x0D, 0x0A, 0xF0, 0x9F] ∧
      (segments bytes)[1]? = some (encode [' ', 'é', '\r']) ∧
      (Input.ofBytes bytes).values = ["\uFFFD", "é", "\uFFFD"] ∧
      (Input.ofBytes bytes).values[1]? = some "é" ∧
      (Input.ofBytes bytes).values =
        (Input.ofBytes [0xE2, 0x82, 0x0A]).values ++
          (Input.ofBytes [0x20, 0xC3, 0xA9, 0x0D, 0x0A, 0xF0, 0x9F]).values := by
  intro bytes
  have cut : bytes = [0xE2, 0x82] ++ 10 :: [0x20, 0xC3, 0xA9, 0x0D, 0x0A, 0xF0, 0x9F] := rfl
  have line : (segments bytes)[1]? = some (encode [' ', 'é', '\r']) := by decide +kernel
  have text : textIdentifiers (decodeLossy bytes) = ["\uFFFD", "é", "\uFFFD"] := by decide +kernel
  obtain ⟨values, -, -, apart, valid⟩ :=
    decoding_may_come_first localContext .unreachable bytes (.new .unlimited)
  refine ⟨cut, line, values.trans text, ?_, values.trans (apart _ _ cut)⟩
  rw [values, valid 1 _ line]
  rfl

end AuthorNames.DecodedLines
