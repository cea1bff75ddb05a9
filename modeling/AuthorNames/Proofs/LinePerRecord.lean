import AuthorNames.Proofs.LossyDecoding
import AuthorNames.Proofs.RunReference
import AuthorNames.Proofs.WordCollapse

/-! How many lines the records of a run take. An identifier is a part of one
line of the input and a name is collapsed before it is shown, so neither brings
a line feed into a record. The domain is trimmed but not searched for line
feeds, and an author's record has as many too many as the domain holds. -/
namespace AuthorNames.LinePerRecord
open AuthorNames.LineSegments AuthorNames.LossyDecoding AuthorNames.Resolution
open AuthorNames.RunReference AuthorNames.WordCollapse

variable {ctx : Context} {web : Web} {value : String} {output : Output}

private theorem mem_of_mem_trimmed {text : List Char} {c : Char} (member : c ∈ Text.trimmed text) :
    c ∈ text := by
  have front : Text.trimmed text ⊆ text.dropWhile Text.isBlank := by
    intro d inside
    have reversed := (List.dropWhile_sublist Text.isBlank).subset (List.mem_reverse.mp inside)
    exact List.mem_reverse.mp reversed
  exact (List.dropWhile_sublist Text.isBlank).subset (front member)

theorem feed_notMem_identifier {bytes : List UInt8} (member : value ∈ identifiers bytes) :
    '\n' ∉ value.toList := by
  obtain ⟨segment, among, rfl⟩ := List.mem_map.mp member
  rw [String.toList_ofList]
  intro inside
  exact feed_notMem_decodeLossy (feed_notMem_segment among) (mem_of_mem_trimmed inside)

theorem feed_notMem_displayName {page name : String} (shown : Profile.displayName? page = some name) :
    '\n' ∉ name.toList := by
  obtain ⟨text, collapsed, -⟩ := displayName_is_collapsed shown
  rw [collapsed]
  intro inside
  exact absurd (blank_of_mem_collapse inside (by decide)) (by decide)

/-- A name that is fetched is shown on the page that the identifier has. -/
theorem page_of_fetched {name : String} (fetched : (ctx.lookup web value).result = .ok (.fetched name)) :
    ∃ page, (ctx.page web value).result = .ok page ∧
      Profile.displayName? (String.ofList page) = some name := by
  unfold Context.lookup at fetched
  dsimp only at fetched
  split at fetched
  · cases fetched
  · cases fetched
  · rename_i page found
    split at fetched
    · rename_i shown
      cases fetched
      exact ⟨page, found, shown⟩
    · cases fetched

/-- Whatever stands in for the name, it is on one line if the identifier is. -/
theorem feed_notMem_shownName (ctx : Context) (web : Web) (feedless : '\n' ∉ value.toList) :
    '\n' ∉ (shownName ctx web value).toList := by
  unfold shownName
  split
  · rename_i name fetched
    obtain ⟨page, -, shown⟩ := page_of_fetched fetched
    exact feed_notMem_displayName shown
  · exact feedless

/-- The line feeds that the domain brings into the record of a value. -/
def strayFeeds (ctx : Context) (value : String) : Nat :=
  if value = noAuthor then 0 else ctx.domain.toList.count '\n'

/-- The only line feeds inside a record are those of the domain. -/
theorem count_feed_record (ctx : Context) (web : Web) (feedless : '\n' ∉ value.toList) :
    (Text.Utf8.bytesOf (Record.text ⟨value, display ctx web value⟩)).count 10 = strayFeeds ctx value := by
  rw [Text.Utf8.bytesOf, count_feed_encode, Record.text, display, strayFeeds]
  have identifier := List.count_eq_zero.mpr feedless
  have name := List.count_eq_zero.mpr (feed_notMem_shownName ctx web feedless)
  split
  · simp [String.toList_append, identifier, noAuthor]
  · simp [String.toList_append, identifier, name]

/-- A value's line ends in a line feed, and in front of that are the stray ones. -/
theorem count_feed_lineOf (ctx : Context) (web : Web) (feedless : '\n' ∉ value.toList) :
    ∃ body, lineOf ctx web value = body ++ [10] ∧ body.count 10 = strayFeeds ctx value :=
  ⟨_, lineOf_eq ctx web value, count_feed_record ctx web feedless⟩

/-- A value's line is a single one exactly where the domain brings no line feed into it. -/
theorem single_line_iff (ctx : Context) (web : Web) (feedless : '\n' ∉ value.toList) :
    (∃ body, lineOf ctx web value = body ++ [10] ∧ 10 ∉ body) ↔ strayFeeds ctx value = 0 := by
  obtain ⟨body, line, stray⟩ := count_feed_lineOf ctx web feedless
  constructor
  · rintro ⟨other, same, single⟩
    rw [line] at same
    rw [← stray, List.append_cancel_right same]
    exact List.count_eq_zero.mpr single
  · intro none
    exact ⟨body, line, List.count_eq_zero.mp (stray.trans none)⟩

/-- Each author's record brings the line feeds of the domain with it. -/
theorem count_feed_lines (ctx : Context) (web : Web) {values : List String}
    (feedless : ∀ value ∈ values, '\n' ∉ value.toList) :
    (values.flatMap (lineOf ctx web)).count 10 =
      values.length + values.countP (· ≠ noAuthor) * ctx.domain.toList.count '\n' := by
  induction values with
  | nil => simp
  | cons value rest ih =>
    obtain ⟨body, line, stray⟩ := count_feed_lineOf ctx web (feedless value List.mem_cons_self)
    have later := ih fun other member => feedless other (List.mem_cons_of_mem _ member)
    rw [List.flatMap_cons, List.count_append, later, line, List.count_append, stray, strayFeeds]
    by_cases nobody : value = noAuthor
    · simp [nobody]
      omega
    · simp [nobody, Nat.add_mul]
      omega

/-- Whether no record can have a stray line feed. -/
def NoneStray (ctx : Context) (values : List String) : Prop :=
  '\n' ∉ ctx.domain.toList ∨ ∀ value ∈ values, value = noAuthor

private theorem noneStray_iff_each (ctx : Context) (values : List String) :
    (∀ value ∈ values, strayFeeds ctx value = 0) ↔ NoneStray ctx values := by
  simp only [strayFeeds, NoneStray, ite_eq_left_iff, List.count_eq_zero]
  constructor
  · intro each
    by_cases feedless : '\n' ∉ ctx.domain.toList
    · exact .inl feedless
    · refine .inr fun value member => ?_
      by_contra author
      exact feedless (each value member author)
  · rintro (feedless | nobody) value member author
    · exact feedless
    · exact absurd (nobody value member) author

private theorem noneStray_iff_count (ctx : Context) (values : List String) :
    NoneStray ctx values ↔ values.countP (· ≠ noAuthor) * ctx.domain.toList.count '\n' = 0 := by
  rw [NoneStray, Nat.mul_eq_zero, List.countP_eq_zero, List.count_eq_zero]
  simp [or_comm]

/-- **The lines of a run.** A run that succeeds writes one line feed for each
segment of its input and, for each segment that is an author's, those that the
domain holds. So its records are on one line each, and there are as many lines
as segments, exactly where the domain holds no line feed or no segment is an
author's. -/
theorem feeds_written (ctx : Context) (web : Web) (input : Input) (output : Output)
    (takes : TakesEverything output.sink) (count : Nat)
    (succeeded : (ctx.run web input output).result = .ok count) :
    let values := identifiers (delivered input)
    let added := values.flatMap (lineOf ctx web)
    (ctx.run web input output).output.sink.content.toList = output.sink.content.toList ++ added ∧
    added.count 10 = (segments (delivered input)).length +
      values.countP (· ≠ noAuthor) * ctx.domain.toList.count '\n' ∧
    ((∀ value ∈ values, ∃ body, lineOf ctx web value = body ++ [10] ∧ 10 ∉ body) ↔
      NoneStray ctx values) ∧
    (added.count 10 = (segments (delivered input)).length ↔ NoneStray ctx values) := by
  intro values added
  obtain ⟨-, -, whole, -⟩ := run_succeeded takes succeeded
  have feedless : ∀ value ∈ values, '\n' ∉ value.toList := fun _ => feed_notMem_identifier
  have counted : added.count 10 = (segments (delivered input)).length +
      values.countP (· ≠ noAuthor) * ctx.domain.toList.count '\n' := by
    rw [← length_identifiers]
    exact count_feed_lines ctx web feedless
  refine ⟨?_, counted, ?_, ?_⟩
  · rw [run_output ctx web takes, whole, content_withLines]
  · rw [← noneStray_iff_each]
    exact forall₂_congr fun value member => single_line_iff ctx web (feedless value member)
  · rw [counted, noneStray_iff_count]
    omega

/-- A base whose pages cannot be had, and a domain of two lines, which was
accepted. -/
def twoLineContext : Context where
  base := ⟨"x", none, .segments false ["u"], none, none⟩
  timeout := none
  domain := "a\nb"
  policy := .abort

/-- Nobody's record takes one line and an author's takes two. -/
theorem feeds_written_for_two_segments :
    let input : Input := .ofBytes (Text.Utf8.bytesOf "(no author)\nalice")
    TakesEverything Sink.unlimited ∧
      (twoLineContext.run .unreachable input (.new .unlimited)).result = .ok 2 ∧
      identifiers (delivered input) = ["(no author)", "alice"] ∧
      (["(no author)", "alice"].flatMap (lineOf twoLineContext .unreachable)).count 10 = 3 := by
  intro input
  have takes : TakesEverything Sink.unlimited := ⟨rfl, rfl⟩
  have succeeded : (twoLineContext.run .unreachable input (.new .unlimited)).result = .ok 2 := by
    decide +kernel
  have values : identifiers (delivered input) = ["(no author)", "alice"] := by decide +kernel
  obtain ⟨-, counted, -, -⟩ := feeds_written twoLineContext .unreachable input (.new .unlimited) takes 2
    succeeded
  rw [← length_identifiers, values] at counted
  have three : ["(no author)", "alice"].length +
      ["(no author)", "alice"].countP (· ≠ noAuthor) * twoLineContext.domain.toList.count '\n' = 3 := by
    decide +kernel
  exact ⟨takes, succeeded, values, counted.trans three⟩

/-- A request for a domain of two lines is accepted, and the record of one
segment then takes two lines. -/
theorem domain_feed_breaks_record :
    let request : CommandLine.Request :=
      { CommandLine.Request.empty with baseUrl := some "x:/u", domain := some "a\nb" }
    let run := twoLineContext.run .unreachable (.ofBytes (Text.Utf8.bytesOf "alice\n")) (.new .unlimited)
    Context.ofRequest ⟨fun _ => none, some ⟨none⟩⟩ request = .ok twoLineContext ∧
      run.result = .ok 1 ∧
      run.output.sink.content.toList = Text.Utf8.bytesOf "alice = alice <alice@a\nb>\n" ∧
      run.output.sink.content.toList.count 10 = 2 ∧
      (segments (Text.Utf8.bytesOf "alice\n")).length = 1 := by
  decide +kernel

end AuthorNames.LinePerRecord
