import AuthorNames.Proofs.RunReference
import Mathlib.Data.List.Infix

/-! Two runs that differ in the policy alone. Up to the first page without a
name they do the same, whatever the lines before it are; there one of them ends,
and the other goes on with the record that a page out of reach would have led
to. Where every name is found the policy cannot be told from the run. -/
namespace AuthorNames.PolicySimulation
open AuthorNames.LineSegments AuthorNames.Resolution AuthorNames.RunReference

variable {ctx : Context} {web : Web} {value identifier : String} {values : List String} {output : Output}

/-- The bytes of the line of an author for whose name the identifier stands in. -/
def standInLine (ctx : Context) (identifier : String) : List UInt8 :=
  Text.Utf8.bytesOf (identifier ++ " = " ++ identifier ++ " <" ++ identifier ++ "@" ++ ctx.domain ++ ">\n")

/-- The loop does not depend on the policy while no name is missing. -/
theorem process_under (policy : MissingNamePolicy)
    (named : ∀ value ∈ values, isNameless ctx web value = false) :
    (under ctx policy).process web values output = ctx.process web values output := by
  induction values generalizing output with
  | nil => rfl
  | cons value rest ih =>
    have same := resolve_under policy (named value List.mem_cons_self)
    have later : ∀ value ∈ rest, isNameless ctx web value = false :=
      fun value member => named value (List.mem_cons_of_mem _ member)
    simp only [Context.process, same, ih later]

theorem run_under (policy : MissingNamePolicy) (input : Input)
    (named : ∀ value ∈ identifiers (delivered input), isNameless ctx web value = false) :
    (under ctx policy).run web input output = ctx.run web input output := by
  rw [← values_are_identifiers] at named
  rw [Context.run, Context.run, process_under policy named]

/-- A run over any output misses the name only of a value in its input whose
page shows none, and only where the policy is to end it. -/
theorem run_missing {input : Input}
    (missing : (ctx.run web input output).result = .error (.missingDisplayName identifier)) :
    identifier ∈ identifiers (delivered input) ∧ isNameless ctx web identifier = true ∧
      ctx.policy = .abort := by
  rw [Context.run] at missing
  split at missing
  · rename_i failed
    cases missing
    rcases process_failure failed with ⟨value, member, cause⟩ | ⟨fault, io⟩
    · obtain ⟨nameless, policy, rfl⟩ := resolve_missing_iff.mp cause
      exact ⟨values_are_identifiers input ▸ member, nameless, policy⟩
    · cases io
  · cases missing
  · cases missing

/-- For a name that is missing the identifier stands in. -/
theorem lineOf_nameless (nameless : isNameless ctx web value = true) :
    lineOf ctx web value = standInLine ctx value := by
  obtain ⟨author, page⟩ : value ≠ noAuthor ∧ hasNamelessPage ctx web value = true := by
    simpa [isNameless] using nameless
  have missing := lookup_missing_iff.mpr ⟨page, rfl⟩
  rw [lineOf, standInLine, display, if_neg author, shownName, missing]
  simp only [String.append_assoc]
  rfl

/-- An author whose page could not be had has the line in which the identifier stands in. -/
theorem line_of_failed_fetch {url : Url} {fault : FetchFault} (author : value ≠ noAuthor)
    (segment : ctx.base.withSegment? value = some url) (failed : (web.fetch url).outcome = .error fault) :
    ∃ record, (ctx.resolve web value).result = .ok record ∧
      Text.Utf8.bytesOf (record.text ++ "\n") = standInLine ctx value := by
  refine ⟨_, resolve_of_failed_fetch author segment failed, ?_⟩
  rw [standInLine, Record.text, Context.recordOf, contactAddress]
  simp only [String.append_assoc]
  rfl

/-- The run that ends has the lines of the values before the first one whose
name is missing, and asked for the pages of those and of that one. -/
theorem ends_at_first_nameless {input : Input} {before after : List String}
    (takes : TakesEverything output.sink)
    (parts : identifiers (delivered input) = before ++ identifier :: after)
    (named : ∀ value ∈ before, isNameless ctx web value = false)
    (nameless : isNameless ctx web identifier = true) :
    let run := (under ctx .abort).run web input output
    run.result = .error (.missingDisplayName identifier) ∧
      run.output = withLines output (before.map (lineOf ctx web)) ∧
      Occurrence.requests run.occurrences = (before ++ [identifier]).flatMap (requestsFor ctx web) := by
  intro run
  have takesSegments := takesSegments_of_nameless nameless
  have records : ∀ value ∈ before, ∃ record, ((under ctx .abort).resolve web value).result = .ok record :=
    fun value member => record_of_named takesSegments (.inl (named value member))
  have missing : ((under ctx .abort).resolve web identifier).result = .error (.missingDisplayName identifier) :=
    resolve_missing_iff.mpr ⟨nameless, rfl, rfl⟩
  exact run_until_failing takes parts records missing

/-- The run that goes on has the lines of all values, and asked for all their
pages. -/
theorem goes_on_to_last (takes : TakesEverything output.sink) (takesSegments : ctx.base.isOpaque = false)
    (web : Web) (input : Input) :
    let values := identifiers (delivered input)
    let run := (under ctx .fallback).run web input output
    run.output = withLines output (values.map (lineOf ctx web)) ∧
      Occurrence.requests run.occurrences = values.flatMap (requestsFor ctx web) := by
  intro values run
  have records : ∀ value ∈ values, ∃ record, ((under ctx .fallback).resolve web value).result = .ok record :=
    fun value _ => record_of_named takesSegments (.inr rfl)
  exact (run_of_all takes records).2

/-- Where the first name is missing one run ends, and behind what it has written
the other has the line of the identifier that stands in. -/
theorem runs_part {input : Input} {before after : List String} (takes : TakesEverything output.sink)
    (parts : identifiers (delivered input) = before ++ identifier :: after)
    (named : ∀ value ∈ before, isNameless ctx web value = false)
    (nameless : isNameless ctx web identifier = true) :
    let ending := (under ctx .abort).run web input output
    let going := (under ctx .fallback).run web input output
    ending.result = .error (.missingDisplayName identifier) ∧
      ending.output.sink.content.toList ++ standInLine ctx identifier <+: going.output.sink.content.toList ∧
      Occurrence.requests ending.occurrences <+: Occurrence.requests going.occurrences := by
  intro ending going
  obtain ⟨result, written, requests⟩ := ends_at_first_nameless takes parts named nameless
  obtain ⟨allWritten, allRequests⟩ := goes_on_to_last takes (takesSegments_of_nameless nameless) web input
  rw [parts] at allWritten allRequests
  have content : ending.output.sink.content.toList =
      output.sink.content.toList ++ before.flatMap (lineOf ctx web) := by
    rw [written, content_withLines]
  have allContent : going.output.sink.content.toList =
      ending.output.sink.content.toList ++ standInLine ctx identifier ++ after.flatMap (lineOf ctx web) := by
    rw [allWritten, content_withLines, content, ← lineOf_nameless nameless]
    simp only [List.flatMap_append, List.flatMap_cons, List.append_assoc]
  refine ⟨result, ?_, ?_⟩
  · rw [allContent]
    exact List.prefix_append _ _
  · rw [requests, allRequests, List.append_cons before identifier after]
    exact (List.prefix_append _ _).flatMap _

/-- **The policies part at the first missing name.** Of two runs that differ in
the policy, what the one that may end writes and asks for is a prefix of what
the other does. The other never misses a name; the first does exactly where some
value's page shows none, with the first such value, and there the other goes on
with the line that it writes where a page cannot be had. If the first succeeds,
the two are one and the same. -/
theorem policies_part_at_missing_name (ctx : Context) (web : Web) (input : Input) :
    let values := identifiers (delivered input)
    let ending := (under ctx .abort).run web input (.new .unlimited)
    let going := (under ctx .fallback).run web input (.new .unlimited)
    ending.output.sink.content.toList <+: going.output.sink.content.toList ∧
    Occurrence.requests ending.occurrences <+: Occurrence.requests going.occurrences ∧
    (∀ identifier, going.result ≠ .error (.missingDisplayName identifier)) ∧
    ((∃ identifier, ending.result = .error (.missingDisplayName identifier)) ↔
      ∃ value ∈ values, isNameless ctx web value = true) ∧
    (∀ identifier, ending.result = .error (.missingDisplayName identifier) →
      values.find? (isNameless ctx web) = some identifier ∧
      ending.output.sink.content.toList ++ standInLine ctx identifier <+:
        going.output.sink.content.toList ∧
      ∀ (policy : MissingNamePolicy) (other : Web) (url : Url) (fault : FetchFault),
        ctx.base.withSegment? identifier = some url → (other.fetch url).outcome = .error fault →
        ∃ record, ((under ctx policy).resolve other identifier).result = .ok record ∧
          Text.Utf8.bytesOf (record.text ++ "\n") = standInLine ctx identifier) ∧
    (∀ count, ending.result = .ok count → going = ending) := by
  intro values ending going
  have takes : TakesEverything (Output.new Sink.unlimited).sink := ⟨rfl, rfl⟩
  have spared : ∀ identifier, going.result ≠ .error (.missingDisplayName identifier) := by
    intro identifier missing
    obtain ⟨-, -, aborts⟩ := run_missing missing
    cases aborts
  -- The runs part at the first value whose name is missing, if there is one.
  cases first : values.find? (isNameless ctx web) with
  | none =>
    have named : ∀ value ∈ values, isNameless ctx web value = false := by
      simpa using List.find?_eq_none.mp first
    have same : going = ending := (run_under .fallback input named).trans (run_under .abort input named).symm
    refine ⟨?_, ?_, spared, ?_, ?_, fun _ _ => same⟩
    · rw [same]
    · rw [same]
    · constructor
      · rintro ⟨identifier, missing⟩
        exact absurd (same ▸ missing) (spared identifier)
      · rintro ⟨value, member, nameless⟩
        rw [named value member] at nameless
        cases nameless
    · intro identifier missing
      exact absurd (same ▸ missing) (spared identifier)
  | some nameless =>
    obtain ⟨shows, before, after, parts, unmet⟩ := List.find?_eq_some_iff_append.mp first
    have parts : identifiers (delivered input) = before ++ nameless :: after := parts
    have named : ∀ value ∈ before, isNameless ctx web value = false := by simpa using unmet
    obtain ⟨result, written, requests⟩ := runs_part takes parts named shows
    refine ⟨(List.prefix_append _ _).trans written, requests, spared, ?_, ?_, ?_⟩
    · exact iff_of_true ⟨nameless, result⟩ ⟨nameless, List.mem_of_find?_eq_some first, shows⟩
    · intro identifier missing
      obtain rfl : nameless = identifier := by
        rw [result] at missing
        cases missing
        rfl
      refine ⟨rfl, written, ?_⟩
      intro policy other url fault segment failed
      have author : nameless ≠ noAuthor := by
        rintro rfl
        cases shows
      exact line_of_failed_fetch author segment failed
    · intro count succeeded
      rw [result] at succeeded
      cases succeeded

/-- A web with one page, which shows nothing. -/
def blankPage : Web :=
  ⟨true, [("http://localhost/users/x", .page ⟨200, "OK", none, none, [], 0⟩)]⟩

/-- Nobody, an author whose page is blank, and one whose page is not there. -/
def threeLines : Input :=
  .ofBytes (Text.Utf8.bytesOf "(no author)\nx\ny\n")

/-- Behind nobody's record the runs part at the blank page. -/
theorem policies_part_at_blank_page :
    ((under localContext .abort).run blankPage threeLines (.new .unlimited)).result =
        .error (.missingDisplayName "x") ∧
      ((under localContext .fallback).run blankPage threeLines (.new .unlimited)).result = .ok 3 ∧
      Text.Utf8.bytesOf "(no author) = (no author)\n" ++ standInLine localContext "x" <+:
        ((under localContext .fallback).run blankPage threeLines (.new .unlimited)).output.sink.content.toList := by
  have missing : ((under localContext .abort).run blankPage threeLines (.new .unlimited)).result =
      .error (.missingDisplayName "x") := by decide +kernel
  have content : ((under localContext .abort).run blankPage threeLines
      (.new .unlimited)).output.sink.content.toList =
        Text.Utf8.bytesOf "(no author) = (no author)\n" := by decide +kernel
  have all : ((under localContext .fallback).run blankPage threeLines (.new .unlimited)).result = .ok 3 := by
    decide +kernel
  obtain ⟨-, -, -, -, parted, -⟩ := policies_part_at_missing_name localContext blankPage threeLines
  obtain ⟨-, further, -⟩ := parted "x" missing
  rw [content] at further
  exact ⟨missing, all, further⟩

end AuthorNames.PolicySimulation
