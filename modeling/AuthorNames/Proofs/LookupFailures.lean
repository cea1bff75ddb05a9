import AuthorNames.Proofs.AcceptedSettings
import AuthorNames.Proofs.RunReference

/-! Of all that can go wrong on the way to a record, only a page without a name
ends a resolution. The base URL was checked when the settings were accepted, and
whatever keeps a page from being had is a reason to fall back; where the policy
says to fall back for a missing name too, a run can fail at its reader and its
writer alone. -/
namespace AuthorNames.LookupFailures
open AuthorNames.AcceptedSettings AuthorNames.LineSegments AuthorNames.Resolution
open AuthorNames.RunReference

variable {ctx : Context} {web : Web} {values : List String} {output : Output}

/-- Asking for a page fails only as a fetch does. -/
theorem page_error_is_http (takesSegments : ctx.base.isOpaque = false) {identifier : String}
    {failure : Failure} (failed : (ctx.page web identifier).result = .error failure) :
    ∃ fault, failure = .http fault := by
  unfold Context.page at failed
  split at failed
  · rename_i segment
    rw [withSegment?_eq_none_iff.mp segment] at takesSegments
    cases takesSegments
  · rename_i url _
    dsimp only at failed
    generalize (web.fetch url).outcome = outcome at failed
    cases outcome <;> cases failed
    exact ⟨_, rfl⟩

/-- A loop that falls back for every missing name fails at the writer alone. -/
theorem process_falling_back (takesSegments : ctx.base.isOpaque = false) (policy : ctx.policy = .fallback)
    {failure : Failure} (failed : (ctx.process web values output).failure = some failure) :
    ∃ fault, failure = .io fault := by
  rcases process_failure failed with ⟨value, -, cause⟩ | unwritten
  · obtain ⟨-, aborts, -⟩ := (resolve_error_iff takesSegments).mp cause
    rw [policy] at aborts
    cases aborts
  · exact unwritten

/-- A run that falls back for every missing name has a record for each segment,
or its reader or its writer has failed. -/
theorem run_falling_back (takesSegments : ctx.base.isOpaque = false) (policy : ctx.policy = .fallback)
    (web : Web) (input : Input) (output : Output) :
    let run := ctx.run web input output
    let count := output.written + (segments (delivered input)).length
    (run.result = .ok count ∧ run.output.written = count) ∨ ∃ fault, run.result = .error (.io fault) := by
  rw [← length_identifiers, ← values_are_identifiers, Context.run]
  cases outcome : (ctx.process web input.values output).failure with
  | some failure =>
    obtain ⟨fault, io⟩ := process_falling_back takesSegments policy outcome
    exact .inr ⟨fault, by rw [io]⟩
  | none =>
    have written := process_written outcome
    cases input.failure with
    | some reason => exact .inr ⟨_, rfl⟩
    | none => exact .inl ⟨congrArg Except.ok written, written⟩

/-- **Only a missing name can make a resolution fail.** Under settings that were
accepted every identifier has a URL, its page fails only as a fetch does, and
its lookup is an outcome or misses the very name looked up. A resolution fails
in that way alone, and only where the policy is to end the run. Under the other
policy a run over a reader and a writer that do not fail has a record for each
segment. -/
theorem only_missing_names_fail (files : Files) (request : CommandLine.Request) (ctx : Context)
    (accepted : Context.ofRequest files request = .ok ctx) (web : Web) :
    (∀ identifier : String,
      (∃ url, ctx.base.withSegment? identifier = some url) ∧
      (∀ failure, (ctx.page web identifier).result = .error failure → ∃ fault, failure = .http fault) ∧
      ((∃ outcome, (ctx.lookup web identifier).result = .ok outcome) ∨
        (ctx.lookup web identifier).result = .error (.missingDisplayName identifier))) ∧
    (∀ (value : String) (failure : Failure), (ctx.resolve web value).result = .error failure →
      failure = .missingDisplayName value ∧ ctx.policy = .abort) ∧
    (ctx.policy = .fallback → ∀ (input : Input) (output : Output),
      let run := ctx.run web input output
      let count := output.written + (segments (delivered input)).length
      ((run.result = .ok count ∧ run.output.written = count) ∨ ∃ fault, run.result = .error (.io fault)) ∧
      (input.failure = none → TakesEverything output.sink →
        run.result = .ok count ∧ run.output.written = count)) := by
  have takesSegments := context_takesSegments accepted
  refine ⟨fun identifier => ⟨?_, fun failure => page_error_is_http takesSegments,
    lookup_ok_or_missing takesSegments web identifier⟩, ?_, ?_⟩
  · cases segment : ctx.base.withSegment? identifier with
    | some url => exact ⟨url, rfl⟩
    | none =>
      rw [withSegment?_eq_none_iff.mp segment] at takesSegments
      cases takesSegments
  · intro value failure failed
    obtain ⟨-, aborts, missing⟩ := (resolve_error_iff takesSegments).mp failed
    exact ⟨missing, aborts⟩
  · intro policy input output run count
    refine ⟨run_falling_back takesSegments policy web input output, fun unbroken takes => ?_⟩
    have records : ∀ value ∈ identifiers (delivered input),
        ∃ record, (ctx.resolve web value).result = .ok record :=
      fun value _ => record_of_named takesSegments (.inr policy)
    obtain ⟨result, written, -⟩ := run_of_all takes records
    rw [length_identifiers] at result
    refine ⟨result unbroken, ?_⟩
    rw [written, withLines, List.length_map, length_identifiers]

/-- A base that no page can be asked for behind is accepted all the same, and
three segments in two pieces make three records. -/
theorem only_missing_names_fail_behind_other_schemes :
    let request : CommandLine.Request :=
      { CommandLine.Request.empty with baseUrl := some " x:/u ", onMissingName := some .fallback }
    let ctx : Context :=
      ⟨⟨"x", none, .segments false ["u"], none, none⟩, none, "users.sourceforge.net", .fallback⟩
    Context.ofRequest ⟨fun _ => none, some ⟨none⟩⟩ request = .ok ctx ∧
      TakesEverything Sink.unlimited ∧
      (ctx.run .unreachable ⟨[[97, 10, 98], [99, 10, 10]], none⟩ (.new .unlimited)).result = .ok 3 := by
  intro request ctx
  have accepted : Context.ofRequest ⟨fun _ => none, some ⟨none⟩⟩ request = .ok ctx := by decide +kernel
  have takes : TakesEverything Sink.unlimited := ⟨rfl, rfl⟩
  have count : (segments (delivered ⟨[[97, 10, 98], [99, 10, 10]], none⟩)).length = 3 := by decide
  have fails := (only_missing_names_fail _ request ctx accepted .unreachable).2.2 rfl
    ⟨[[97, 10, 98], [99, 10, 10]], none⟩ (.new .unlimited)
  refine ⟨accepted, takes, (fails.2 rfl takes).1.trans ?_⟩
  rw [count]
  rfl

end AuthorNames.LookupFailures
