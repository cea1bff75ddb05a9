import AuthorNames.Proofs.EventLog

/-! How the program ends. What it writes and asks for is what its run writes and
asks for, and its exit status says whether the run came to its end. How loud it
is and which of its events are shown has no part in any of that: the request
that a command line makes is the same, and no event stands where the failure is
reported. -/
namespace AuthorNames.ProgramEnding
open AuthorNames.CommandLine AuthorNames.Loudness AuthorNames.EventLog
open AuthorNames.LineSegments AuthorNames.RunReference AuthorNames.AcceptedSettings
open AuthorNames.Text.Utf8 (bytesOf)

/-- What the settings and the run behind them come to: the number of records, or
the failure of either. -/
def outcome (i : Invocation) (r : Request) : Except Failure Nat := do
  let ctx ← Context.ofRequest i.files r
  (ctx.run i.web (.ofBytes i.input) (.new .unlimited)).result

/-- What is said at the end of a program that fails. -/
def finalError (e : Ending) : Option String :=
  if e.exitCode = 0 then none else e.messages.getLast?

/-- The messages of a failing program: events, none of which says that the run
has ended, and the failure. -/
def EndsWith (failure : Failure) (messages : List String) : Prop :=
  ∃ events : List Log.Event, messages = events.map Log.Event.text ++ ["error: " ++ failure.message] ∧
    ∀ count, Log.Event.text (.finished count) ∉ messages

variable {i j : Invocation} {r r' : Request} {ctx : Context} {failure : Failure} {count : Nat}

/-! What is told of the end. -/

/-- The first letter of what an event says. -/
def initial : Log.Event → Char
  | .skippingSettings _ | .starting .. => 's'
  | .fetching _ => 'f'
  | .nameless _ => 'p'
  | .fallingBack .. => 'u'
  | .finished _ => 'a'

theorem head?_title (e : Log.Event) : e.title.toList.head? = some (initial e) := by
  cases e with
  | skippingSettings reason =>
    have opened : ("skipping user settings: " ++ reason).toList.head? = some 's' := by simp
    exact opened
  | starting | fetching | nameless | fallingBack | finished => simp [Log.Event.title, initial]

/-- Every event is told behind five characters and a blank. -/
theorem text_at_title (e : Log.Event) : e.text.toList[6]? = some (initial e) := by
  have wide : e.level.label.toList.length = 5 := by cases e.level <;> simp [Log.Level.label]
  obtain ⟨letters, title⟩ := List.head?_eq_some_iff.mp (head?_title e)
  simp [Log.Event.text, title, List.getElem?_append, wide]

/-- Only the end is told as the end. -/
theorem finished_of_text {e : Log.Event} (told : e.text = Log.Event.text (.finished count)) :
    ∃ total, e = .finished total := by
  have initials := congrArg (·.toList[6]?) told
  simp only [text_at_title] at initials
  cases e with
  | finished total => exact ⟨total, rfl⟩
  | skippingSettings | starting | fetching | nameless | fallingBack => simp [initial] at initials

/-- A failure is not reported as an event. -/
theorem report_ne_text (failure : Failure) (e : Log.Event) : "error: " ++ failure.message ≠ e.text := by
  intro told
  have initials := congrArg (·.toList[6]?) told
  simp only [text_at_title] at initials
  have blank : ("error: " ++ failure.message).toList[6]? = some ' ' := by simp
  rw [blank] at initials
  cases e <;> simp [initial] at initials

/-- Events that do not say that the run has ended, whichever of them are shown,
and a failure behind them. -/
theorem endsWith_of_unfinished {events : List Log.Event} (unfinished : ∀ count, .finished count ∉ events)
    (filter : Log.Filter) (failure : Failure) :
    EndsWith failure (Program.shown filter events ++ ["error: " ++ failure.message]) := by
  refine ⟨_, rfl, fun count told => ?_⟩
  rcases List.mem_append.mp told with among | last
  · obtain ⟨e, shown, same⟩ := List.mem_map.mp among
    obtain ⟨total, rfl⟩ := finished_of_text same
    exact unfinished total (List.mem_of_mem_filter shown)
  · exact report_ne_text failure _ (List.mem_singleton.mp last).symm

/-! The program, by what it comes to. -/

theorem run_of_rejected (parsed : parse i.arguments = .ok r)
    (rejected : Context.ofRequest i.files r = .error failure) :
    Program.run i =
      ⟨1, [], Program.shown (.ofRun i.logFilter r.verbosity) (skipped i.files r.config) ++
        ["error: " ++ failure.message], []⟩ := by
  rw [Context.ofRequest] at rejected
  rw [Program.run, parsed]
  dsimp only
  rw [Program.runRequest, rejected, ← events_bootstrap]
  rfl

theorem outcome_of_rejected (rejected : Context.ofRequest i.files r = .error failure) :
    outcome i r = .error failure := by
  rw [outcome, rejected]
  rfl

theorem outcome_of_accepted (accepted : Context.ofRequest i.files r = .ok ctx) :
    outcome i r = (ctx.run i.web (.ofBytes i.input) (.new .unlimited)).result := by
  rw [outcome, accepted]
  rfl

/-- Each side of a program with settings that can be used is that of its run. -/
theorem sides_of_accepted (parsed : parse i.arguments = .ok r)
    (accepted : Context.ofRequest i.files r = .ok ctx) :
    let run := ctx.run i.web (.ofBytes i.input) (.new .unlimited)
    (Program.run i).records = run.output.sink.content.toList ∧
      (Program.run i).requests = Occurrence.requests run.occurrences := by
  intro run
  rw [run_of_accepted parsed accepted, runIn_eq]
  cases (ctx.run i.web (.ofBytes i.input) (.new .unlimited)).result with
  | ok count => exact ⟨rfl, rfl⟩
  | error failure => exact ⟨rfl, rfl⟩

theorem exitCode_of_success (parsed : parse i.arguments = .ok r) (succeeded : outcome i r = .ok count) :
    (Program.run i).exitCode = 0 := by
  obtain ⟨ctx, accepted, result⟩ := bind_ok succeeded
  rw [run_of_accepted parsed accepted, runIn_eq, result]

theorem ending_of_failure (parsed : parse i.arguments = .ok r) (failed : outcome i r = .error failure) :
    (Program.run i).exitCode = 1 ∧ EndsWith failure (Program.run i).messages := by
  cases made : Context.ofRequest i.files r with
  | error rejected =>
    rw [outcome_of_rejected made] at failed
    cases failed
    rw [run_of_rejected parsed made]
    exact ⟨rfl, endsWith_of_unfinished (finished_notMem_skipped _ _) _ failure⟩
  | ok ctx =>
    rw [outcome_of_accepted made] at failed
    have unfinished (count : Nat) :
        .finished count ∉ Program.eventsOf (skipped i.files r.config) ctx
          (ctx.run i.web (.ofBytes i.input) (.new .unlimited)) := by
      intro told
      have succeeded := (finished_mem_eventsOf (finished_notMem_skipped _ _ _) ctx i.web i.input).mp told
      rw [failed] at succeeded
      cases succeeded
    rw [run_of_accepted parsed made, runIn_eq, failed]
    exact ⟨rfl, endsWith_of_unfinished unfinished _ failure⟩

theorem exitCode_eq_zero_iff (parsed : parse i.arguments = .ok r) :
    (Program.run i).exitCode = 0 ↔ ∃ count, outcome i r = .ok count := by
  constructor
  · intro zero
    cases came : outcome i r with
    | ok count => exact ⟨count, rfl⟩
    | error failure =>
      rw [(ending_of_failure parsed came).1] at zero
      cases zero
  · rintro ⟨count, succeeded⟩
    exact exitCode_of_success parsed succeeded

/-- What is said at the end is the failure, if there is one. -/
theorem finalError_eq (parsed : parse i.arguments = .ok r) :
    finalError (Program.run i) =
      match outcome i r with
      | .ok _ => none
      | .error failure => some ("error: " ++ failure.message) := by
  cases came : outcome i r with
  | ok count => rw [finalError, if_pos (exitCode_of_success parsed came)]
  | error failure =>
    obtain ⟨failing, events, told, -⟩ := ending_of_failure parsed came
    rw [finalError, if_neg (by rw [failing]; decide), told, List.getLast?_concat]

/-! Two programs that differ in how loud they are. -/

/-- Settings have nothing to do with how loud a program is. -/
theorem ofRequest_of_hushed {files : Files} (same : hushed r' = hushed r) :
    Context.ofRequest files r' = Context.ofRequest files r := by
  have silent (r : Request) : Context.ofRequest files (hushed r) = Context.ofRequest files r := rfl
  rw [← silent r', same, silent]

/-- What a program writes, asks for and comes to depends on its settings, its
input and the web alone. -/
theorem sides_agree (parsed : parse i.arguments = .ok r) (parsedToo : parse j.arguments = .ok r')
    (settings : Context.ofRequest j.files r' = Context.ofRequest i.files r) (web : j.web = i.web)
    (input : j.input = i.input) :
    (Program.run j).records = (Program.run i).records ∧ (Program.run j).requests = (Program.run i).requests ∧
      outcome j r' = outcome i r := by
  cases made : Context.ofRequest i.files r with
  | error failure =>
    have madeToo := settings.trans made
    rw [run_of_rejected parsed made, run_of_rejected parsedToo madeToo, outcome_of_rejected made,
      outcome_of_rejected madeToo]
    exact ⟨rfl, rfl, rfl⟩
  | ok ctx =>
    have madeToo := settings.trans made
    obtain ⟨records, requests⟩ := sides_of_accepted parsed made
    obtain ⟨recordsToo, requestsToo⟩ := sides_of_accepted parsedToo madeToo
    rw [outcome_of_accepted made, outcome_of_accepted madeToo, records, requests, recordsToo, requestsToo, web, input]
    exact ⟨rfl, rfl, rfl⟩

/-- **The program is its run and an exit status.** Without settings that can be
used it writes nothing and asks for nothing; otherwise it writes what the run
writes and asks for what the run asks for. It ends with 0 if the settings can be
used and the run comes to its end, and else with 1 and the failure as its last
message, having told of no end. An invocation that is louder or quieter, or shows
other events, does the same in all of this. -/
theorem program_is_run_and_status (parsed : parse i.arguments = .ok r) :
    (∀ failure, Context.ofRequest i.files r = .error failure →
      (Program.run i).records = [] ∧ (Program.run i).requests = []) ∧
    (∀ ctx, Context.ofRequest i.files r = .ok ctx →
      let run := ctx.run i.web (.ofBytes i.input) (.new .unlimited)
      (Program.run i).records = run.output.sink.content.toList ∧
        (Program.run i).requests = Occurrence.requests run.occurrences) ∧
    ((Program.run i).exitCode = 0 ↔
      ∃ ctx count, Context.ofRequest i.files r = .ok ctx ∧
        (ctx.run i.web (.ofBytes i.input) (.new .unlimited)).result = .ok count) ∧
    (∀ failure, outcome i r = .error failure →
      (Program.run i).exitCode = 1 ∧ EndsWith failure (Program.run i).messages) ∧
    (∀ (j : Invocation) (r' : Request), parse j.arguments = .ok r' → quiet j.arguments = quiet i.arguments →
      j.files = i.files → j.web = i.web → j.input = i.input →
      (Program.run j).records = (Program.run i).records ∧ (Program.run j).requests = (Program.run i).requests ∧
        (Program.run j).exitCode = (Program.run i).exitCode ∧
        finalError (Program.run j) = finalError (Program.run i)) := by
  refine ⟨?_, fun ctx => sides_of_accepted parsed, ?_, fun failure => ending_of_failure parsed, ?_⟩
  · intro failure rejected
    rw [run_of_rejected parsed rejected]
    exact ⟨rfl, rfl⟩
  · rw [exitCode_eq_zero_iff parsed]
    constructor
    · rintro ⟨count, succeeded⟩
      obtain ⟨ctx, accepted, result⟩ := bind_ok succeeded
      exact ⟨ctx, count, accepted, result⟩
    · rintro ⟨ctx, count, accepted, result⟩
      exact ⟨count, (outcome_of_accepted accepted).trans result⟩
  · intro j r' parsedToo same files web input
    have settings : Context.ofRequest j.files r' = Context.ofRequest i.files r := by
      rw [files, ofRequest_of_hushed (hushed_of_quiet parsed parsedToo same)]
    obtain ⟨records, requests, came⟩ := sides_agree parsed parsedToo settings web input
    have status : (Program.run j).exitCode = 0 ↔ (Program.run i).exitCode = 0 := by
      rw [exitCode_eq_zero_iff parsed, exitCode_eq_zero_iff parsedToo, came]
    refine ⟨records, requests, ?_, ?_⟩
    · cases result : outcome i r with
      | ok count =>
        have zero := exitCode_of_success parsed result
        rw [zero, status.mpr zero]
      | error failure =>
        rw [(ending_of_failure parsed result).1, (ending_of_failure parsedToo (came.trans result)).1]
    · rw [finalError_eq parsed, finalError_eq parsedToo, came]

/-- A run that ends at the blank page, behind nobody's record. -/
def endingEarly (louder : List String) (logFilter : Option String) : Invocation :=
  { toldAtLength with
    arguments := (louder ++ ["--base-url=http://[::1]/u"]).map bytesOf
    logFilter }

/-- A run that ends at the blank page does the same when it tells nothing of
itself. -/
theorem status_at_blank_page :
    let told := Program.run (endingEarly ["-v"] none)
    let untold := Program.run (endingEarly ["--verbose", "-vv"] (some "off"))
    told.records = bytesOf "(no author) = (no author)\n" ∧ told.exitCode = 1 ∧
      EndsWith (.missingDisplayName "x") told.messages ∧
      untold.records = told.records ∧ untold.exitCode = 1 ∧ finalError untold = finalError told := by
  let i := endingEarly ["-v"] none
  let j := endingEarly ["--verbose", "-vv"] (some "off")
  let base : Url := ⟨"http", some ⟨"", "", .ipv6 [0, 0, 0, 0, 0, 0, 0, 1], none⟩, .segments false ["u"], none, none⟩
  let asked (verbosity : UInt8) : Request := ⟨some "http://[::1]/u", none, none, none, none, verbosity⟩
  let ctx : Context := ⟨base, none, "users.sourceforge.net", .abort⟩
  have parsed : parse i.arguments = .ok (asked 1) := by decide +kernel
  have parsedToo : parse j.arguments = .ok (asked 3) := by decide +kernel
  have same : quiet j.arguments = quiet i.arguments := by decide +kernel
  have accepted : Context.ofRequest i.files (asked 1) = .ok ctx := by decide +kernel
  have failed : outcome i (asked 1) = .error (.missingDisplayName "x") := by decide +kernel
  have content : (ctx.run i.web (.ofBytes i.input) (.new .unlimited)).output.sink.content.toList =
      bytesOf "(no author) = (no author)\n" := by decide +kernel
  obtain ⟨-, sides, -, ending, others⟩ := program_is_run_and_status parsed
  obtain ⟨records, -⟩ := sides ctx accepted
  obtain ⟨exitCode, messages⟩ := ending _ failed
  obtain ⟨recordsToo, -, exitCodeToo, finalErrorToo⟩ := others j _ parsedToo same rfl rfl rfl
  exact ⟨records.trans content, exitCode, messages, recordsToo, exitCodeToo.trans exitCode, finalErrorToo⟩

end AuthorNames.ProgramEnding
