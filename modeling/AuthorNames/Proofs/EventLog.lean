import AuthorNames.Program
import AuthorNames.Proofs.AcceptedSettings
import AuthorNames.Proofs.LinePerRecord
import AuthorNames.Proofs.Loudness
import AuthorNames.Proofs.MessageLines
import AuthorNames.Proofs.PolicySimulation

/-! What a run tells about itself. Every event but the first and the last is
told on behalf of one value, in the order of the values, and says what its page
turned out to be; the last is told exactly when every value has its record. How
loud the run is decides which of the events are shown, and nothing else. -/
namespace AuthorNames.EventLog
open AuthorNames.LineSegments AuthorNames.Resolution AuthorNames.RunReference
open AuthorNames.CommandLine AuthorNames.Loudness AuthorNames.AcceptedSettings
open AuthorNames.LinePerRecord (feed_notMem_identifier)
open AuthorNames.MessageLines AuthorNames.PlainUrls
open AuthorNames.PolicySimulation (standInLine)
open AuthorNames.Text.Utf8 (bytesOf)

/-- What is told on behalf of a value: nothing of nobody; of an author that the
page is asked for, and why the identifier stands in for the name, if it does. -/
def eventsFor (ctx : Context) (web : Web) (value : String) : List Log.Event :=
  if value = noAuthor then []
  else
    match ctx.base.withSegment? value with
    | none => []
    | some url =>
      .fetching url.text ::
        match (web.fetch url).outcome with
        | .error fault => [.fallingBack value (.noPage fault.message)]
        | .ok page =>
          match Profile.displayName? (String.ofList page), ctx.policy with
          | some _, _ => []
          | none, .abort => []
          | none, .fallback => [.nameless value, .fallingBack value .namelessPage]

/-- What is told on the way to the settings: that the user's own are skipped,
where they are asked for and there is no directory for them. -/
def skipped (files : Files) (config : Option (List UInt8)) : List Log.Event :=
  if config = none ∧ files.userDirectory = none then
    [.skippingSettings "configuration error: unable to resolve config directory"]
  else []

/-- The values that a run comes to: those before the first one without a record,
and that one. -/
def processed (ctx : Context) (web : Web) (values : List String) : List String :=
  values.take ((resolved ctx web values).length + 1)

/-- Whether no name could be had for an author. -/
def fallsBack (ctx : Context) (web : Web) (value : String) : Bool :=
  value ≠ noAuthor &&
    match (ctx.lookup web value).result with
    | .ok (.fetched _) => false
    | _ => true

/-- Whether an event says that an identifier stands in for the name. -/
def isFallback : Log.Event → Bool
  | .fallingBack .. => true
  | _ => false

/-- The last level that is shown when a run is told that often to say more. -/
def levelFor : Nat → Log.Level
  | 0 => .warn
  | 1 => .info
  | 2 => .debug
  | _ => .trace

/-- The events up to a level. -/
def upTo (level : Log.Level) (events : List Log.Event) : List Log.Event :=
  events.filter fun e => e.level.rank ≤ level.rank

variable {ctx : Context} {web : Web} {value : String} {values : List String} {output : Output}

/-! Settings. -/

theorem events_bootstrap (files : Files) (r : Request) :
    Occurrence.events (Context.bootstrap files r).occurrences = skipped files r.config := by
  unfold Context.bootstrap Settings.locate skipped
  cases r.config with
  | some path =>
    dsimp only
    cases files.entryAt path <;> rfl
  | none =>
    unfold Settings.discover
    cases files.userDirectory <;> rfl

/-- Nothing that is told on the way to the settings says that the run has ended. -/
theorem finished_notMem_skipped (files : Files) (config : Option (List UInt8)) (count : Nat) :
    .finished count ∉ skipped files config := by
  unfold skipped
  split <;> simp

theorem countP_skipped (files : Files) (config : Option (List UInt8)) :
    (skipped files config).countP isFallback = 0 := by
  unfold skipped
  split <;> rfl

/-! Values. -/

/-- A lookup tells that it asks for the page, where there is one to ask for. -/
theorem events_lookup (ctx : Context) (web : Web) (value : String) :
    Occurrence.events (ctx.lookup web value).occurrences =
      match ctx.base.withSegment? value with
      | none => []
      | some url => [.fetching url.text] := by
  unfold Context.lookup Context.page
  cases ctx.base.withSegment? value with
  | none => rfl
  | some url =>
    have asked : (web.fetch url).requests.filterMap (Occurrence.event? ∘ Occurrence.asked) = [] :=
      List.filterMap_eq_nil_iff.mpr fun _ _ => rfl
    simp only [Occurrence.events, List.filterMap_cons, Occurrence.event?, List.filterMap_map, asked]

/-- A resolution tells what there is to be told on behalf of its value. -/
theorem events_resolve (ctx : Context) (web : Web) (value : String) :
    Occurrence.events (ctx.resolve web value).occurrences = eventsFor ctx web value := by
  by_cases nobody : value = noAuthor
  · subst nobody
    rfl
  rw [resolve_author nobody, eventsFor, if_neg nobody]
  have told := events_lookup ctx web value
  have result := lookup_result ctx web value
  -- Of the lookup only what it told and what it came to are needed.
  generalize ctx.lookup web value = lookup at told result ⊢
  obtain ⟨occurrences, found⟩ := lookup
  dsimp only at told result
  subst result
  cases segment : ctx.base.withSegment? value with
  | none =>
    rw [segment] at told
    exact told
  | some url =>
    rw [segment] at told
    dsimp only at told ⊢
    have behind (more : List Occurrence) :
        Occurrence.events (occurrences ++ more) = .fetching url.text :: Occurrence.events more := by
      rw [Occurrence.events, List.filterMap_append, ← Occurrence.events, told]
      rfl
    generalize (web.fetch url).outcome = outcome
    cases outcome with
    | error fault => exact behind _
    | ok page =>
      dsimp only
      generalize Profile.displayName? (String.ofList page) = shown
      cases shown with
      | some name => exact told
      | none =>
        cases policy : ctx.policy with
        | abort =>
          simp only [Context.applyPolicy, policy, Context.conclude]
          exact told
        | fallback =>
          simp only [Context.applyPolicy, policy, Context.conclude, List.append_assoc]
          exact behind _

/-- Nothing that is told on behalf of a value says that the run has ended. -/
theorem finished_notMem_eventsFor (ctx : Context) (web : Web) (value : String) (count : Nat) :
    .finished count ∉ eventsFor ctx web value := by
  unfold eventsFor
  repeat' split
  all_goals simp

/-- A fallback is told once on behalf of a value that has a record although no
name could be had, and on behalf of no other. -/
theorem count_fallbacks_eventsFor (ctx : Context) (web : Web) (value : String) :
    (eventsFor ctx web value).countP isFallback = (resolves ctx web value && fallsBack ctx web value).toNat := by
  by_cases nobody : value = noAuthor
  · subst nobody
    rfl
  have author : decide (value ≠ noAuthor) = true := decide_eq_true nobody
  have result := lookup_result ctx web value
  rw [eventsFor, if_neg nobody, resolves, resolve_author nobody, fallsBack, author, Bool.true_and]
  generalize ctx.lookup web value = lookup at result ⊢
  obtain ⟨occurrences, found⟩ := lookup
  dsimp only at result ⊢
  subst result
  cases ctx.base.withSegment? value with
  | none => rfl
  | some url =>
    dsimp only
    generalize (web.fetch url).outcome = outcome
    cases outcome with
    | error fault => rfl
    | ok page =>
      dsimp only
      generalize Profile.displayName? (String.ofList page) = shown
      cases shown with
      | some name => rfl
      | none =>
        cases policy : ctx.policy with
        | abort =>
          simp only [Context.applyPolicy, policy, Context.conclude]
          rfl
        | fallback =>
          simp only [Context.applyPolicy, policy, Context.conclude]
          rfl

/-- The record of an author of whom no name could be had shows the identifier. -/
theorem lineOf_fallsBack (falls : fallsBack ctx web value = true) :
    lineOf ctx web value = standInLine ctx value := by
  obtain ⟨author, unnamed⟩ := Bool.and_eq_true_iff.mp falls
  have author : value ≠ noAuthor := by simpa using author
  have shown : shownName ctx web value = value := by
    rw [shownName]
    split
    · rename_i name fetched
      rw [fetched] at unnamed
      cases unnamed
    · rfl
  rw [lineOf, standInLine, display, if_neg author, shown]
  simp only [String.append_assoc]
  rfl

/-! Runs. -/

/-- All values are come to if all have records; otherwise those up to the first
that has none. -/
theorem processed_cases (ctx : Context) (web : Web) (values : List String) :
    (processed ctx web values = values ∧ resolved ctx web values = values ∧
      firstFailure? ctx web values = none) ∨
    ∃ before value after failure, values = before ++ value :: after ∧
      processed ctx web values = before ++ [value] ∧ resolved ctx web values = before ∧
      firstFailure? ctx web values = some failure ∧ (ctx.resolve web value).result = .error failure := by
  cases outcome : firstFailure? ctx web values with
  | none =>
    have whole := resolved_of_unfailing outcome
    refine .inl ⟨?_, whole, rfl⟩
    rw [processed, whole, List.take_of_length_le (Nat.le_succ _)]
  | some failure =>
    obtain ⟨before, value, after, parts, fails, unfailing⟩ := List.findSome?_eq_some_iff.mp outcome
    have all : ∀ value ∈ before, ∃ record, (ctx.resolve web value).result = .ok record := by
      intro value member
      have passes := unfailing value member
      cases result : (ctx.resolve web value).result with
      | ok record => exact ⟨record, rfl⟩
      | error failure =>
        rw [result] at passes
        cases passes
    have failed : (ctx.resolve web value).result = .error failure := by
      cases result : (ctx.resolve web value).result with
      | ok record =>
        rw [result] at fails
        cases fails
      | error other =>
        rw [result] at fails
        cases fails
        rfl
    have front := (resolved_before_failing after all failed).1
    refine .inr ⟨before, value, after, failure, parts, ?_, parts ▸ front, rfl, failed⟩
    rw [processed, parts, front, List.take_length_add_append]
    rfl

/-- A run tells of the values that it comes to, one after the other. -/
theorem events_run (ctx : Context) (web : Web) (takes : TakesEverything output.sink) (input : Input) :
    Occurrence.events (ctx.run web input output).occurrences =
      (processed ctx web (identifiers (delivered input))).flatMap (eventsFor ctx web) := by
  rw [Context.run, values_are_identifiers, process_takes takes]
  simp only [Occurrence.events, List.filterMap_flatMap]
  congr 1
  funext value
  exact events_resolve ctx web value

/-- A run over a whole input, with nothing written before it. -/
theorem events_whole_run (ctx : Context) (web : Web) (bytes : List UInt8) :
    Occurrence.events (ctx.run web (.ofBytes bytes) (.new .unlimited)).occurrences =
      (processed ctx web (identifiers bytes)).flatMap (eventsFor ctx web) := by
  rw [events_run ctx web ⟨rfl, rfl⟩, delivered_ofBytes]

theorem countP_flatMap_eventsFor (ctx : Context) (web : Web) (values : List String) :
    (values.flatMap (eventsFor ctx web)).countP isFallback =
      values.countP fun value => resolves ctx web value && fallsBack ctx web value := by
  induction values with
  | nil => rfl
  | cons value rest ih =>
    rw [List.flatMap_cons, List.countP_append, ih, count_fallbacks_eventsFor, List.countP_cons, Nat.add_comm]
    cases resolves ctx web value && fallsBack ctx web value <;> rfl

/-- There are as many fallbacks in what is told as among the records. -/
theorem count_fallbacks (ctx : Context) (web : Web) (values : List String) :
    ((processed ctx web values).flatMap (eventsFor ctx web)).countP isFallback =
      (resolved ctx web values).countP (fallsBack ctx web) := by
  have front : (resolved ctx web values).countP (fun value => resolves ctx web value && fallsBack ctx web value) =
      (resolved ctx web values).countP (fallsBack ctx web) := by
    apply List.countP_congr
    intro value member
    have succeeds : resolves ctx web value = true := List.mem_takeWhile_imp member
    rw [succeeds, Bool.true_and]
  rw [countP_flatMap_eventsFor, ← front]
  rcases processed_cases ctx web values with ⟨come, all, -⟩ | ⟨before, value, -, failure, -, come, all, -, failed⟩
  · rw [come, all]
  · have last : resolves ctx web value = false := by rw [resolves, failed]; rfl
    rw [come, all, List.countP_append, List.countP_singleton, last]
    rfl

/-! What is shown. -/

theorem shows_upTo (level : Log.Level) (e : Log.Event) :
    (Log.Filter.upTo level).shows e = decide (e.level.rank ≤ level.rank) := by
  simp [Log.Filter.shows, Log.Filter.ruleFor?, Log.Filter.upTo, Log.Filter.better]

theorem ofVerbosity_eq (verbosity : UInt8) : Log.Level.ofVerbosity verbosity = levelFor verbosity.toNat := by
  unfold Log.Level.ofVerbosity
  split
  · rfl
  · rfl
  · rfl
  · rename_i quieter quiet loud
    have named (n : UInt8) (other : verbosity ≠ n) : verbosity.toNat ≠ n.toNat :=
      fun same => other (UInt8.toNat_inj.mp same)
    have zero : verbosity.toNat ≠ 0 := named 0 quieter
    have one : verbosity.toNat ≠ 1 := named 1 quiet
    have two : verbosity.toNat ≠ 2 := named 2 loud
    unfold levelFor
    split <;> first | rfl | contradiction

theorem levelFor_min (times : Nat) : levelFor (min times 255) = levelFor times := by
  by_cases few : times ≤ 255
  · rw [Nat.min_eq_left few]
  · obtain ⟨more, rfl⟩ : ∃ more, times = more + 3 := ⟨times - 3, by omega⟩
    rw [Nat.min_eq_right (by omega)]
    rfl

/-- A run that no environment filters shows the events up to the level that its
command line asks for. -/
theorem shown_of_loudness {arguments : List (List UInt8)} {r : Request} (parsed : parse arguments = .ok r)
    (events : List Log.Event) :
    events.filter (Log.Filter.ofRun none r.verbosity).shows = upTo (levelFor (loudness arguments)) events := by
  have filter : Log.Filter.ofRun none r.verbosity = Log.Filter.upTo (levelFor (loudness arguments)) := by
    have unfiltered : Log.Filter.ofRun none r.verbosity = Log.Filter.upTo (.ofVerbosity r.verbosity) := rfl
    rw [unfiltered, ofVerbosity_eq, (parse_quiet parsed).2, levelFor_min]
  rw [filter, upTo]
  exact List.filter_congr fun e _ => shows_upTo _ e

/-! Lines. -/

theorem feed_notMem_skipped (files : Files) (config : Option (List UInt8)) :
    ∀ e ∈ skipped files config, '\n' ∉ e.text.toList := by
  unfold skipped
  split
  · simp [feed_mem_text_iff, bareTexts]
  · simp

/-- What is told on behalf of a value shows the value, the URL of its page and
what a fetch failed for, and each of these takes one line. -/
theorem feed_notMem_eventsFor (plain : PlainParts ctx.base) (single : '\n' ∉ value.toList) :
    ∀ e ∈ eventsFor ctx web value, '\n' ∉ e.text.toList := by
  unfold eventsFor
  split
  · simp
  split
  · simp
  rename_i url added
  have plainUrl := plain_withSegment plain added
  have page := feed_notMem_of_plain (plain_text plainUrl)
  split
  · rename_i fault failed
    have message := feed_notMem_of_plain (plain_fetch plainUrl failed)
    simp [feed_mem_text_iff, bareTexts, page, feed_mem_noPage, message]
  split
  · simp [feed_mem_text_iff, bareTexts, page]
  · simp [feed_mem_text_iff, bareTexts, page]
  · simp [feed_mem_text_iff, bareTexts, page, single, FallbackReason.text]

/-- The settings of a run are told on more than one line exactly if the domain
holds a line feed. -/
theorem feed_mem_starting_iff (plain : PlainParts ctx.base) :
    '\n' ∈ (Log.Event.text (.starting ctx.base.text ctx.domain ctx.policy)).toList ↔ '\n' ∈ ctx.domain.toList := by
  simp [feed_mem_text_iff, bareTexts, feed_notMem_of_plain (plain_text plain)]

/-! The program. -/

variable {i : Invocation} {r : Request}

theorem run_of_accepted (parsed : parse i.arguments = .ok r) (accepted : Context.ofRequest i.files r = .ok ctx) :
    Program.run i = Program.runIn (skipped i.files r.config) ctx i.web i.input (.ofRun i.logFilter r.verbosity) := by
  rw [Context.ofRequest] at accepted
  rw [Program.run, parsed]
  dsimp only
  rw [Program.runRequest, accepted, ← events_bootstrap]

/-- Each side of the program by itself: what the run wrote, what it asked for,
and what it told, as far as that is shown, with its failure at the end. -/
theorem runIn_eq (before : List Log.Event) (ctx : Context) (web : Web) (input : List UInt8)
    (filter : Log.Filter) :
    let run := ctx.run web (.ofBytes input) (.new .unlimited)
    let told := Program.shown filter (Program.eventsOf before ctx run)
    Program.runIn before ctx web input filter =
      match run.result with
      | .ok _ => ⟨0, run.output.sink.content.toList, told, Occurrence.requests run.occurrences⟩
      | .error failure =>
        ⟨1, run.output.sink.content.toList, told ++ ["error: " ++ failure.message],
          Occurrence.requests run.occurrences⟩ := by
  intro run told
  rw [Program.runIn]
  cases run.result <;> rfl

/-- An event of a run is one on the way to its settings, its beginning, one told
on behalf of a value that it comes to, or its end. -/
theorem mem_eventsOf_iff {before : List Log.Event} {e : Log.Event} (ctx : Context) (web : Web) (bytes : List UInt8) :
    let run := ctx.run web (.ofBytes bytes) (.new .unlimited)
    e ∈ Program.eventsOf before ctx run ↔
      e ∈ before ∨ e = .starting ctx.base.text ctx.domain ctx.policy ∨
        (∃ value ∈ processed ctx web (identifiers bytes), e ∈ eventsFor ctx web value) ∨
        ∃ count, run.result = .ok count ∧ e = .finished count := by
  intro run
  rw [Program.eventsOf, List.append_assoc, List.mem_append, List.cons_append, List.mem_cons, List.mem_append,
    events_whole_run, List.mem_flatMap]
  cases run.result <;> simp

/-- The end is told of a run that succeeded, with its count, and of no other. -/
theorem finished_mem_eventsOf {before : List Log.Event} {count : Nat} (notBefore : .finished count ∉ before)
    (ctx : Context) (web : Web) (input : List UInt8) :
    let run := ctx.run web (.ofBytes input) (.new .unlimited)
    .finished count ∈ Program.eventsOf before ctx run ↔ run.result = .ok count := by
  intro run
  constructor
  · intro told
    rcases (mem_eventsOf_iff ctx web input).mp told with
      among | starting | ⟨value, -, toldOf⟩ | ⟨total, succeeded, same⟩
    · exact absurd among notBefore
    · cases starting
    · exact absurd toldOf (finished_notMem_eventsFor ctx web value count)
    · cases same
      exact succeeded
  · intro succeeded
    exact (mem_eventsOf_iff ctx web input).mpr (.inr (.inr (.inr ⟨count, succeeded, rfl⟩)))

/-- A run over a whole input, by the values that it comes to. -/
theorem run_cases (ctx : Context) (web : Web) (bytes : List UInt8) :
    let values := identifiers bytes
    let run := ctx.run web (.ofBytes bytes) (.new .unlimited)
    (processed ctx web values = values ∧ resolved ctx web values = values ∧ run.result = .ok values.length) ∨
    ∃ before value after failure, values = before ++ value :: after ∧
      processed ctx web values = before ++ [value] ∧ resolved ctx web values = before ∧
      (ctx.resolve web value).result = .error failure ∧ run.result = .error failure := by
  intro values run
  have takes : TakesEverything (Output.new Sink.unlimited).sink := ⟨rfl, rfl⟩
  have result := run_result ctx web takes (.ofBytes bytes)
  rw [delivered_ofBytes] at result
  dsimp only at result
  rcases processed_cases ctx web values with
    ⟨come, whole, unfailing⟩ | ⟨before, value, after, failure, parts, come, front, fails, failed⟩
  · refine .inl ⟨come, whole, ?_⟩
    rw [unfailing, whole] at result
    exact result.trans (congrArg Except.ok (Nat.zero_add _))
  · refine .inr ⟨before, value, after, failure, parts, come, front, failed, ?_⟩
    rw [fails] at result
    exact result

/-- The events of a run over a whole input. -/
theorem eventsOf_eq (before : List Log.Event) (ctx : Context) (web : Web) (bytes : List UInt8) :
    let values := identifiers bytes
    let run := ctx.run web (.ofBytes bytes) (.new .unlimited)
    Program.eventsOf before ctx run =
      before ++ .starting ctx.base.text ctx.domain ctx.policy ::
        (processed ctx web values).flatMap (eventsFor ctx web) ++
          match run.result with
          | .ok _ => [.finished (resolved ctx web values).length]
          | .error _ => [] := by
  intro values run
  rw [Program.eventsOf, events_whole_run]
  rcases run_cases ctx web bytes with ⟨-, all, succeeded⟩ | ⟨_, _, _, failure, -, -, -, -, failed⟩
  · rw [show run.result = .ok values.length from succeeded, show resolved ctx web values = values from all]
  · rw [show run.result = .error failure from failed]

/-- There are as many fallbacks in the events of a run as among its records. -/
theorem count_fallbacks_eventsOf {before : List Log.Event} (noneBefore : before.countP isFallback = 0)
    (ctx : Context) (web : Web) (bytes : List UInt8) :
    (Program.eventsOf before ctx (ctx.run web (.ofBytes bytes) (.new .unlimited))).countP isFallback =
      (resolved ctx web (identifiers bytes)).countP (fallsBack ctx web) := by
  have ending (result : Except Failure Nat) (count : Nat) :
      (match result with
        | .ok _ => [Log.Event.finished count]
        | .error _ => []).countP isFallback = 0 := by
    cases result <;> rfl
  rw [eventsOf_eq, List.countP_append, ending, List.countP_append, noneBefore, List.countP_cons, count_fallbacks,
    Nat.zero_add]
  rfl

/-- Of the events of a run only that of its settings can take more than one line. -/
theorem starting_of_feed_mem (accepted : Context.ofRequest i.files r = .ok ctx) (web : Web) (bytes : List UInt8)
    {e : Log.Event} (shown : '\n' ∈ e.text.toList)
    (told : e ∈ Program.eventsOf (skipped i.files r.config) ctx (ctx.run web (.ofBytes bytes) (.new .unlimited))) :
    e = .starting ctx.base.text ctx.domain ctx.policy := by
  rcases (mem_eventsOf_iff ctx web bytes).mp told with
    before | starting | ⟨value, among, toldOf⟩ | ⟨count, -, rfl⟩
  · exact absurd shown (feed_notMem_skipped _ _ e before)
  · exact starting
  · have single := feed_notMem_identifier (List.mem_of_mem_take among)
    exact absurd shown (feed_notMem_eventsFor (plain_base accepted) single e toldOf)
  · simp [feed_mem_text_iff, bareTexts] at shown

/-- What a run fails for takes one line to tell. -/
theorem feed_notMem_report (accepted : Context.ofRequest i.files r = .ok ctx) {bytes : List UInt8}
    {failure : Failure} (failed : (ctx.run web (.ofBytes bytes) (.new .unlimited)).result = .error failure) :
    '\n' ∉ failure.report.toList := by
  rcases run_cases ctx web bytes with
    ⟨-, -, succeeded⟩ | ⟨before, value, after, cause, parts, -, -, fails, ended⟩
  · cases succeeded.symm.trans failed
  · cases ended.symm.trans failed
    obtain ⟨-, -, rfl⟩ := (resolve_error_iff (context_takesSegments accepted)).mp fails
    have among : value ∈ identifiers bytes := by rw [parts]; simp
    have single := feed_notMem_identifier among
    change '\n' ∉ ("error: " ++ ("no display name found in profile page for `" ++ value ++ "`")).toList
    simp [single]

/-- A message takes more than one line exactly if it is that of the settings and
the domain holds a line feed. -/
theorem feed_mem_message_iff (parsed : parse i.arguments = .ok r) (accepted : Context.ofRequest i.files r = .ok ctx)
    {message : String} (told : message ∈ (Program.run i).messages) :
    '\n' ∈ message.toList ↔
      message = Log.Event.text (.starting ctx.base.text ctx.domain ctx.policy) ∧ '\n' ∈ ctx.domain.toList := by
  have plain := plain_base accepted
  rw [run_of_accepted parsed accepted] at told
  constructor
  · intro feed
    have ofEvent (shown : message ∈ Program.shown (.ofRun i.logFilter r.verbosity)
        (Program.eventsOf (skipped i.files r.config) ctx (ctx.run i.web (.ofBytes i.input) (.new .unlimited)))) :
        message = Log.Event.text (.starting ctx.base.text ctx.domain ctx.policy) := by
      obtain ⟨e, visible, rfl⟩ := List.mem_map.mp shown
      rw [starting_of_feed_mem accepted i.web i.input feed (List.mem_filter.mp visible).1]
    have starting : message = Log.Event.text (.starting ctx.base.text ctx.domain ctx.policy) := by
      rw [Program.runIn] at told
      cases result : (ctx.run i.web (.ofBytes i.input) (.new .unlimited)).result with
      | ok count =>
        rw [result] at told
        exact ofEvent told
      | error failure =>
        rw [result] at told
        rcases List.mem_append.mp told with shown | reported
        · exact ofEvent shown
        · rw [List.mem_singleton.mp reported] at feed
          exact absurd feed (feed_notMem_report accepted result)
    exact ⟨starting, (feed_mem_starting_iff plain).mp (starting ▸ feed)⟩
  · rintro ⟨rfl, inside⟩
    exact (feed_mem_starting_iff plain).mpr inside

/-- **The log tells exactly what happened.** A run tells of its settings, behind
the want of a directory for the user's own if they are asked for and there is
none, of each value that it comes to, in order, and of its end if it succeeds,
with the number of its records. So fallbacks are told as often as records show
the identifier for want of a name. Without a filter of the environment the
messages are those events up to the level that the command line asks for, and the
failure, if there is one. Each takes one line, but for the settings of a run
whose domain holds a line feed. -/
theorem log_tells_what_happened (unfiltered : i.logFilter = none) (parsed : parse i.arguments = .ok r)
    (accepted : Context.ofRequest i.files r = .ok ctx) :
    let values := identifiers i.input
    let run := ctx.run i.web (.ofBytes i.input) (.new .unlimited)
    let events := Program.eventsOf (Occurrence.events (Context.bootstrap i.files r).occurrences) ctx run
    let written := resolved ctx i.web values
    (events = skipped i.files r.config ++ .starting ctx.base.text ctx.domain ctx.policy ::
      (processed ctx i.web values).flatMap (eventsFor ctx i.web) ++
        match run.result with
        | .ok _ => [.finished written.length]
        | .error _ => []) ∧
    (∀ count, .finished count ∈ events ↔ run.result = .ok count) ∧
    ((processed ctx i.web values = values ∧ written = values ∧ run.result = .ok values.length) ∨
      ∃ before value after failure, values = before ++ value :: after ∧
        processed ctx i.web values = before ++ [value] ∧ written = before ∧
        (ctx.resolve i.web value).result = .error failure ∧ run.result = .error failure) ∧
    (∀ value, ∃ url, ctx.base.withSegment? value = some url) ∧
    (Program.run i).records = written.flatMap (lineOf ctx i.web) ∧
    events.countP isFallback = written.countP (fallsBack ctx i.web) ∧
    (∀ value, fallsBack ctx i.web value = true → lineOf ctx i.web value = standInLine ctx value) ∧
    ((Program.run i).messages = (upTo (levelFor (loudness i.arguments)) events).map Log.Event.text ++
      match run.result with
      | .ok _ => []
      | .error failure => ["error: " ++ failure.message]) ∧
    (∀ message ∈ (Program.run i).messages, '\n' ∈ message.toList ↔
      message = Log.Event.text (.starting ctx.base.text ctx.domain ctx.policy) ∧ '\n' ∈ ctx.domain.toList) := by
  intro values run events written
  have takes : TakesEverything (Output.new Sink.unlimited).sink := ⟨rfl, rfl⟩
  have ending := (run_of_accepted parsed accepted).trans (runIn_eq _ ctx i.web i.input _)
  have behind : events = Program.eventsOf (skipped i.files r.config) ctx run := by
    rw [← events_bootstrap]
  refine ⟨behind.trans (eventsOf_eq _ ctx i.web i.input), fun _ => ?_, run_cases ctx i.web i.input, ?_, ?_, ?_,
    fun _ => lineOf_fallsBack, ?_, fun _ => feed_mem_message_iff parsed accepted⟩
  · rw [behind]
    exact finished_mem_eventsOf (finished_notMem_skipped _ _ _) ctx i.web i.input
  · intro value
    cases segment : ctx.base.withSegment? value with
    | some url => exact ⟨url, rfl⟩
    | none =>
      have opens := context_takesSegments accepted
      rw [withSegment?_eq_none_iff.mp segment] at opens
      cases opens
  · have records : (Program.run i).records = run.output.sink.content.toList := by
      rw [ending]
      cases run.result <;> rfl
    rw [records, run_output ctx i.web takes, content_withLines, delivered_ofBytes]
    rfl
  · rw [behind]
    exact count_fallbacks_eventsOf (countP_skipped _ _) ctx i.web i.input
  · rw [ending, unfiltered, Program.shown, shown_of_loudness parsed, behind]
    cases run.result with
    | ok count => exact (List.append_nil _).symm
    | error failure => rfl

/-- Nobody, an author whose page is blank and one whose page is not there, told
at length. -/
def toldAtLength : Invocation where
  arguments := ["-v", "--base-url=http://[::1]/u", "--on-missing-name=fallback", "-v"].map bytesOf
  files := ⟨fun _ => none, some ⟨none⟩⟩
  web := ⟨true, [("http://[::1]/u/x", .page ⟨200, "OK", none, none, [], 0⟩)]⟩
  input := bytesOf "(no author)\nx\ny\n"
  logFilter := none

/-- Two identifiers stand in for names, one behind a warning. -/
theorem log_tells_of_blank_page :
    toldAtLength.logFilter = none ∧
      (Program.run toldAtLength).messages =
        ["DEBUG starting lookup base_url=http://[::1]/u domain=users.sourceforge.net policy=Fallback",
          "DEBUG fetching profile page url=http://[::1]/u/x",
          " WARN profile page has no display name identifier=x",
          " INFO using fallback name identifier=\"x\" reason=profile page has no display name",
          "DEBUG fetching profile page url=http://[::1]/u/y",
          " INFO using fallback name identifier=\"y\" reason=request failed: " ++
            "HTTP status client error (404 ) for url (http://[::1]/u/y)",
          " INFO all identifiers processed count=3"] := by
  let base : Url := ⟨"http", some ⟨"", "", .ipv6 [0, 0, 0, 0, 0, 0, 0, 1], none⟩, .segments false ["u"], none, none⟩
  let asked : Request := ⟨some "http://[::1]/u", none, some .fallback, none, none, 2⟩
  let ctx : Context := ⟨base, none, "users.sourceforge.net", .fallback⟩
  have parsed : parse toldAtLength.arguments = .ok asked := by decide +kernel
  have accepted : Context.ofRequest toldAtLength.files asked = .ok ctx := by decide +kernel
  have succeeds : (ctx.run toldAtLength.web (.ofBytes toldAtLength.input) (.new .unlimited)).result = .ok 3 := by
    decide +kernel
  obtain ⟨-, -, -, -, -, -, -, shown, -⟩ := log_tells_what_happened rfl parsed accepted
  rw [succeeds] at shown
  refine ⟨rfl, shown.trans ?_⟩
  decide +kernel

/-- Nothing to look up, told at length to a user without a directory for settings. -/
def toldWithoutDirectory : Invocation where
  arguments := ["-vv", "--base-url=x:/u"].map bytesOf
  files := ⟨fun _ => none, none⟩
  web := .unreachable
  input := []
  logFilter := none

/-- The same to a user with one, for a domain of two lines. -/
def toldOfTwoLines : Invocation :=
  { toldWithoutDirectory with
    arguments := ["-vv", "--base-url=x:/u", "--domain=a\nerror: b"].map bytesOf
    files := ⟨fun _ => none, some ⟨none⟩⟩ }

/-- The lines of all that the program tells. -/
def toldLines (i : Invocation) : List String :=
  (Program.run i).messages.flatMap fun message => (Text.lines (message ++ "\n").toList).map String.ofList

/-- The events from the beginning of a run that succeeds to its end. -/
def fromStart (ctx : Context) (i : Invocation) : List Log.Event :=
  let values := identifiers i.input
  .starting ctx.base.text ctx.domain ctx.policy ::
    (processed ctx i.web values).flatMap (eventsFor ctx i.web) ++ [.finished (resolved ctx i.web values).length]

/-- The log of a run that succeeds may say more than the run does, since a user
without a directory for settings is told of that first; and one event may take
two lines. -/
theorem log_says_more_than_the_run :
    let base : Url := ⟨"x", none, .segments false ["u"], none, none⟩
    let usual : Context := ⟨base, none, "users.sourceforge.net", .abort⟩
    let twoLine : Context := ⟨base, none, "a\nerror: b", .abort⟩
    let asked : Request := ⟨some "x:/u", none, none, none, none, 2⟩
    let askedTwoLine : Request := ⟨some "x:/u", some "a\nerror: b", none, none, none, 2⟩
    (parse toldWithoutDirectory.arguments = .ok asked ∧
      Context.ofRequest toldWithoutDirectory.files asked = .ok usual ∧
      (Program.run toldWithoutDirectory).exitCode = 0 ∧
      toldLines toldWithoutDirectory =
        ["DEBUG skipping user settings: configuration error: unable to resolve config directory",
          "DEBUG starting lookup base_url=x:/u domain=users.sourceforge.net policy=Abort",
          " INFO all identifiers processed count=0"] ∧
      toldLines toldWithoutDirectory ≠ (fromStart usual toldWithoutDirectory).map Log.Event.text) ∧
    (parse toldOfTwoLines.arguments = .ok askedTwoLine ∧
      Context.ofRequest toldOfTwoLines.files askedTwoLine = .ok twoLine ∧
      (Program.run toldOfTwoLines).exitCode = 0 ∧
      toldLines toldOfTwoLines =
        ["DEBUG starting lookup base_url=x:/u domain=a", "error: b policy=Abort",
          " INFO all identifiers processed count=0"] ∧
      toldLines toldOfTwoLines ≠ (fromStart twoLine toldOfTwoLines).map Log.Event.text) := by
  decide +kernel

end AuthorNames.EventLog
