import AuthorNames.Log.Filter
import AuthorNames.Run
/-!
The program: a command line, the files, the input and the web go in, and what is written to either
side and the exit status come out. Records go to one side, and what is told about the run, the fault
of a command line and the failure at the end go to the other.
-/

namespace AuthorNames

/-- What the program is started with. -/
structure Invocation where
  arguments : List (List UInt8)
  files : Files
  web : Web
  input : List UInt8
  /-- The filter of events that the environment asks for. -/
  logFilter : Option String

/-- What came of it. -/
structure Ending where
  exitCode : Nat
  records : List UInt8
  /-- What was told, as far as it is shown, and what went wrong at last. -/
  messages : List String
  requests : List String
  deriving DecidableEq, Repr

/-- How a failure is reported at the end. -/
def Failure.report (failure : Failure) : String :=
  "error: " ++ failure.message

namespace Program

/-- The events of a run, behind those on the way to its settings: its beginning, what happened, and
its end if it got there. -/
def eventsOf (before : List Log.Event) (ctx : Context) (run : Context.Run) : List Log.Event :=
  before ++ .starting ctx.base.text ctx.domain ctx.policy :: Occurrence.events run.occurrences ++
    match run.result with
    | .ok count => [.finished count]
    | .error _ => []

/-- What is told of events: those that a filter shows, as they are written. -/
def shown (filter : Log.Filter) (events : List Log.Event) : List String :=
  (events.filter filter.shows).map Log.Event.text

/-- The program from settings that can be used, behind the events on the way to them. -/
def runIn (before : List Log.Event) (ctx : Context) (web : Web) (input : List UInt8)
    (filter : Log.Filter) : Ending :=
  let run := ctx.run web (.ofBytes input) (.new .unlimited)
  let told := shown filter (eventsOf before ctx run)
  let records := run.output.sink.content.toList
  let requests := Occurrence.requests run.occurrences
  match run.result with
  | .ok _ => ⟨0, records, told, requests⟩
  | .error failure => ⟨1, records, told ++ [failure.report], requests⟩

/-- The program from a command line that asks for a run. -/
def runRequest (i : Invocation) (r : CommandLine.Request) : Ending :=
  let settings := Context.bootstrap i.files r
  let before := Occurrence.events settings.occurrences
  let filter := Log.Filter.ofRun i.logFilter r.verbosity
  match settings.result with
  | .error failure => ⟨1, [], shown filter before ++ [failure.report], []⟩
  | .ok ctx => runIn before ctx i.web i.input filter

/-- The program without a run. -/
def stop (s : CommandLine.Stop) : Ending :=
  match s with
  | .fault fault => ⟨s.exitCode, [], [fault.message], []⟩
  | _ => ⟨s.exitCode, Text.Utf8.bytesOf s.message, [], []⟩

/-- The program. -/
def run (i : Invocation) : Ending :=
  match CommandLine.parse i.arguments with
  | .error s => stop s
  | .ok r => runRequest i r

end Program

end AuthorNames
