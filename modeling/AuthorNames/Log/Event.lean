import AuthorNames.Outcome
import AuthorNames.Settings.Basic
import AuthorNames.Text.Quoted
/-!
What a run tells about itself as it goes. An event has a level, which says how much it matters, and a
source, the part of the program that tells it.
-/

namespace AuthorNames.Log

/-- How much an event matters, from the most to the least. -/
inductive Level where
  | error | warn | info | debug | trace
  deriving DecidableEq, Repr

/-- The place of a level, counted from the one that matters most. -/
def Level.rank : Level → Nat
  | .error => 1
  | .warn => 2
  | .info => 3
  | .debug => 4
  | .trace => 5

/-- The name of a level where one is asked for. -/
def Level.name : Level → String
  | .error => "error"
  | .warn => "warn"
  | .info => "info"
  | .debug => "debug"
  | .trace => "trace"

/-- The last level that is shown when `-v` is given that many times. -/
def Level.ofVerbosity : UInt8 → Level
  | 0 => .warn
  | 1 => .info
  | 2 => .debug
  | _ => .trace

/-- The level as it stands in front of an event, five characters wide. -/
def Level.label : Level → String
  | .error => "ERROR"
  | .warn => " WARN"
  | .info => " INFO"
  | .debug => "DEBUG"
  | .trace => "TRACE"

/-- Something that a run tells. -/
inductive Event where
  | skippingSettings (reason : String)
  | starting (base domain : String) (policy : MissingNamePolicy)
  | fetching (url : String)
  | nameless (identifier : String)
  | fallingBack (identifier : String) (reason : FallbackReason)
  | finished (count : Nat)
  deriving DecidableEq, Repr

/-- The policy as events show it. -/
def policyName : MissingNamePolicy → String
  | .abort => "Abort"
  | .fallback => "Fallback"

namespace Event

/-- How much the event matters. -/
def level : Event → Level
  | .skippingSettings _ => .debug
  | .starting .. => .debug
  | .fetching _ => .debug
  | .nameless _ => .warn
  | .fallingBack .. => .info
  | .finished _ => .info

/-- The part of the program that tells the event. -/
def source : Event → String
  | .skippingSettings _ => "authormap::config"
  | .starting .. => "authormap::app"
  | .fetching _ => "authormap::api::client"
  | .nameless _ => "authormap::pipeline"
  | .fallingBack .. => "authormap::pipeline"
  | .finished _ => "authormap::app"

/-- What is said of settings that are skipped. -/
def skippedFor (reason : String) : String :=
  "skipping user settings: " ++ reason

/-- What happened. -/
def title : Event → String
  | .skippingSettings reason => skippedFor reason
  | .starting .. => "starting lookup"
  | .fetching _ => "fetching profile page"
  | .nameless _ => "profile page has no display name"
  | .fallingBack .. => "using fallback name"
  | .finished _ => "all identifiers processed"

/-- The particulars of the event by name. -/
def details : Event → List (String × String)
  | .skippingSettings _ => []
  | .starting base domain policy =>
    [("base_url", base), ("domain", domain), ("policy", policyName policy)]
  | .fetching url => [("url", url)]
  | .nameless identifier => [("identifier", identifier)]
  | .fallingBack identifier reason =>
    [("identifier", Text.Quoted.quote identifier), ("reason", reason.text)]
  | .finished count => [("count", toString count)]

/-- The event as it is told. -/
def text (e : Event) : String :=
  e.level.label ++ " " ++ e.title ++ String.join (e.details.map fun d => " " ++ d.1 ++ "=" ++ d.2)

end Event

end AuthorNames.Log
