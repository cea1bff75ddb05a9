import AuthorNames.Failure
import AuthorNames.Log.Event
/-!
What happened while something was done, in order: the pages asked for and the events told. Both are
read off one list, so their order among each other is not lost.
-/

namespace AuthorNames

/-- One thing that happened. -/
inductive Occurrence where
  | asked (url : String)
  | told (event : Log.Event)
  deriving DecidableEq, Repr

namespace Occurrence

/-- The URL that was asked for. -/
def request? : Occurrence → Option String
  | .asked url => some url
  | .told _ => none

/-- The event that was told. -/
def event? : Occurrence → Option Log.Event
  | .asked _ => none
  | .told event => some event

/-- The URLs that were asked for, in order. -/
def requests (occurrences : List Occurrence) : List String :=
  occurrences.filterMap request?

/-- The events that were told, in order. -/
def events (occurrences : List Occurrence) : List Log.Event :=
  occurrences.filterMap event?

end Occurrence

/-- What happened, and what came of it. -/
structure Account (α : Type) where
  occurrences : List Occurrence
  result : Except Failure α

end AuthorNames
