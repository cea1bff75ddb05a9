import AuthorNames.Output.Sink
import AuthorNames.Record
/-!
Records on their way out. Each is written and flushed on its own, so what a run wrote before it ended
is there whatever ended it; a record counts as written when both worked.
-/

namespace AuthorNames

/-- A sink for records, and how many were written. -/
structure Output where
  sink : Sink
  written : Nat
  deriving DecidableEq, Repr

namespace Output

/-- An output that has written nothing. -/
def new (sink : Sink) : Output :=
  ⟨sink, 0⟩

/-- Writes a record. -/
def emit (o : Output) (record : Record) : Output × Option IoFault :=
  match o.sink.writeLine record.text with
  | (sink, some fault) => (⟨sink, o.written⟩, some fault)
  | (sink, none) => (⟨sink, o.written + 1⟩, none)

end Output

end AuthorNames
