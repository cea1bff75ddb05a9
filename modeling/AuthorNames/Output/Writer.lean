import AuthorNames.Output.Basic
/-!
Anything that bytes can be written to. A writer may take fewer bytes than it is offered; it is then
offered the others, until it has taken them all, takes none, or fails. A sink is one such writer.
-/

namespace AuthorNames

/-- What a writer does, on states of its own. -/
structure Writer (σ : Type) where
  /-- How many of the bytes that it is offered it takes, the first ones, or why it takes none. -/
  offer : σ → List UInt8 → σ × Except IoFault Nat
  flush : σ → σ × Option IoFault

/-- The state of a writer, and how many records were written to it. -/
structure Tally (σ : Type) where
  state : σ
  written : Nat

namespace Writer

variable {σ : Type} (w : Writer σ)

/-- Writes bytes, as many at a time as are taken. To take none of them is a fault. -/
def writeAll (s : σ) : List UInt8 → σ × Option IoFault
  | [] => (s, none)
  | byte :: rest =>
    match w.offer s (byte :: rest) with
    | (s, .error fault) => (s, some fault)
    | (s, .ok 0) => (s, some .wroteNothing)
    | (s, .ok (more + 1)) => writeAll s (rest.drop more)
  termination_by bytes => bytes.length
  decreasing_by simp only [List.length_drop, List.length_cons]; omega

/-- Writes a line and then the line feed, and flushes. -/
def writeLine (s : σ) (line : String) : σ × Option IoFault :=
  match w.writeAll s (Text.Utf8.bytesOf line) with
  | (s, some fault) => (s, some fault)
  | (s, none) =>
    match w.writeAll s [10] with
    | (s, some fault) => (s, some fault)
    | (s, none) => w.flush s

/-- Writes a record, which counts once its line is written and flushed. -/
def emit (t : Tally σ) (record : Record) : Tally σ × Option IoFault :=
  match w.writeLine t.state record.text with
  | (s, some fault) => (⟨s, t.written⟩, some fault)
  | (s, none) => (⟨s, t.written + 1⟩, none)

end Writer

namespace Sink

/-- What a full sink answers to an offer. -/
def refusal (s : Sink) : Except IoFault Nat :=
  match s.overflow with
  | .takesNothing => .ok 0
  | .fails => .error s.overflow.fault

/-- The first of the bytes, as many as fit. -/
def fitting (s : Sink) (bytes : List UInt8) : List UInt8 :=
  match s.capacity with
  | none => bytes
  | some capacity => bytes.take (capacity - s.content.size)

/-- Takes what fits of an offer. -/
def offer (s : Sink) (bytes : List UInt8) : Sink × Except IoFault Nat :=
  let taken := s.fitting bytes
  if taken.isEmpty then (s, s.refusal)
  else ({ s with content := s.content ++ taken.toArray }, .ok taken.length)

/-- A sink as a writer. -/
def writer : Writer Sink :=
  ⟨offer, flush⟩

end Sink

end AuthorNames
