import AuthorNames.Failure
import AuthorNames.Text.Utf8
/-!
Where bytes are written to. A sink may hold only so many bytes, and it may fail when it is flushed;
what it holds and how often it was flushed can always be seen.
-/

namespace AuthorNames

/-- What a full sink does with more bytes. -/
inductive Overflow where
  /-- It takes none of them. -/
  | takesNothing
  | fails
  deriving DecidableEq, Repr

/-- What goes wrong when bytes do not fit. -/
def Overflow.fault : Overflow → IoFault
  | .takesNothing => .wroteNothing
  | .fails => .reported "sink full"

/-- A sink and what it holds. -/
structure Sink where
  /-- The most bytes that it holds, `none` for any number. -/
  capacity : Option Nat
  overflow : Overflow
  /-- Which flush fails, counted from one. -/
  failingFlush : Option Nat
  content : Array UInt8
  flushes : Nat
  deriving DecidableEq, Repr

namespace Sink

/-- An empty sink that takes everything. -/
def unlimited : Sink :=
  ⟨none, .takesNothing, none, #[], 0⟩

/-- Whether so many more bytes fit. -/
def hasRoomFor (s : Sink) (count : Nat) : Bool :=
  s.capacity.all fun capacity => s.content.size + count ≤ capacity

/-- Writes bytes. Of those that do not fit the first ones are taken, as many as there is room for. -/
def write (s : Sink) (bytes : List UInt8) : Sink × Option IoFault :=
  if s.hasRoomFor bytes.length then ({ s with content := s.content ++ bytes.toArray }, none)
  else
    let room := s.capacity.getD 0 - s.content.size
    ({ s with content := s.content ++ (bytes.take room).toArray }, some s.overflow.fault)

/-- Flushes. One that fails counts too. -/
def flush (s : Sink) : Sink × Option IoFault :=
  ({ s with flushes := s.flushes + 1 },
    if s.failingFlush = some (s.flushes + 1) then some (.reported "flush failed") else none)

/-- Writes a line and flushes; a line that does not fit is not flushed. -/
def writeLine (s : Sink) (line : String) : Sink × Option IoFault :=
  match s.write (Text.Utf8.bytesOf line ++ [10]) with
  | (s, some fault) => (s, some fault)
  | (s, none) => s.flush

end Sink

end AuthorNames
