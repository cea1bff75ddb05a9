import AuthorNames.Text.Blank
import AuthorNames.Text.Utf8
/-!
The values that a run is given, one to a line. The bytes arrive in pieces that need not end where a
line does; a line ends at a line feed or at the end of the input, and a line that a failure cuts off
is lost.
-/

namespace AuthorNames

/-- Bytes in the pieces in which they arrive, and the failure that ends them, if one does. -/
structure Input where
  pieces : List (List UInt8)
  failure : Option String
  deriving DecidableEq, Repr

namespace Input

/-- Bytes that arrive all at once. -/
def ofBytes (bytes : List UInt8) : Input :=
  ⟨[bytes], none⟩

/-- The lines that have ended, and the one that has not. -/
structure Progress where
  ended : Array (List UInt8)
  pending : Array UInt8
  deriving DecidableEq, Repr

/-- No line has begun. -/
def Progress.start : Progress :=
  ⟨#[], #[]⟩

/-- One byte. -/
def Progress.read (p : Progress) (byte : UInt8) : Progress :=
  if byte = 10 then ⟨p.ended.push p.pending.toList, #[]⟩ else ⟨p.ended, p.pending.push byte⟩

/-- One piece, byte by byte. -/
def Progress.readPiece (p : Progress) (piece : List UInt8) : Progress :=
  piece.foldl Progress.read p

/-- The lines of the input. A last line without a line feed is one if it is not empty and no failure
cut it off. -/
def lines (input : Input) : List (List UInt8) :=
  let p := input.pieces.foldl Progress.readPiece .start
  if p.pending.isEmpty ∨ input.failure.isSome then p.ended.toList
  else p.ended.toList ++ [p.pending.toList]

/-- The value on a line: its text without the blanks around it. Bytes that are no text are
replaced. -/
def valueOf (line : List UInt8) : String :=
  String.ofList (Text.trimmed (Text.Utf8.decodeLossy line))

/-- The values of the input, in order. -/
def values (input : Input) : List String :=
  input.lines.map valueOf

end Input

end AuthorNames
