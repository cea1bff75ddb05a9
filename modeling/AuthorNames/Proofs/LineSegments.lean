import AuthorNames.Input
import Mathlib.Data.List.DropRight

/-! The lines that are read byte by byte are the pieces of the bytes between
line feeds, however the bytes are delivered. A failure of the input leaves the
lines of the bytes up to the last line feed, and nothing of what follows it. -/
namespace AuthorNames.LineSegments
open AuthorNames.Input

/-- The pieces of the bytes between line feeds. An empty last one is none, so
neither empty bytes nor a line feed at the end make a piece of their own. -/
def segments (bytes : List UInt8) : List (List UInt8) :=
  let pieces := bytes.splitOn 10
  if pieces.getLast? = some [] then pieces.dropLast else pieces

/-- The bytes up to the last line feed and that line feed itself. -/
def upToLastFeed (bytes : List UInt8) : List UInt8 :=
  bytes.rdropWhile (· ≠ 10)

/-- The bytes that are read as lines: all of them, unless a failure cuts the
last line off. -/
def delivered (input : Input) : List UInt8 :=
  if input.failure.isSome then upToLastFeed input.pieces.flatten else input.pieces.flatten

/-- The identifiers that the bytes list, one to a segment: the segment's text
without the blanks around it. -/
def identifiers (bytes : List UInt8) : List String :=
  (segments bytes).map fun segment => String.ofList (Text.trimmed (Text.Utf8.decodeLossy segment))

/-- Reading on cuts the bytes at their line feeds, and what was pending becomes
the beginning of the first piece. -/
theorem read_cuts_at_feeds (bytes : List UInt8) (p : Progress) :
    (bytes.foldl Progress.read p).ended.toList ++ [(bytes.foldl Progress.read p).pending.toList] =
      p.ended.toList ++ (bytes.splitOn 10).modifyHead (p.pending.toList ++ ·) := by
  -- Over any progress, since each byte changes what the bytes behind it meet.
  induction bytes generalizing p with
  | nil => simp [List.splitOn_nil]
  | cons byte rest ih =>
    rw [List.foldl_cons, ih, List.splitOn_cons_eq_if_modifyHead]
    by_cases feed : byte = 10
    · have whole : (rest.splitOn 10).modifyHead (fun piece => piece) = rest.splitOn 10 := by
        cases rest.splitOn 10 <;> rfl
      simp [Progress.read, feed, whole]
    · simp [Progress.read, feed, Function.comp_def]

/-- The pieces in which bytes arrive leave no trace in what has been read. -/
theorem pieces_read_as_one (pieces : List (List UInt8)) (p : Progress) :
    pieces.foldl Progress.readPiece p = pieces.flatten.foldl Progress.read p := by
  induction pieces generalizing p with
  | nil => rfl
  | cons piece rest ih => rw [List.foldl_cons, ih, List.flatten_cons, List.foldl_append, Progress.readPiece]

theorem progress_of_pieces (pieces : List (List UInt8)) :
    let p := pieces.foldl Progress.readPiece .start
    p.ended.toList = (pieces.flatten.splitOn 10).dropLast ∧
      (pieces.flatten.splitOn 10).getLast? = some p.pending.toList := by
  have cut := read_cuts_at_feeds pieces.flatten .start
  rw [← pieces_read_as_one] at cut
  have whole : (pieces.flatten.splitOn 10).modifyHead (Progress.start.pending.toList ++ ·) =
      pieces.flatten.splitOn 10 := by
    cases pieces.flatten.splitOn 10 <;> rfl
  rw [whole] at cut
  simp only [Progress.start, List.nil_append] at cut
  simp [← cut, Progress.start]

theorem lines_of_unbroken (input : Input) (unbroken : input.failure = none) :
    input.lines = segments input.pieces.flatten := by
  obtain ⟨ended, pending⟩ := progress_of_pieces input.pieces
  simp only [Input.lines, segments, unbroken, Option.isSome_none, Bool.false_eq_true, or_false, pending,
    Option.some.injEq, Array.isEmpty_iff, ← Array.toList_eq_nil_iff, ended]
  split
  · rfl
  · exact List.dropLast_append_getLast? _ pending

/-- Bytes without a line feed are one piece, and a failure leaves none of it. -/
private theorem segments_of_feedless {bytes : List UInt8} (feedless : 10 ∉ bytes) :
    segments (upToLastFeed bytes) = (bytes.splitOn 10).dropLast := by
  have cut : upToLastFeed bytes = [] := by
    rw [upToLastFeed, List.rdropWhile_eq_nil_iff]
    intro byte member
    simpa using fun feed : byte = 10 => feedless (feed ▸ member)
  rw [cut, List.splitOn_eq_singleton feedless]
  rfl

/-- What follows the last line feed is the last piece. -/
private theorem segments_before_feed {front back : List UInt8} (feedless : 10 ∉ back) :
    segments (upToLastFeed (front ++ 10 :: back)) = ((front ++ 10 :: back).splitOn 10).dropLast := by
  have cut : upToLastFeed (front ++ 10 :: back) = front ++ [10] := by
    have drops : ∀ byte ∈ back.reverse, decide (byte ≠ 10) = true := by
      intro byte member
      simpa using fun feed : byte = 10 => feedless (feed ▸ List.mem_reverse.mp member)
    rw [upToLastFeed, List.rdropWhile, List.reverse_append, List.reverse_cons, List.append_assoc,
      List.dropWhile_append_of_pos drops]
    simp
  rw [cut, List.splitOn_append_cons_self, List.splitOn_eq_singleton feedless, segments,
    List.splitOn_append_cons_self]
  simp [List.splitOn_nil]

/-- Up to the last line feed there are all pieces but the last. -/
theorem segments_upToLastFeed (bytes : List UInt8) :
    segments (upToLastFeed bytes) = (bytes.splitOn 10).dropLast := by
  by_cases feeds : 10 ∈ bytes
  · obtain ⟨back, front, cut, feedless⟩ := List.eq_append_cons_of_mem (List.mem_reverse.mpr feeds)
    have whole : bytes = front.reverse ++ 10 :: back.reverse := by
      rw [← List.reverse_reverse bytes, cut]
      simp
    rw [whole]
    exact segments_before_feed (fun member => feedless (List.mem_reverse.mp member))
  · exact segments_of_feedless feeds

/-- The lines of an input are the segments of what is delivered. -/
theorem lines_are_segments (input : Input) : input.lines = segments (delivered input) := by
  cases failure : input.failure with
  | none => rw [lines_of_unbroken input failure, delivered, failure]; rfl
  | some reason =>
    have cut : delivered input = upToLastFeed input.pieces.flatten := by rw [delivered, failure]; rfl
    rw [cut, segments_upToLastFeed, ← (progress_of_pieces input.pieces).1]
    simp [Input.lines, failure]

theorem values_are_identifiers (input : Input) : input.values = identifiers (delivered input) := by
  rw [Input.values, lines_are_segments]
  rfl

@[simp] theorem delivered_ofBytes (bytes : List UInt8) : delivered (.ofBytes bytes) = bytes := by
  simp [delivered, ofBytes]

theorem length_identifiers (bytes : List UInt8) : (identifiers bytes).length = (segments bytes).length :=
  List.length_map _

private theorem feed_notMem_piece {bytes piece : List UInt8} (member : piece ∈ bytes.splitOn 10) :
    10 ∉ piece := by
  induction bytes generalizing piece with
  | nil =>
    rw [List.splitOn_nil, List.mem_singleton] at member
    simp [member]
  | cons byte rest ih =>
    rw [List.splitOn_cons_eq_if_modifyHead] at member
    obtain ⟨first, others, pieces⟩ := List.exists_cons_of_ne_nil (List.splitOn_ne_nil (10 : UInt8) rest)
    rw [pieces] at ih member
    split at member
    · rcases List.mem_cons.mp member with rfl | member
      · simp
      · exact ih member
    · rename_i feedless
      rw [List.modifyHead_cons] at member
      rcases List.mem_cons.mp member with rfl | member
      · have inside := ih (List.mem_cons_self (a := first))
        simp only [List.mem_cons, not_or]
        exact ⟨fun feed => feedless (by simp [feed]), inside⟩
      · exact ih (List.mem_cons_of_mem _ member)

/-- A segment is a part of one line, so it holds no line feed. -/
theorem feed_notMem_segment {bytes segment : List UInt8} (member : segment ∈ segments bytes) :
    10 ∉ segment := by
  rw [segments] at member
  split at member
  · exact feed_notMem_piece ((List.dropLast_sublist _).subset member)
  · exact feed_notMem_piece member

end AuthorNames.LineSegments
