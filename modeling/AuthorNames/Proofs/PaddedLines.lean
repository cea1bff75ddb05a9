import AuthorNames.Proofs.DecodedLines
import AuthorNames.Proofs.InputDelivery
import AuthorNames.Proofs.WordCollapse
import Mathlib.Data.List.Forall2

/-! Blanks around a line leave no trace. They are read as blanks even next to a
character that the line broke off, and trimming takes them away with those that
were there before, so a run over padded lines is the run over the lines. A
carriage return in front of a line feed is such a blank. -/
namespace AuthorNames.PaddedLines
open AuthorNames.CharacterBoundaries AuthorNames.DecodedLines AuthorNames.InputDelivery
open AuthorNames.LineSegments
open AuthorNames.RunReference (localContext)
open AuthorNames.Text (isBlank trimmed)
open AuthorNames.Text.Utf8
open AuthorNames.WordCollapse (Blank)

variable {σ : Type}

/-- A line with blanks put around it, in UTF-8; the line itself may be any
bytes. -/
def IsPadded (line padded : List UInt8) : Prop :=
  ∃ front back, Blank front ∧ Blank back ∧ padded = encode front ++ line ++ encode back

theorem trimmed_blank_append {front : List Char} (blank : Blank front) (text : List Char) :
    trimmed (front ++ text) = trimmed text := by
  rw [trimmed, List.dropWhile_append_of_pos blank, ← trimmed]

theorem trimmed_append_blank {back : List Char} (blank : Blank back) (text : List Char) :
    trimmed (text ++ back) = trimmed text := by
  have gone : back.dropWhile isBlank = [] := List.dropWhile_eq_nil_iff.mpr blank
  rw [trimmed, trimmed, List.dropWhile_append, gone]
  split
  · rename_i empty
    rw [List.isEmpty_iff.mp empty]
  · have reversed : ∀ c ∈ back.reverse, isBlank c = true :=
      fun c member => blank c (List.mem_reverse.mp member)
    rw [List.reverse_append, List.dropWhile_append_of_pos reversed]

/-- Blanks around a line change nothing about its value. -/
theorem valueOf_padded {line padded : List UInt8} (pads : IsPadded line padded) :
    Input.valueOf padded = Input.valueOf line := by
  obtain ⟨front, back, blankFront, blankBack, rfl⟩ := pads
  rw [Input.valueOf, Input.valueOf, decodeLossy_append_encode, decodeLossy_encode_append,
    trimmed_append_blank blankBack, trimmed_blank_append blankFront]

theorem map_valueOf_padded {lines padded : List (List UInt8)} (pads : List.Forall₂ IsPadded lines padded) :
    padded.map Input.valueOf = lines.map Input.valueOf := by
  induction pads with
  | nil => rfl
  | cons pads later ih => rw [List.map_cons, List.map_cons, valueOf_padded pads, ih]

/-- Two inputs of the same values that end alike are run alike. -/
theorem run_congr {first second : Input} (values : first.values = second.values)
    (failure : first.failure = second.failure) (ctx : Context) (web : Web) (output : Output) :
    ctx.run web first output = ctx.run web second output := by
  rw [Context.run, Context.run, values, failure]

theorem stream_congr {first second : Input} (values : first.values = second.values)
    (failure : first.failure = second.failure) (w : Writer σ) (ctx : Context) (web : Web)
    (output : Tally σ) : ctx.stream web w first output = ctx.stream web w second output := by
  rw [stream_drains, stream_drains, values, failure]

/-- The bytes with a carriage return in front of every line feed. -/
def withReturns (bytes : List UInt8) : List UInt8 :=
  bytes.flatMap fun byte => if byte = 10 then [13, 10] else [byte]

theorem withReturns_feedless {bytes : List UInt8} (feedless : 10 ∉ bytes) : withReturns bytes = bytes := by
  induction bytes with
  | nil => rfl
  | cons byte rest ih =>
    obtain ⟨other, later⟩ := List.ne_and_not_mem_of_not_mem_cons feedless
    rw [withReturns, List.flatMap_cons, if_neg other.symm, ← withReturns, ih later]
    rfl

theorem flatten_withReturns (pieces : List (List UInt8)) :
    (pieces.map withReturns).flatten = withReturns pieces.flatten := by
  induction pieces with
  | nil => rfl
  | cons piece rest ih => simp only [List.map_cons, List.flatten_cons, ih, withReturns, List.flatMap_append]

/-- Every piece that a line feed ends gets a carriage return; the last is left
as it is. -/
theorem pieces_withReturns (bytes : List UInt8) :
    ∃ ended last, bytes.splitOn 10 = ended ++ [last] ∧
      (withReturns bytes).splitOn 10 = ended.map (· ++ [13]) ++ [last] := by
  induction bytes using line_induction with
  | feedless bytes feedless =>
    refine ⟨[], bytes, ?_, ?_⟩
    · exact List.splitOn_eq_singleton feedless
    · rw [withReturns_feedless feedless]
      exact List.splitOn_eq_singleton feedless
  | line front back feedless ih =>
    obtain ⟨ended, last, pieces, returned⟩ := ih
    have cut : withReturns (front ++ 10 :: back) = (front ++ [13]) ++ 10 :: withReturns back := by
      rw [withReturns, List.flatMap_append, List.flatMap_cons, ← withReturns, ← withReturns,
        withReturns_feedless feedless]
      simp
    have longer : 10 ∉ front ++ [13] := by simpa using feedless
    refine ⟨front :: ended, last, ?_, ?_⟩
    · rw [List.splitOn_append_cons_self, List.splitOn_eq_singleton feedless, pieces]
      rfl
    · rw [cut, List.splitOn_append_cons_self, List.splitOn_eq_singleton longer, returned]
      rfl

theorem isPadded_return (line : List UInt8) : IsPadded line (line ++ [13]) :=
  ⟨[], ['\r'], by decide, by decide, rfl⟩

theorem isPadded_self (line : List UInt8) : IsPadded line line :=
  ⟨[], [], by decide, by decide, by simp [encode]⟩

theorem forall₂_return (lines : List (List UInt8)) :
    List.Forall₂ IsPadded lines (lines.map (· ++ [13])) :=
  List.forall₂_map_right_iff.mpr (List.forall₂_same.mpr fun line _ => isPadded_return line)

/-- With a carriage return in front of each line feed the lines are padded. -/
theorem lines_withReturns (input : Input) :
    List.Forall₂ IsPadded input.lines (Input.lines ⟨input.pieces.map withReturns, input.failure⟩) := by
  obtain ⟨ended, last, pieces, returned⟩ := pieces_withReturns input.pieces.flatten
  rw [lines_are_segments, lines_are_segments, delivered, delivered, flatten_withReturns]
  split
  · rw [segments_upToLastFeed, segments_upToLastFeed, pieces, returned, List.dropLast_concat,
      List.dropLast_concat]
    exact forall₂_return ended
  · simp only [segments, pieces, returned, List.getLast?_concat, List.dropLast_concat]
    split
    · exact forall₂_return ended
    · exact List.rel_append (forall₂_return ended) (.cons (isPadded_self last) .nil)

/-- **Blanks around lines leave no trace.** Whatever blanks are put around the
lines of an input, each line with its own, the run comes to the same: result,
output, count and all that happened, over any writer. So it does with a
carriage return in front of every line feed; and the value of no author is that
also between blanks. -/
theorem padding_leaves_no_trace (w : Writer σ) (ctx : Context) (web : Web) (output : Tally σ)
    (sink : Output) :
    (∀ input padded : Input, padded.failure = input.failure →
      List.Forall₂ IsPadded input.lines padded.lines →
      ctx.stream web w padded output = ctx.stream web w input output ∧
        ctx.run web padded sink = ctx.run web input sink) ∧
    (∀ input : Input,
      ctx.stream web w ⟨input.pieces.map withReturns, input.failure⟩ output = ctx.stream web w input output ∧
        ctx.run web ⟨input.pieces.map withReturns, input.failure⟩ sink = ctx.run web input sink) ∧
    ∀ front back : List Char, Blank front → Blank back →
      Identity.of (Input.valueOf (encode front ++ bytesOf noAuthor ++ encode back)) = .nobody := by
  have padding (input padded : Input) (ends : padded.failure = input.failure)
      (lines : List.Forall₂ IsPadded input.lines padded.lines) :
      ctx.stream web w padded output = ctx.stream web w input output ∧
        ctx.run web padded sink = ctx.run web input sink := by
    have values : padded.values = input.values := map_valueOf_padded lines
    exact ⟨stream_congr values ends w ctx web output, run_congr values ends ctx web sink⟩
  refine ⟨padding, fun input => padding input _ rfl (lines_withReturns input), ?_⟩
  intro front back blankFront blankBack
  have alone : Input.valueOf (bytesOf noAuthor) = noAuthor := by decide +kernel
  rw [valueOf_padded ⟨front, back, blankFront, blankBack, rfl⟩, alone, Identity.of, if_pos rfl]

/-- A broken character between two wide blanks, nobody with a carriage return,
and a last line that a separator of lines follows. -/
theorem padding_leaves_no_trace_around_a_broken_character :
    let lines := [[0xE2, 0x82], bytesOf "(no author)", bytesOf "x"]
    let padded := [encode ['\u3000'] ++ [0xE2, 0x82] ++ encode ['\x85'],
      encode [' '] ++ bytesOf "(no author)" ++ encode ['\r'], encode [] ++ bytesOf "x" ++ encode ['\u2028']]
    let run := localContext.run .unreachable (.ofBytes ([10].intercalate padded)) (.new .unlimited)
    segments ([10].intercalate padded) = padded ∧
      run = localContext.run .unreachable (.ofBytes ([10].intercalate lines)) (.new .unlimited) ∧
      run.result = .ok 3 ∧
      run.output.sink.content.toList = bytesOf
        "\uFFFD = \uFFFD <\uFFFD@example.org>\n(no author) = (no author)\nx = x <x@example.org>\n" := by
  intro lines padded run
  have cut : segments ([10].intercalate padded) = padded := by decide +kernel
  have plain : segments ([10].intercalate lines) = lines := by decide +kernel
  have pads : List.Forall₂ IsPadded (Input.ofBytes ([10].intercalate lines)).lines
      (Input.ofBytes ([10].intercalate padded)).lines := by
    rw [lines_are_segments, lines_are_segments, delivered_ofBytes, delivered_ofBytes, cut, plain]
    exact .cons ⟨['\u3000'], ['\x85'], by decide, by decide, rfl⟩
      (.cons ⟨[' '], ['\r'], by decide, by decide, rfl⟩
        (.cons ⟨[], ['\u2028'], by decide, by decide, rfl⟩ .nil))
  have same : run = localContext.run .unreachable (.ofBytes ([10].intercalate lines)) (.new .unlimited) :=
    ((padding_leaves_no_trace Sink.writer localContext .unreachable ⟨.unlimited, 0⟩ (.new .unlimited)).1
      (.ofBytes ([10].intercalate lines)) (.ofBytes ([10].intercalate padded)) rfl pads).2
  have result : (localContext.run .unreachable (.ofBytes ([10].intercalate lines))
      (.new .unlimited)).result = .ok 3 := by decide +kernel
  have content : (localContext.run .unreachable (.ofBytes ([10].intercalate lines))
      (.new .unlimited)).output.sink.content.toList = bytesOf
        "\uFFFD = \uFFFD <\uFFFD@example.org>\n(no author) = (no author)\nx = x <x@example.org>\n" := by
    decide +kernel
  rw [← same] at result content
  exact ⟨cut, same, result, content⟩

end AuthorNames.PaddedLines
