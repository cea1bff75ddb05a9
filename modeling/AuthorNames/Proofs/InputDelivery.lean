import AuthorNames.Proofs.RunReference
import AuthorNames.Proofs.SinkContents
import AuthorNames.Stream

/-! How the input arrives leaves no trace in a run, whatever is written to. A
line that ends in the middle of a piece, or pieces later, is the line that its
bytes make, so a run over pieces is a loop over the values of all their bytes;
and a failure of the reader comes behind the lines that were complete. -/
namespace AuthorNames.InputDelivery
open AuthorNames.LineSegments AuthorNames.SinkContents
open AuthorNames.RunReference (localContext)
open AuthorNames.Input (Next Progress behindFeed nextFrom remaining_next valueOf)

variable {σ : Type} {ctx : Context} {web : Web} {w : Writer σ}

/-! ### Lines out of pieces -/

theorem lines_congr {first second : Input} (bytes : first.pieces.flatten = second.pieces.flatten)
    (failure : first.failure = second.failure) : first.lines = second.lines := by
  rw [lines_are_segments, lines_are_segments, delivered, delivered, bytes, failure]

private theorem splitOn_at_feed {front : List UInt8} (feedless : 10 ∉ front) (back : List UInt8) :
    (front ++ 10 :: back).splitOn 10 = front :: back.splitOn 10 := by
  rw [List.splitOn_append_cons_self, List.splitOn_eq_singleton feedless]
  rfl

/-- The bytes in front of the first line feed are the first line. -/
theorem lines_of_feed {input behind : Input} {front : List UInt8} (feedless : 10 ∉ front)
    (bytes : input.pieces.flatten = front ++ 10 :: behind.pieces.flatten)
    (failure : behind.failure = input.failure) : input.lines = front :: behind.lines := by
  obtain ⟨first, others, pieces⟩ :=
    List.exists_cons_of_ne_nil (List.splitOn_ne_nil (10 : UInt8) behind.pieces.flatten)
  rw [lines_are_segments, lines_are_segments, delivered, delivered, failure, bytes]
  split
  · rw [segments_upToLastFeed, segments_upToLastFeed, splitOn_at_feed feedless, pieces]
    rfl
  · rw [segments, segments, splitOn_at_feed feedless, pieces, List.getLast?_cons_cons, List.dropLast_cons_cons]
    split <;> rfl

/-- Bytes without a line feed are a line of their own if nothing breaks it off. -/
theorem lines_of_feedless {input : Input} (feedless : 10 ∉ input.pieces.flatten) :
    input.lines =
      if input.pieces.flatten = [] ∨ input.failure.isSome then [] else [input.pieces.flatten] := by
  rw [lines_are_segments, delivered]
  by_cases broken : input.failure.isSome = true
  · rw [if_pos broken, if_pos (.inr broken), segments_upToLastFeed, List.splitOn_eq_singleton feedless]
    rfl
  · rw [if_neg broken, segments, List.splitOn_eq_singleton feedless]
    by_cases empty : input.pieces.flatten = []
    · simp [empty]
    · simp [empty, broken]

theorem flatten_behindFeed (piece : List UInt8) (rest : List (List UInt8)) :
    (behindFeed piece rest).flatten = piece ++ rest.flatten := by
  unfold behindFeed
  split
  · rename_i used
    rw [List.isEmpty_iff.mp used, List.nil_append]
  · rfl

private theorem feed_notMem_of_dropWhile {piece : List UInt8} (whole : piece.dropWhile (· ≠ 10) = []) :
    10 ∉ piece := by
  intro member
  have other := List.dropWhile_eq_nil_iff.mp whole 10 member
  simp at other

private theorem feed_notMem_takeWhile (piece : List UInt8) : 10 ∉ piece.takeWhile (· ≠ 10) := by
  intro member
  simpa using List.mem_takeWhile_imp member

/-- What is read of an input is the first of its lines, with the others still to
come, or else there is none and the input ends as it does. -/
def IsNextOf (input : Input) : Next → Prop
  | .line bytes behind => input.lines = bytes :: behind.lines ∧ behind.failure = input.failure
  | .broken reason => input.lines = [] ∧ input.failure = some reason
  | .ended => input.lines = [] ∧ input.failure = none

/-- At the end of the pieces a line that has begun is one unless it is broken off. -/
private theorem isNext_at_end (failure : Option String) {pending : List UInt8} (feedless : 10 ∉ pending) :
    IsNextOf ⟨[pending], failure⟩ (nextFrom failure pending []) := by
  have alone : 10 ∉ (Input.mk [pending] failure).pieces.flatten := by simpa using feedless
  have lines := lines_of_feedless alone
  cases failure with
  | some reason => exact ⟨by simpa using lines, rfl⟩
  | none =>
    by_cases empty : pending = []
    · subst empty
      exact ⟨lines, rfl⟩
    · have begun : nextFrom none pending [] = .line pending ⟨[], none⟩ := by simp [nextFrom, empty]
      rw [begun]
      refine ⟨?_, rfl⟩
      simpa [empty, Input.lines, Progress.start] using lines

/-- Reading on from a line that has begun reads the line that its bytes and
those still to come make. -/
theorem nextFrom_isNext (failure : Option String) (pending : List UInt8) (pieces : List (List UInt8))
    (feedless : 10 ∉ pending) :
    IsNextOf ⟨pending :: pieces, failure⟩ (nextFrom failure pending pieces) := by
  -- The line that has begun grows from piece to piece, so it is generalized.
  induction pieces generalizing pending with
  | nil => exact isNext_at_end failure feedless
  | cons piece rest ih =>
    cases cut : piece.dropWhile (· ≠ 10) with
    | nil =>
      have longer : 10 ∉ pending ++ piece := by simp [feedless, feed_notMem_of_dropWhile cut]
      have joined : Input.lines ⟨pending :: piece :: rest, failure⟩ =
          Input.lines ⟨(pending ++ piece) :: rest, failure⟩ := lines_congr (by simp) rfl
      have reads := ih (pending ++ piece) longer
      rw [nextFrom, cut]
      unfold IsNextOf at reads ⊢
      rw [joined]
      exact reads
    | cons feed after =>
      have atFeed : feed = 10 := by
        have first := List.head?_dropWhile_not (· ≠ (10 : UInt8)) piece
        rw [cut] at first
        simpa using first
      subst atFeed
      have whole : piece = piece.takeWhile (· ≠ 10) ++ 10 :: after := by
        rw [← cut, List.takeWhile_append_dropWhile]
      rw [nextFrom, cut]
      refine ⟨lines_of_feed ?_ ?_ rfl, rfl⟩
      · rw [List.mem_append, not_or]
        exact ⟨feedless, feed_notMem_takeWhile piece⟩
      · simp only [List.flatten_cons, flatten_behindFeed, List.append_assoc, List.append_cancel_left_eq]
        rw [← List.cons_append, ← List.append_assoc, ← whole]

/-- The line that is read next is the first of the input's lines. -/
theorem next_isNext (input : Input) : IsNextOf input input.next := by
  have same : Input.lines ⟨[] :: input.pieces, input.failure⟩ = input.lines := lines_congr rfl rfl
  have reads := nextFrom_isNext input.failure [] input.pieces List.not_mem_nil
  unfold IsNextOf at reads ⊢
  rw [same] at reads
  exact reads

/-! ### The loop over lines -/

/-- How far a loop over values got with a writer. -/
structure Drained (σ : Type) where
  output : Tally σ
  occurrences : List Occurrence
  failure : Option Failure

/-- Writes the records of values, one after the other, until one fails. -/
def drain (ctx : Context) (web : Web) (w : Writer σ) : List String → Tally σ → Drained σ
  | [], output => ⟨output, [], none⟩
  | value :: rest, output =>
    let account := ctx.resolve web value
    match account.result with
    | .error failure => ⟨output, account.occurrences, some failure⟩
    | .ok record =>
      match w.emit output record with
      | (output, some fault) => ⟨output, account.occurrences, some (.io fault)⟩
      | (output, none) =>
        let later := drain ctx web w rest output
        { later with occurrences := account.occurrences ++ later.occurrences }

/-- What a loop that drained an input comes to: its own failure, or else the
input's, or the number of records. -/
def Drained.conclude (d : Drained σ) (broken : Option String) : Context.StreamedRun σ where
  output := d.output
  occurrences := d.occurrences
  result :=
    match d.failure, broken with
    | some failure, _ => .error failure
    | none, some reason => .error (.io (.reported reason))
    | none, none => .ok d.output.written

/-- A stream is a loop over the values of its input, cut beforehand. -/
theorem stream_drains (ctx : Context) (web : Web) (w : Writer σ) (input : Input) (output : Tally σ) :
    ctx.stream web w input output = (drain ctx web w input.values output).conclude input.failure := by
  induction measure : input.remaining using Nat.strong_induction_on generalizing input output with
  | _ count ih =>
    have first := next_isNext input
    rw [Context.stream, Input.values]
    split
    · rename_i ended
      rw [ended] at first
      rw [first.1, first.2]
      rfl
    · rename_i reason broken
      rw [broken] at first
      rw [first.1, first.2]
      rfl
    · rename_i bytes behind found
      rw [found] at first
      have later := fun output => ih behind.remaining (measure ▸ remaining_next found) behind output rfl
      rw [first.1, List.map_cons, drain]
      generalize ctx.resolve web (valueOf bytes) = account
      obtain ⟨occurrences, result⟩ := account
      cases result with
      | error failure => rfl
      | ok record =>
        dsimp only
        generalize w.emit output record = emitted
        obtain ⟨after, fault⟩ := emitted
        cases fault with
        | some fault => rfl
        | none =>
          dsimp only
          rw [later after, first.2]
          rfl

/-! ### The run over a sink -/

/-- The loop of a run is the loop over a sink as the writer. -/
theorem process_drains (ctx : Context) (web : Web) (values : List String) (output : Output) :
    let drained := drain ctx web Sink.writer values ⟨output.sink, output.written⟩
    ctx.process web values output =
      ⟨⟨drained.output.state, drained.output.written⟩, drained.occurrences, drained.failure⟩ := by
  induction values generalizing output with
  | nil => rfl
  | cons value rest ih =>
    rw [Context.process, drain]
    generalize ctx.resolve web value = account
    obtain ⟨occurrences, result⟩ := account
    cases result with
    | error failure => rfl
    | ok record =>
      dsimp only
      rw [emit_sink]
      generalize output.emit record = emitted
      obtain ⟨after, fault⟩ := emitted
      cases fault with
      | some fault => rfl
      | none =>
        dsimp only
        rw [ih after]

/-- A run is the stream of its input over the sink. -/
theorem run_streams (ctx : Context) (web : Web) (input : Input) (output : Output) :
    ctx.run web input output = (ctx.stream web Sink.writer input ⟨output.sink, output.written⟩).ofSink := by
  rw [Context.run, process_drains, stream_drains]
  rfl

/-- What a run comes to whose reader fails in the end: the same, but for its
success. -/
def cutShort (reason : String) (r : Context.StreamedRun σ) : Context.StreamedRun σ :=
  { r with
    result :=
      match r.result with
      | .error failure => .error failure
      | .ok _ => .error (.io (.reported reason)) }

theorem conclude_broken (d : Drained σ) (reason : String) :
    d.conclude (some reason) = cutShort reason (d.conclude none) := by
  obtain ⟨output, occurrences, failure⟩ := d
  cases failure <;> rfl

/-- **How an input arrives leaves no trace.** A run over bytes in pieces comes
to the same, whatever the pieces are and whatever is written to. If the reader
fails behind them, the run is that over the bytes up to the last line feed, and
the reader's failure is the result in place of a success. The run over a sink
is one of these runs. -/
theorem delivery_leaves_no_trace (w : Writer σ) (ctx : Context) (web : Web) (output : Tally σ)
    (pieces others : List (List UInt8)) (same : pieces.flatten = others.flatten) :
    ctx.stream web w ⟨pieces, none⟩ output = ctx.stream web w ⟨others, none⟩ output ∧
    (∀ reason : String,
      ctx.stream web w ⟨pieces, some reason⟩ output =
        cutShort reason (ctx.stream web w (.ofBytes (upToLastFeed pieces.flatten)) output)) ∧
    ∀ (input : Input) (sink : Output),
      ctx.run web input sink = (ctx.stream web Sink.writer input ⟨sink.sink, sink.written⟩).ofSink := by
  refine ⟨?_, ?_, run_streams ctx web⟩
  · have lines : Input.lines ⟨pieces, none⟩ = Input.lines ⟨others, none⟩ := lines_congr same rfl
    rw [stream_drains, stream_drains, Input.values, Input.values, lines]
  · intro reason
    have delivers : delivered ⟨pieces, some reason⟩ = delivered (.ofBytes (upToLastFeed pieces.flatten)) := by
      rw [delivered_ofBytes]
      rfl
    rw [stream_drains, stream_drains, values_are_identifiers, values_are_identifiers, delivers]
    exact conclude_broken _ reason

/-- A character that is cut in two and a line that the reader breaks off: what
is written is the line in front of it, and no page is asked for behind that. -/
theorem delivery_leaves_no_trace_inside_a_character :
    let pieces : List (List UInt8) := [[0xC3], [0xA9, 0x0D], [0x0A, 0x78]]
    let broken := localContext.run .unreachable ⟨pieces, some "reset"⟩ (.new .unlimited)
    pieces.flatten = [[0xC3, 0xA9, 0x0D, 0x0A, 0x78]].flatten ∧
      broken.result = .error (.io (.reported "reset")) ∧
      broken.output.written = 1 ∧
      broken.output.sink.content.toList = Text.Utf8.bytesOf "é = é <é@example.org>\n" := by
  intro pieces broken
  have same : pieces.flatten = [[0xC3, 0xA9, 0x0D, 0x0A, 0x78]].flatten := rfl
  have whole : (localContext.run .unreachable (.ofBytes (upToLastFeed pieces.flatten)) (.new .unlimited)).result =
      .ok 1 := by decide +kernel
  have content : (localContext.run .unreachable (.ofBytes (upToLastFeed pieces.flatten))
      (.new .unlimited)).output.sink.content.toList = Text.Utf8.bytesOf "é = é <é@example.org>\n" := by
    decide +kernel
  have written : (localContext.run .unreachable (.ofBytes (upToLastFeed pieces.flatten))
      (.new .unlimited)).output.written = 1 := by decide +kernel
  obtain ⟨-, cut, runs⟩ := delivery_leaves_no_trace Sink.writer localContext .unreachable ⟨.unlimited, 0⟩ pieces
    [[0xC3, 0xA9, 0x0D, 0x0A, 0x78]] same
  have streams : broken = (cutShort "reset" (localContext.stream .unreachable Sink.writer
      (.ofBytes (upToLastFeed pieces.flatten)) ⟨.unlimited, 0⟩)).ofSink := by
    rw [← cut "reset"]
    exact runs ⟨pieces, some "reset"⟩ (.new .unlimited)
  rw [runs] at whole content written
  rw [streams]
  refine ⟨same, ?_, written, content⟩
  have succeeded : (localContext.stream .unreachable Sink.writer (.ofBytes (upToLastFeed pieces.flatten))
      ⟨.unlimited, 0⟩).result = .ok 1 := whole
  simp only [Context.StreamedRun.ofSink, cutShort, succeeded]

end AuthorNames.InputDelivery
