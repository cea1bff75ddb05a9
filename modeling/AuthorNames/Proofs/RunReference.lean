import AuthorNames.Proofs.LineSegments
import AuthorNames.Proofs.Resolution
import AuthorNames.Run

/-! A run over an output that takes everything is determined by its values:
what it writes are the lines of the values before the first one that fails, and
what it asks for is asked for on behalf of those and of the failing one. The
closed form of the loop comes first; the reference is read off it. -/
namespace AuthorNames.RunReference
open AuthorNames.LineSegments AuthorNames.Resolution

/-- Nothing that is written is refused, and no flush fails. -/
def TakesEverything (sink : Sink) : Prop :=
  sink.capacity = none ∧ sink.failingFlush = none

/-- The bytes of a value's line: the value, what is displayed for it, and the
line feed. -/
def lineOf (ctx : Context) (web : Web) (value : String) : List UInt8 :=
  Text.Utf8.bytesOf (value ++ " = " ++ display ctx web value ++ "\n")

/-- The output once more lines have been written and flushed, one by one. -/
def withLines (output : Output) (lines : List (List UInt8)) : Output where
  sink :=
    { output.sink with
      content := output.sink.content ++ lines.flatten.toArray
      flushes := output.sink.flushes + lines.length }
  written := output.written + lines.length

def resolves (ctx : Context) (web : Web) (value : String) : Bool :=
  (ctx.resolve web value).result.isOk

/-- The values before the first one without a record. -/
def resolved (ctx : Context) (web : Web) (values : List String) : List String :=
  values.takeWhile (resolves ctx web)

/-- The failure of the first value without a record. -/
def firstFailure? (ctx : Context) (web : Web) (values : List String) : Option Failure :=
  values.findSome? fun value =>
    match (ctx.resolve web value).result with
    | .ok _ => none
    | .error failure => some failure

variable {ctx : Context} {web : Web} {value : String} {values : List String} {output : Output}

theorem bytesOf_append (first second : String) :
    Text.Utf8.bytesOf (first ++ second) = Text.Utf8.bytesOf first ++ Text.Utf8.bytesOf second := by
  simp [Text.Utf8.bytesOf, Text.Utf8.encode]

theorem lineOf_eq (ctx : Context) (web : Web) (value : String) :
    lineOf ctx web value = Text.Utf8.bytesOf (Record.text ⟨value, display ctx web value⟩) ++ [10] := by
  rw [lineOf, bytesOf_append]
  rfl

theorem withLines_nil : withLines output [] = output := by
  simp [withLines]

theorem withLines_append (first second : List (List UInt8)) :
    withLines (withLines output first) second = withLines output (first ++ second) := by
  simp [withLines, Nat.add_assoc]

theorem content_withLines (line : String → List UInt8) :
    (withLines output (values.map line)).sink.content.toList =
      output.sink.content.toList ++ values.flatMap line := by
  simp [withLines, List.flatMap_def]

/-- Emitting a record writes its line, flushes once and counts it. -/
theorem emit_takes (takes : TakesEverything output.sink) (record : Record) :
    output.emit record = (withLines output [Text.Utf8.bytesOf record.text ++ [10]], none) := by
  obtain ⟨noCapacity, noFailure⟩ := takes
  have room : output.sink.hasRoomFor (Text.Utf8.bytesOf record.text ++ [10]).length = true := by
    simp [Sink.hasRoomFor, noCapacity]
  simp only [Output.emit, Sink.writeLine, Sink.write, room, ↓reduceIte, Sink.flush, noFailure]
  simp [withLines, noFailure]

/-- The loop in closed form. -/
theorem process_takes (takes : TakesEverything output.sink) :
    ctx.process web values output =
      ⟨withLines output ((resolved ctx web values).map (lineOf ctx web)),
        (values.take ((resolved ctx web values).length + 1)).flatMap fun value =>
          (ctx.resolve web value).occurrences,
        firstFailure? ctx web values⟩ := by
  induction values generalizing output with
  | nil => simp [Context.process, resolved, firstFailure?, withLines_nil]
  | cons value rest ih =>
    cases result : (ctx.resolve web value).result with
    | error failure =>
      -- The failing value is not resolved, but what it asked for still counts.
      have fails : resolves ctx web value = false := by rw [resolves, result]; rfl
      simp [Context.process, resolved, firstFailure?, withLines_nil, result, fails]
    | ok record =>
      have succeeds : resolves ctx web value = true := by rw [resolves, result]; rfl
      have later := @ih (withLines output [lineOf ctx web value]) takes
      have emitted := emit_takes takes record
      rw [resolve_record result, ← lineOf_eq] at emitted
      simp only [Context.process, result, resolve_record result, emitted, later, withLines_append]
      simp [resolved, firstFailure?, result, succeeds]

theorem emit_written (output : Output) (record : Record) :
    (output.emit record).1.written = output.written + if (output.emit record).2.isNone then 1 else 0 := by
  unfold Output.emit
  split <;> rfl

/-- Over any output, a loop that ends without a failure has written a record
for each value. -/
theorem process_written (finished : (ctx.process web values output).failure = none) :
    (ctx.process web values output).output.written = output.written + values.length := by
  induction values generalizing output with
  | nil => rfl
  | cons value rest ih =>
    rw [Context.process] at finished ⊢
    cases result : (ctx.resolve web value).result with
    | error failure => simp [result] at finished
    | ok record =>
      simp only [result] at finished ⊢
      have written := emit_written output record
      generalize output.emit record = emitted at finished written ⊢
      obtain ⟨after, fault⟩ := emitted
      cases fault with
      | some fault => simp at finished
      | none =>
        have later := ih finished
        simp only [Option.isNone_none, ↓reduceIte] at written
        simp only [List.length_cons]
        omega

/-- Over any output, a loop fails for a value without a record or because a
record could not be written. -/
theorem process_failure {failure : Failure} (failed : (ctx.process web values output).failure = some failure) :
    (∃ value ∈ values, (ctx.resolve web value).result = .error failure) ∨
      ∃ fault, failure = .io fault := by
  induction values generalizing output with
  | nil => cases failed
  | cons value rest ih =>
    rw [Context.process] at failed
    cases result : (ctx.resolve web value).result with
    | error cause =>
      simp only [result, Option.some.injEq] at failed
      exact .inl ⟨value, List.mem_cons_self, failed ▸ result⟩
    | ok record =>
      simp only [result] at failed
      generalize output.emit record = emitted at failed
      obtain ⟨after, fault⟩ := emitted
      cases fault with
      | some fault => exact .inr ⟨fault, (Option.some.inj failed).symm⟩
      | none =>
        rcases ih failed with ⟨later, member, cause⟩ | unwritten
        · exact .inl ⟨later, List.mem_cons_of_mem _ member, cause⟩
        · exact .inr unwritten

/-- A run writes the lines of the values before the first failing one. -/
theorem run_output (ctx : Context) (web : Web) (takes : TakesEverything output.sink) (input : Input) :
    (ctx.run web input output).output =
      withLines output ((resolved ctx web (identifiers (delivered input))).map (lineOf ctx web)) := by
  rw [Context.run, values_are_identifiers, process_takes takes]

/-- A run asks for the pages of those values and of the failing one. -/
theorem run_requests (ctx : Context) (web : Web) (takes : TakesEverything output.sink) (input : Input) :
    let values := identifiers (delivered input)
    Occurrence.requests (ctx.run web input output).occurrences =
      (values.take ((resolved ctx web values).length + 1)).flatMap (requestsFor ctx web) := by
  rw [Context.run, values_are_identifiers, process_takes takes]
  simp only [Occurrence.requests, List.filterMap_flatMap]
  congr 1
  funext value
  exact requests_resolve ctx web value

/-- A run ends as its first failing value does, or else as its input does. -/
theorem run_result (ctx : Context) (web : Web) (takes : TakesEverything output.sink) (input : Input) :
    let values := identifiers (delivered input)
    (ctx.run web input output).result =
      match firstFailure? ctx web values, input.failure with
      | some failure, _ => .error failure
      | none, some reason => .error (.io (.reported reason))
      | none, none => .ok (output.written + (resolved ctx web values).length) := by
  intro values
  rw [Context.run, values_are_identifiers, process_takes takes]
  dsimp only
  cases firstFailure? ctx web values with
  | some failure => rfl
  | none =>
    cases input.failure with
    | some reason => rfl
    | none => simp [withLines, values]

theorem resolved_of_all (all : ∀ value ∈ values, ∃ record, (ctx.resolve web value).result = .ok record) :
    resolved ctx web values = values ∧ firstFailure? ctx web values = none := by
  constructor
  · rw [resolved, List.takeWhile_eq_self_iff]
    intro value member
    obtain ⟨record, result⟩ := all value member
    rw [resolves, result]
    rfl
  · rw [firstFailure?, List.findSome?_eq_none_iff]
    intro value member
    obtain ⟨record, result⟩ := all value member
    rw [result]

theorem resolved_of_unfailing (unfailing : firstFailure? ctx web values = none) :
    resolved ctx web values = values := by
  refine (resolved_of_all fun value member => ?_).1
  have outcome := List.findSome?_eq_none_iff.mp unfailing value member
  cases result : (ctx.resolve web value).result with
  | ok record => exact ⟨record, rfl⟩
  | error failure =>
    rw [result] at outcome
    cases outcome

/-- A run that succeeds has come to the end of an unbroken input. -/
theorem run_succeeded {input : Input} {count : Nat} (takes : TakesEverything output.sink)
    (succeeded : (ctx.run web input output).result = .ok count) :
    let values := identifiers (delivered input)
    input.failure = none ∧ firstFailure? ctx web values = none ∧ resolved ctx web values = values ∧
      count = output.written + values.length := by
  intro values
  have result := run_result ctx web takes input
  rw [succeeded] at result
  dsimp only at result
  split at result
  · cases result
  · cases result
  · rename_i unfailing unbroken
    have whole := resolved_of_unfailing unfailing
    refine ⟨unbroken, unfailing, whole, ?_⟩
    rw [whole] at result
    exact Except.ok.inj result

/-- The values before a failing one are resolved if they all have records. -/
theorem resolved_before_failing {before : List String} {failure : Failure} (rest : List String)
    (all : ∀ value ∈ before, ∃ record, (ctx.resolve web value).result = .ok record)
    (failed : (ctx.resolve web value).result = .error failure) :
    resolved ctx web (before ++ value :: rest) = before ∧
      firstFailure? ctx web (before ++ value :: rest) = some failure := by
  obtain ⟨prefixed, unfailing⟩ := resolved_of_all all
  have fails : resolves ctx web value = false := by rw [resolves, failed]; rfl
  constructor
  · rw [resolved, List.takeWhile_append_of_pos (List.takeWhile_eq_self_iff.mp prefixed),
      List.takeWhile_cons_of_neg (by simp [fails]), List.append_nil]
  · rw [firstFailure?, List.findSome?_append, ← firstFailure?, unfailing]
    simp [failed]

/-- A run over values that all have records writes and asks for everything, and
ends as its input does. -/
theorem run_of_all {input : Input} (takes : TakesEverything output.sink)
    (all : ∀ value ∈ identifiers (delivered input), ∃ record, (ctx.resolve web value).result = .ok record) :
    let values := identifiers (delivered input)
    let run := ctx.run web input output
    (input.failure = none → run.result = .ok (output.written + values.length)) ∧
      run.output = withLines output (values.map (lineOf ctx web)) ∧
      Occurrence.requests run.occurrences = values.flatMap (requestsFor ctx web) := by
  intro values run
  obtain ⟨whole, unfailing⟩ := resolved_of_all all
  have result := run_result ctx web takes input
  have written := run_output ctx web takes input
  have requests := run_requests ctx web takes input
  dsimp only at result requests
  rw [whole] at result written requests
  rw [unfailing] at result
  rw [List.take_of_length_le (Nat.le_succ _)] at requests
  refine ⟨?_, written, requests⟩
  intro unbroken
  rw [unbroken] at result
  exact result

/-- A run ends with the failure of the first value that has no record, behind
the lines of the values before it. -/
theorem run_until_failing {input : Input} {before after : List String} {failure : Failure}
    (takes : TakesEverything output.sink)
    (parts : identifiers (delivered input) = before ++ value :: after)
    (all : ∀ earlier ∈ before, ∃ record, (ctx.resolve web earlier).result = .ok record)
    (failed : (ctx.resolve web value).result = .error failure) :
    let run := ctx.run web input output
    run.result = .error failure ∧
      run.output = withLines output (before.map (lineOf ctx web)) ∧
      Occurrence.requests run.occurrences = (before ++ [value]).flatMap (requestsFor ctx web) := by
  intro run
  obtain ⟨front, first⟩ := resolved_before_failing after all failed
  have result := run_result ctx web takes input
  have written := run_output ctx web takes input
  have requests := run_requests ctx web takes input
  dsimp only at result requests
  rw [parts] at result written requests
  rw [first] at result
  rw [front] at written requests
  have asked : (before ++ value :: after).take (before.length + 1) = before ++ [value] := by
    rw [List.take_length_add_append]
    rfl
  rw [asked] at requests
  exact ⟨result, written, requests⟩

/-- **A run follows its input.** If every identifier has a record, the run
writes their lines in order and counts them all; otherwise it stops at the
first that has none, with its failure, having written and counted the lines
before it. Pages are asked for on behalf of the identifiers in order, each time
that one occurs, and on behalf of none behind the failing one. -/
theorem run_follows_identifiers (ctx : Context) (web : Web) (bytes : List UInt8) (output : Output)
    (takes : TakesEverything output.sink) :
    let values := identifiers bytes
    let run := ctx.run web (.ofBytes bytes) output
    ((∀ value ∈ values, ∃ record, (ctx.resolve web value).result = .ok record) →
      run.result = .ok (output.written + values.length) ∧
      run.output.written = output.written + values.length ∧
      run.output.sink.content.toList =
        output.sink.content.toList ++ values.flatMap (lineOf ctx web) ∧
      Occurrence.requests run.occurrences = values.flatMap (requestsFor ctx web)) ∧
    ∀ (m : Nat) (value : String) (failure : Failure), values[m]? = some value →
      (∀ earlier ∈ values.take m, ∃ record, (ctx.resolve web earlier).result = .ok record) →
      (ctx.resolve web value).result = .error failure →
      run.result = .error failure ∧
      run.output.written = output.written + m ∧
      run.output.sink.content.toList =
        output.sink.content.toList ++ (values.take m).flatMap (lineOf ctx web) ∧
      Occurrence.requests run.occurrences = (values.take (m + 1)).flatMap (requestsFor ctx web) := by
  intro values run
  have same : identifiers (delivered (.ofBytes bytes)) = values := by rw [delivered_ofBytes]
  constructor
  · intro all
    obtain ⟨result, written, requests⟩ := run_of_all takes (same ▸ all)
    rw [same] at result written requests
    refine ⟨result rfl, ?_, ?_, requests⟩
    · rw [written]
      simp only [withLines, List.length_map]
    · rw [written, content_withLines]
  · intro m value failure found all failed
    have bound : m < values.length := (List.getElem?_eq_some_iff.mp found).1
    have parts : identifiers (delivered (.ofBytes bytes)) = values.take m ++ value :: values.drop (m + 1) := by
      rw [same, ← (List.getElem?_eq_some_iff.mp found).2, ← List.drop_eq_getElem_cons bound,
        List.take_append_drop]
    obtain ⟨result, written, requests⟩ := run_until_failing takes parts all failed
    have count : (values.take m).length = m := by
      rw [List.length_take]
      omega
    have asked : values.take m ++ [value] = values.take (m + 1) := by
      rw [List.take_add_one, found]
      rfl
    refine ⟨result, ?_, ?_, ?_⟩
    · rw [written]
      simp only [withLines, List.length_map, count]
    · rw [written, content_withLines]
    · rw [requests, asked]

/-- Settings for a server on this machine. -/
def localContext : Context where
  base := ⟨"http", some ⟨"", "", .name "localhost", none⟩, .segments false ["users"], none, none⟩
  timeout := none
  domain := "example.org"
  policy := .abort

/-- Nobody, an author of whom no page can be had, and the same author again on
a last line without a line feed. -/
theorem run_follows_three_identifiers :
    TakesEverything Sink.unlimited ∧
      identifiers (Text.Utf8.bytesOf "(no author)\n x \nx") = ["(no author)", "x", "x"] ∧
      (localContext.run .unreachable (.ofBytes (Text.Utf8.bytesOf "(no author)\n x \nx"))
        (.new .unlimited)).result = .ok 3 ∧
      (localContext.run .unreachable (.ofBytes (Text.Utf8.bytesOf "(no author)\n x \nx"))
        (.new .unlimited)).output.sink.content.toList = Text.Utf8.bytesOf
          "(no author) = (no author)\nx = x <x@example.org>\nx = x <x@example.org>\n" := by
  have takes : TakesEverything Sink.unlimited := ⟨rfl, rfl⟩
  have values : identifiers (Text.Utf8.bytesOf "(no author)\n x \nx") = ["(no author)", "x", "x"] := by
    decide +kernel
  have author : (localContext.resolve .unreachable "x").result = .ok ⟨"x", "x <x@example.org>"⟩ := by
    decide +kernel
  have all : ∀ value ∈ identifiers (Text.Utf8.bytesOf "(no author)\n x \nx"),
      ∃ record, (localContext.resolve .unreachable value).result = .ok record := by
    rw [values]
    simp only [List.forall_mem_cons]
    exact ⟨⟨_, congrArg Account.result resolve_noAuthor⟩, ⟨_, author⟩, ⟨_, author⟩, by simp⟩
  have lines : ["(no author)", "x", "x"].flatMap (lineOf localContext .unreachable) = Text.Utf8.bytesOf
      "(no author) = (no author)\nx = x <x@example.org>\nx = x <x@example.org>\n" := by decide +kernel
  have empty : (Output.new Sink.unlimited).sink.content.toList = [] := rfl
  have count : (Output.new Sink.unlimited).written + ["(no author)", "x", "x"].length = 3 := rfl
  obtain ⟨result, -, content, -⟩ := (run_follows_identifiers localContext .unreachable
    (Text.Utf8.bytesOf "(no author)\n x \nx") (.new .unlimited) takes).1 all
  rw [values, count] at result
  rw [values, lines, empty, List.nil_append] at content
  exact ⟨takes, values, result, content⟩

end AuthorNames.RunReference
