import AuthorNames.Proofs.RunReference
import AuthorNames.Proofs.SinkLedger
import Mathlib.Order.Nat

/-! A run over a writer that fails is the beginning of the run over one that
does not. While the lines fit and are flushed the two cannot be told apart; at
the first line that is cut off or whose flush fails the run ends, with what fits
of that line, and nothing is asked for behind it. -/
namespace AuthorNames.BoundedRun
open AuthorNames.LineSegments AuthorNames.Resolution AuthorNames.RunReference AuthorNames.SinkLedger

variable {ctx : Context} {web : Web} {value : String} {values : List String} {output : Output}
variable {capacity failingFlush : Option Nat} {lines : List (List UInt8)} {number : Nat}

/-- The lines that a run over the values writes if nothing hinders it. -/
def linesFor (ctx : Context) (web : Web) (values : List String) : List (List UInt8) :=
  (resolved ctx web values).map (lineOf ctx web)

/-- Whether a writer hinders the line of that number: it does not fit, or its
flush is the one that fails. -/
def Hinders (capacity failingFlush : Option Nat) (lines : List (List UInt8)) (number : Nat) : Prop :=
  (∃ most, capacity = some most ∧ most < reach lines number) ∨ failingFlush = some number

/-- Whether all lines fit and none of their flushes fails. -/
def Accepts (capacity failingFlush : Option Nat) (lines : List (List UInt8)) : Prop :=
  (∀ most, capacity = some most → reach lines lines.length ≤ most) ∧
    ∀ flush, failingFlush = some flush → flush = 0 ∨ lines.length < flush

theorem hinders_iff (capacity failingFlush : Option Nat) (lines : List (List UInt8)) (number : Nat) :
    Hinders capacity failingFlush lines number ↔ isWritten capacity failingFlush lines number = false := by
  rw [Hinders, isWritten, fits]
  cases capacity with
  | none => simp
  | some most =>
    simp only [Option.some.injEq, exists_eq_left', Option.all_some, Bool.and_eq_false_iff, decide_eq_false_iff_not,
      Nat.not_le, not_not]

/-- A writer accepts lines of which it hinders none. -/
theorem accepts_iff (capacity failingFlush : Option Nat) (lines : List (List UInt8)) :
    Accepts capacity failingFlush lines ↔
      ∀ number ∈ numbers lines, ¬ Hinders capacity failingFlush lines number := by
  simp only [mem_numbers]
  constructor
  · rintro ⟨fit, flushed⟩ number ⟨positive, within⟩ (⟨most, bounded, exceeds⟩ | failing)
    · have whole := fit most bounded
      have shorter := reach_mono lines (show number ≤ lines.length by omega)
      omega
    · have outside := flushed number failing
      omega
  · intro unhindered
    refine ⟨?_, ?_⟩
    · intro most bounded
      by_contra beyond
      cases count : lines.length with
      | zero => simp [reach, List.length_eq_zero_iff.mp count] at beyond
      | succ before =>
        exact unhindered lines.length ⟨by omega, by omega⟩ (.inl ⟨most, bounded, by omega⟩)
    · intro flush failing
      by_contra inside
      exact unhindered flush ⟨by omega, by omega⟩ (.inr failing)

/-! ### The loop -/

/-- What a loop comes to that goes on behind what happened before. -/
def behind (occurrences : List Occurrence) (p : Progression) : Progression :=
  { p with occurrences := occurrences ++ p.occurrences }

/-- What happens while values are resolved one after the other. -/
def occurrencesOf (ctx : Context) (web : Web) (values : List String) : List Occurrence :=
  values.flatMap fun value => (ctx.resolve web value).occurrences

theorem behind_behind (first second : List Occurrence) (p : Progression) :
    behind first (behind second p) = behind (first ++ second) p := by
  simp [behind]

/-- A record that is written lets the loop go on. -/
theorem process_cons {record : Record} {after : Output} (result : (ctx.resolve web value).result = .ok record)
    (emitted : output.emit record = (after, none)) (rest : List String) :
    ctx.process web (value :: rest) output =
      behind (ctx.resolve web value).occurrences (ctx.process web rest after) := by
  rw [Context.process]
  simp only [result, emitted]
  rfl

/-- A record that is not written ends the loop. -/
theorem process_cons_refused {record : Record} {after : Output} {fault : IoFault}
    (result : (ctx.resolve web value).result = .ok record) (emitted : output.emit record = (after, some fault))
    (rest : List String) :
    ctx.process web (value :: rest) output =
      ⟨after, (ctx.resolve web value).occurrences, some (.io fault)⟩ := by
  rw [Context.process]
  simp only [result, emitted]

/-- The loop passes over values whose lines are written and goes on behind them. -/
theorem process_append {before : List String} {done : List (List UInt8)} (ledger : Ledger output done)
    (records : ∀ value ∈ before, ∃ record, (ctx.resolve web value).result = .ok record)
    (written : ∀ number ∈ numbers (done ++ before.map (lineOf ctx web)), done.length < number →
      isWritten output.sink.capacity output.sink.failingFlush (done ++ before.map (lineOf ctx web)) number = true) :
    ∃ after, Ledger after (done ++ before.map (lineOf ctx web)) ∧
      after.sink.capacity = output.sink.capacity ∧ after.sink.failingFlush = output.sink.failingFlush ∧
      ∀ rest, ctx.process web (before ++ rest) output =
        behind (occurrencesOf ctx web before) (ctx.process web rest after) := by
  induction before generalizing output done with
  | nil => exact ⟨output, by simpa using ledger, rfl, rfl, fun rest => rfl⟩
  | cons value before ih =>
    obtain ⟨record, result⟩ := records value List.mem_cons_self
    have line : lineBytes record = lineOf ctx web value := by rw [resolve_record result]; rfl
    have split : done ++ (value :: before).map (lineOf ctx web) =
        done ++ [lineBytes record] ++ before.map (lineOf ctx web) := by rw [line]; simp
    rw [split] at written ⊢
    obtain ⟨ledgerNext, outcome⟩ := emit_keeps_ledger ledger record
    obtain ⟨capacityNext, flushNext⟩ := emit_bounds output record
    have first := written (done.length + 1) (mem_numbers.mpr ⟨by omega, by simp⟩) (by omega)
    rw [isWritten_append (by simp)] at first
    have emitted : output.emit record = ((output.emit record).1, none) := by rw [← outcome.mpr first]
    rw [← capacityNext, ← flushNext] at written ⊢
    obtain ⟨after, ledgerAfter, capacityAfter, flushAfter, goesOn⟩ := ih ledgerNext
      (fun other member => records other (List.mem_cons_of_mem _ member))
      (fun number member later => written number member (by simp at later; omega))
    refine ⟨after, ledgerAfter, capacityAfter, flushAfter, fun rest => ?_⟩
    rw [List.cons_append, process_cons result emitted, goesOn, behind_behind]
    rfl

/-- Behind the values that have records the loop ends, whatever was written. -/
theorem process_unresolved (ctx : Context) (web : Web) (values : List String) :
    ∃ occurrences failure, ∀ output,
      ctx.process web (values.dropWhile (resolves ctx web)) output = ⟨output, occurrences, failure⟩ := by
  cases rest : values.dropWhile (resolves ctx web) with
  | nil => exact ⟨[], none, fun _ => rfl⟩
  | cons value more =>
    have fails : resolves ctx web value = false := by
      have first := List.head?_dropWhile_not (resolves ctx web) values
      rw [rest] at first
      exact first
    cases result : (ctx.resolve web value).result with
    | ok record => rw [resolves, result] at fails; cases fails
    | error failure =>
      refine ⟨(ctx.resolve web value).occurrences, some failure, fun output => ?_⟩
      rw [Context.process]
      simp only [result]

theorem record_of_resolved (member : value ∈ resolved ctx web values) :
    ∃ record, (ctx.resolve web value).result = .ok record := by
  have resolvable : resolves ctx web value = true := List.mem_takeWhile_imp member
  rw [resolves] at resolvable
  cases result : (ctx.resolve web value).result with
  | ok record => exact ⟨record, rfl⟩
  | error failure => rw [result] at resolvable; cases resolvable

/-- Where every line is written the loop comes to the same over all writers,
but for what these hold. -/
theorem process_accepted (ctx : Context) (web : Web) (values : List String) :
    ∃ occurrences failure, ∀ output, Ledger output [] →
      (∀ number ∈ numbers (linesFor ctx web values), isWritten output.sink.capacity output.sink.failingFlush
        (linesFor ctx web values) number = true) →
      ∃ after, ctx.process web values output = ⟨after, occurrences, failure⟩ ∧
        Ledger after (linesFor ctx web values) ∧ after.sink.capacity = output.sink.capacity ∧
        after.written = (linesFor ctx web values).length := by
  obtain ⟨last, failure, ends⟩ := process_unresolved ctx web values
  refine ⟨occurrencesOf ctx web (resolved ctx web values) ++ last, failure, fun output ledger written => ?_⟩
  obtain ⟨after, ledgerAfter, capacityAfter, flushAfter, goesOn⟩ :=
    process_append ledger (fun _ => record_of_resolved) (fun number member _ => written number member)
  rw [List.nil_append] at ledgerAfter
  refine ⟨after, ?_, ledgerAfter, capacityAfter, ?_⟩
  · have whole := goesOn (values.dropWhile (resolves ctx web))
    rw [resolved, List.takeWhile_append_dropWhile, ends] at whole
    exact whole
  · rw [ledgerAfter.written, capacityAfter, flushAfter]
    exact countP_numbers_of_all written

/-- The values split at the first line that is not written. -/
theorem split_at_number (within : number + 1 ≤ (resolved ctx web values).length) :
    ∃ value rest, values = (resolved ctx web values).take number ++ value :: rest ∧
      (resolved ctx web values).take (number + 1) = (resolved ctx web values).take number ++ [value] ∧
      values.take (number + 1) = (resolved ctx web values).take number ++ [value] := by
  have bound : number < (resolved ctx web values).length := within
  have whole : resolved ctx web values ++ values.dropWhile (resolves ctx web) = values :=
    List.takeWhile_append_dropWhile
  have parts := List.take_append_drop number (resolved ctx web values)
  rw [List.drop_eq_getElem_cons bound] at parts
  refine ⟨(resolved ctx web values)[number], (resolved ctx web values).drop (number + 1) ++
    values.dropWhile (resolves ctx web), ?_, ?_, ?_⟩
  · rw [← List.cons_append, ← List.append_assoc, parts, whole]
  · rw [List.take_add_one, List.getElem?_eq_getElem bound]
    rfl
  · conv => lhs; rw [← whole]
    rw [List.take_append_of_le_length within, List.take_add_one, List.getElem?_eq_getElem bound]
    rfl

/-- A record whose line is not written is the writer's fault, and is not counted. -/
theorem emit_refused {record : Record} {done : List (List UInt8)} (ledger : Ledger output done)
    (unwritten : isWritten output.sink.capacity output.sink.failingFlush (done ++ [lineBytes record])
      (done.length + 1) = false) :
    ∃ after fault, output.emit record = (after, some fault) ∧ Ledger after (done ++ [lineBytes record]) ∧
      after.sink.capacity = output.sink.capacity ∧ after.written = output.written := by
  obtain ⟨ledgerNext, outcome⟩ := emit_keeps_ledger ledger record
  obtain ⟨capacityNext, -⟩ := emit_bounds output record
  have counted := emit_written output record
  rw [unwritten] at outcome
  cases emitted : output.emit record with
  | mk next fault =>
    rw [emitted] at ledgerNext outcome capacityNext counted
    cases fault with
    | none => simp at outcome
    | some fault => exact ⟨next, fault, rfl, ledgerNext, capacityNext, by simpa using counted⟩

/-- The loop passes over values whose lines are written and ends at one whose
line is not. -/
theorem process_stopped {before : List String} (ledger : Ledger output [])
    (records : ∀ earlier ∈ before ++ [value], ∃ record, (ctx.resolve web earlier).result = .ok record)
    (written : ∀ number ∈ numbers (before.map (lineOf ctx web)),
      isWritten output.sink.capacity output.sink.failingFlush (before.map (lineOf ctx web)) number = true)
    (unwritten : isWritten output.sink.capacity output.sink.failingFlush
      ((before ++ [value]).map (lineOf ctx web)) (before.length + 1) = false) (rest : List String) :
    ∃ after fault, ctx.process web (before ++ value :: rest) output =
        ⟨after, occurrencesOf ctx web (before ++ [value]), some (.io fault)⟩ ∧
      Ledger after ((before ++ [value]).map (lineOf ctx web)) ∧
      after.sink.capacity = output.sink.capacity ∧ after.written = before.length := by
  obtain ⟨reached, ledgerReached, capacityReached, flushReached, goesOn⟩ := process_append ledger
    (fun earlier member => records earlier (List.mem_append_left _ member))
    (fun number member _ => written number member)
  rw [List.nil_append] at ledgerReached
  obtain ⟨record, result⟩ := records value (List.mem_append_right _ (List.mem_singleton_self value))
  have line : lineBytes record = lineOf ctx web value := by rw [resolve_record result]; rfl
  have linesTo : (before ++ [value]).map (lineOf ctx web) = before.map (lineOf ctx web) ++ [lineBytes record] := by
    rw [line, List.map_append]
    rfl
  rw [linesTo] at unwritten ⊢
  obtain ⟨after, fault, emitted, ledgerAfter, capacityAfter, countAfter⟩ := emit_refused ledgerReached
    (by rw [capacityReached, flushReached, List.length_map]; exact unwritten)
  refine ⟨after, fault, ?_, ledgerAfter, capacityAfter.trans capacityReached, ?_⟩
  · rw [goesOn, process_cons_refused result emitted]
    simp [behind, occurrencesOf]
  · rw [countAfter, ledgerReached.written, capacityReached, flushReached, countP_numbers_of_all written,
      List.length_map]

/-- The loop ends at the first line that is not written. -/
theorem process_hindered (ledger : Ledger output []) (within : number + 1 ≤ (linesFor ctx web values).length)
    (written : ∀ earlier ∈ numbers (linesFor ctx web values), earlier ≤ number →
      isWritten output.sink.capacity output.sink.failingFlush (linesFor ctx web values) earlier = true)
    (unwritten : isWritten output.sink.capacity output.sink.failingFlush (linesFor ctx web values) (number + 1) =
      false) :
    ∃ after fault, ctx.process web values output =
        ⟨after, occurrencesOf ctx web (values.take (number + 1)), some (.io fault)⟩ ∧
      Ledger after ((linesFor ctx web values).take (number + 1)) ∧
      after.sink.capacity = output.sink.capacity ∧ after.written = number := by
  have bound : number + 1 ≤ (resolved ctx web values).length := by rwa [linesFor, List.length_map] at within
  obtain ⟨value, rest, parts, resolvedTo, valuesTo⟩ := split_at_number bound
  have count : ((resolved ctx web values).take number).length = number := List.length_take_of_le (by omega)
  -- Whether a line is written is not decided by those behind it.
  have upTo (most earlier : Nat) (low : earlier ≤ most) (fit : most ≤ (resolved ctx web values).length) :
      isWritten output.sink.capacity output.sink.failingFlush (linesFor ctx web values) earlier =
        isWritten output.sink.capacity output.sink.failingFlush
          (((resolved ctx web values).take most).map (lineOf ctx web)) earlier := by
    conv => lhs; rw [linesFor, ← List.take_append_drop most (resolved ctx web values), List.map_append]
    exact isWritten_append (by rw [List.length_map, List.length_take_of_le fit]; exact low) _
  rw [upTo (number + 1) (number + 1) (Nat.le_refl _) bound, resolvedTo] at unwritten
  have records : ∀ earlier ∈ (resolved ctx web values).take number ++ [value],
      ∃ record, (ctx.resolve web earlier).result = .ok record := by
    intro earlier member
    rw [← resolvedTo] at member
    exact record_of_resolved (List.mem_of_mem_take member)
  obtain ⟨after, fault, stops, ledgerAfter, capacityAfter, countAfter⟩ := process_stopped ledger records
    (fun earlier member => by
      rw [mem_numbers, List.length_map, count] at member
      rw [← upTo number earlier member.2 (by omega)]
      exact written earlier (mem_numbers.mpr ⟨member.1, by omega⟩) member.2)
    (by rw [count]; exact unwritten) rest
  refine ⟨after, fault, ?_, ?_, capacityAfter, countAfter.trans count⟩
  · rw [← parts, ← valuesTo] at stops
    exact stops
  · rw [linesFor, ← List.map_take, resolvedTo]
    exact ledgerAfter

/-! ### The run -/

theorem requests_occurrencesOf (ctx : Context) (web : Web) (values : List String) :
    Occurrence.requests (occurrencesOf ctx web values) = values.flatMap (requestsFor ctx web) := by
  rw [occurrencesOf, Occurrence.requests, List.filterMap_flatMap]
  congr 1
  funext value
  exact requests_resolve ctx web value

/-- A run over a writer that accepts all lines is that over an unlimited one. -/
theorem run_accepted (ctx : Context) (web : Web) (input : Input) (overflow : Overflow)
    (accepts : Accepts capacity failingFlush (linesFor ctx web (identifiers (delivered input)))) :
    let ideal := ctx.run web input (.new .unlimited)
    let bounded := ctx.run web input (.new ⟨capacity, overflow, failingFlush, #[], 0⟩)
    bounded.result = ideal.result ∧
      bounded.output.sink.content.toList = ideal.output.sink.content.toList ∧
      bounded.occurrences = ideal.occurrences ∧
      bounded.output.written = ideal.output.written := by
  intro ideal bounded
  obtain ⟨occurrences, failure, goes⟩ := process_accepted ctx web (identifiers (delivered input))
  obtain ⟨last, idealRun, idealLedger, idealCapacity, idealWritten⟩ := goes (.new .unlimited)
    (ledger_new none .takesNothing none) (fun _ _ => rfl)
  obtain ⟨after, boundedRun, boundedLedger, boundedCapacity, boundedWritten⟩ :=
    goes (.new ⟨capacity, overflow, failingFlush, #[], 0⟩) (ledger_new capacity overflow failingFlush) (by
      intro number member
      have unhindered := (accepts_iff capacity failingFlush _).mp accepts number member
      rw [hinders_iff, Bool.not_eq_false] at unhindered
      exact unhindered)
  have whole : held capacity (linesFor ctx web (identifiers (delivered input))).flatten =
      (linesFor ctx web (identifiers (delivered input))).flatten := by
    cases capacity with
    | none => rfl
    | some most =>
      have fit := accepts.1 most rfl
      rw [reach, List.take_length] at fit
      exact List.take_of_length_le fit
  have idealContent : last.sink.content.toList = (linesFor ctx web (identifiers (delivered input))).flatten := by
    rw [idealLedger.content, idealCapacity]
    rfl
  have boundedContent : after.sink.content.toList = (linesFor ctx web (identifiers (delivered input))).flatten := by
    rw [boundedLedger.content, boundedCapacity]
    exact whole
  simp only [ideal, bounded, Context.run, values_are_identifiers, idealRun, boundedRun, idealContent,
    boundedContent, idealWritten, boundedWritten, and_self]

/-- A run over an unlimited writer writes all lines. -/
theorem run_unlimited (ctx : Context) (web : Web) (input : Input) :
    (ctx.run web input (.new .unlimited)).output.sink.content.toList =
      (linesFor ctx web (identifiers (delivered input))).flatten := by
  have takes : TakesEverything (Output.new Sink.unlimited).sink := ⟨rfl, rfl⟩
  rw [run_output ctx web takes, content_withLines, List.flatMap_def]
  rfl

/-- A writer that does not accept all lines hinders a first one. -/
theorem exists_first_hindered (refuses : ¬ Accepts capacity failingFlush lines) :
    ∃ number, IsLeast {number | number ∈ numbers lines ∧ Hinders capacity failingFlush lines number} number := by
  classical
  rw [accepts_iff] at refuses
  push Not at refuses
  have hindered : ∃ number, number ∈ numbers lines ∧ Hinders capacity failingFlush lines number := refuses
  exact ⟨Nat.find hindered, Nat.isLeast_find hindered⟩

/-- A run over a writer that hinders a line ends at the first such. -/
theorem run_hindered (ctx : Context) (web : Web) (input : Input) (overflow : Overflow)
    (first : IsLeast {number | number ∈ numbers (linesFor ctx web (identifiers (delivered input))) ∧
      Hinders capacity failingFlush (linesFor ctx web (identifiers (delivered input))) number} number) :
    let values := identifiers (delivered input)
    let bounded := ctx.run web input (.new ⟨capacity, overflow, failingFlush, #[], 0⟩)
    (∃ fault, bounded.result = .error (.io fault)) ∧
      bounded.output.sink.content.toList =
        held capacity ((linesFor ctx web values).flatten.take (reach (linesFor ctx web values) number)) ∧
      bounded.output.written = number - 1 ∧
      Occurrence.requests bounded.occurrences = (values.take number).flatMap (requestsFor ctx web) := by
  intro values bounded
  obtain ⟨⟨member, hindered⟩, least⟩ := first
  obtain ⟨positive, within⟩ := mem_numbers.mp member
  obtain ⟨before, rfl⟩ : ∃ before, number = before + 1 := ⟨number - 1, by omega⟩
  obtain ⟨after, fault, stops, ledger, bound, written⟩ := process_hindered
    (ledger_new capacity overflow failingFlush) within
    (by
      intro earlier among early
      by_contra unwritten
      have no_later := least ⟨among,
        (hinders_iff capacity failingFlush _ _).mpr (Bool.eq_false_iff.mpr unwritten)⟩
      omega)
    ((hinders_iff capacity failingFlush _ _).mp hindered)
  have run : bounded = ⟨after, occurrencesOf ctx web (values.take (before + 1)), .error (.io fault)⟩ := by
    simp only [bounded, Context.run, values_are_identifiers, stops, values]
  have cut : (linesFor ctx web values).flatten.take (reach (linesFor ctx web values) (before + 1)) =
      ((linesFor ctx web values).take (before + 1)).flatten := by
    have parts := congrArg List.flatten (List.take_append_drop (before + 1) (linesFor ctx web values))
    rw [List.flatten_append] at parts
    rw [← parts, reach, List.take_left]
  rw [run]
  refine ⟨⟨fault, rfl⟩, ?_, written, requests_occurrencesOf ctx web _⟩
  rw [ledger.content, bound, cut]
  rfl

/-- **A failing writer only cuts a run short.** A writer that accepts all lines
of a run makes no difference to it. Any other hinders a line, and the run ends
at the first such: with a fault of the writer, having written what fits of the
lines up to it, having counted those before it, and having asked for nothing on
behalf of a later value. -/
theorem failing_writer_truncates (ctx : Context) (web : Web) (input : Input) (capacity : Option Nat)
    (overflow : Overflow) (failingFlush : Option Nat) :
    let values := identifiers (delivered input)
    let lines := linesFor ctx web values
    let ideal := ctx.run web input (.new .unlimited)
    let bounded := ctx.run web input (.new ⟨capacity, overflow, failingFlush, #[], 0⟩)
    ideal.output.sink.content.toList = lines.flatten ∧
    Occurrence.requests ideal.occurrences = (values.take (lines.length + 1)).flatMap (requestsFor ctx web) ∧
    (Accepts capacity failingFlush lines →
      bounded.result = ideal.result ∧
      bounded.output.sink.content.toList = ideal.output.sink.content.toList ∧
      Occurrence.requests bounded.occurrences = Occurrence.requests ideal.occurrences ∧
      bounded.output.written = ideal.output.written) ∧
    (¬ Accepts capacity failingFlush lines →
      ∃ number, IsLeast {number | number ∈ numbers lines ∧ Hinders capacity failingFlush lines number} number ∧
        (∃ fault, bounded.result = .error (.io fault)) ∧
        bounded.output.sink.content.toList =
          held capacity (ideal.output.sink.content.toList.take (reach lines number)) ∧
        bounded.output.written = number - 1 ∧
        Occurrence.requests bounded.occurrences = (values.take number).flatMap (requestsFor ctx web)) := by
  intro values lines ideal bounded
  have content : ideal.output.sink.content.toList = lines.flatten := run_unlimited ctx web input
  have takes : TakesEverything (Output.new Sink.unlimited).sink := ⟨rfl, rfl⟩
  have requests := run_requests ctx web takes input
  have count : lines.length = (resolved ctx web values).length := List.length_map _
  refine ⟨content, ?_, ?_, ?_⟩
  · rw [count]
    exact requests
  · intro accepts
    obtain ⟨result, same, occurrences, written⟩ := run_accepted ctx web input overflow accepts
    exact ⟨result, same, congrArg Occurrence.requests occurrences, written⟩
  · intro refuses
    obtain ⟨number, first⟩ := exists_first_hindered refuses
    refine ⟨number, first, ?_⟩
    rw [content]
    exact run_hindered ctx web input overflow first

/-- Three values, one of them nobody's. -/
def threeValues : List String :=
  ["(no author)", "x", "x"]

/-- The three values line by line. -/
def threeLines : Input :=
  .ofBytes (Text.Utf8.bytesOf "(no author)\nx\nx")

/-- Of three lines the second is cut off in its middle, and a writer that takes
them to the last byte has them all. -/
theorem failing_writer_truncates_second_line :
    ¬ Accepts (some 30) none (linesFor localContext .unreachable threeValues) ∧
      Accepts (some 70) (some 4) (linesFor localContext .unreachable threeValues) ∧
      (∃ fault, (localContext.run .unreachable threeLines
        (.new ⟨some 30, .fails, none, #[], 0⟩)).result = .error (.io fault)) ∧
      (localContext.run .unreachable threeLines (.new ⟨some 30, .fails, none, #[], 0⟩)).output.sink.content.toList =
        Text.Utf8.bytesOf "(no author) = (no author)\nx = " ∧
      (localContext.run .unreachable threeLines (.new ⟨some 30, .fails, none, #[], 0⟩)).output.written = 1 ∧
      (localContext.run .unreachable threeLines (.new ⟨some 70, .fails, some 4, #[], 0⟩)).result = .ok 3 := by
  have values : identifiers (delivered threeLines) = threeValues := by decide +kernel
  have ends : reach (linesFor localContext .unreachable threeValues) 1 = 26 ∧
      reach (linesFor localContext .unreachable threeValues) 2 = 48 ∧
      reach (linesFor localContext .unreachable threeValues) 3 = 70 ∧
      (linesFor localContext .unreachable threeValues).length = 3 := by decide +kernel
  have whole : (localContext.run .unreachable threeLines (.new .unlimited)).result = .ok 3 := by decide +kernel
  have cut : held (some 30) ((linesFor localContext .unreachable threeValues).flatten.take 48) =
      Text.Utf8.bytesOf "(no author) = (no author)\nx = " := by decide +kernel
  have refuses : ¬ Accepts (some 30) none (linesFor localContext .unreachable threeValues) := by
    intro accepts
    have fit := accepts.1 30 rfl
    rw [ends.2.2.2, ends.2.2.1] at fit
    omega
  have accepts : Accepts (some 70) (some 4) (linesFor localContext .unreachable threeValues) := by
    refine ⟨fun most bounded => ?_, fun flush failing => ?_⟩
    · rw [ends.2.2.2, ends.2.2.1, ← Option.some.inj bounded]
    · rw [ends.2.2.2, ← Option.some.inj failing]
      omega
  obtain ⟨content, -, -, stops⟩ := failing_writer_truncates localContext .unreachable threeLines (some 30) .fails none
  obtain ⟨-, -, same, -⟩ :=
    failing_writer_truncates localContext .unreachable threeLines (some 70) .fails (some 4)
  rw [values] at content stops same
  obtain ⟨number, first, result, held, written, -⟩ := stops refuses
  have second : number = 2 := by
    have atMost : number ≤ 2 := first.2 ⟨mem_numbers.mpr (by omega), .inl ⟨30, rfl, by omega⟩⟩
    have positive := (mem_numbers.mp first.1.1).1
    rcases first.1.2 with ⟨most, bounded, exceeds⟩ | failing
    · have most : most = 30 := (Option.some.inj bounded).symm
      rcases Nat.lt_or_ge number 2 with one | two
      · obtain rfl : number = 1 := by omega
        omega
      · omega
    · cases failing
  rw [second] at written held
  rw [content, ends.2.1, cut] at held
  exact ⟨refuses, accepts, result, held, written, (same accepts).1.trans whole⟩

end AuthorNames.BoundedRun
