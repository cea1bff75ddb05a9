import AuthorNames.Proofs.RunReference
import AuthorNames.Proofs.SinkLedger
import AuthorNames.Session

/-! What a session leaves in its output is decided by the records that it
handed over and by nothing else. They are kept in a journal, with what became
of each, whether a run or a single step handed them over; a journal that is
played back leaves the same output, and the output shows the account of the
journal's lines. -/
namespace AuthorNames.SessionJournal
open AuthorNames.RunReference AuthorNames.SinkLedger

/-- A record that was handed over, and the fault if it could not be written. -/
structure Emission where
  record : Record
  fault : Option IoFault
  deriving DecidableEq, Repr

/-- The lines that an output was asked to write. -/
def linesOf (journal : List Emission) : List (List UInt8) :=
  journal.map fun emission => lineBytes emission.record

/-- Hands over records one after the other, whatever becomes of them. -/
def emitAll : Output → List Record → Output × List Emission
  | output, [] => (output, [])
  | output, record :: rest =>
    let emitted := output.emit record
    let later := emitAll emitted.1 rest
    (later.1, ⟨record, emitted.2⟩ :: later.2)

/-- The records that a loop over values hands over: each value's, up to the
first that has none or cannot be written. -/
def emissionsFor (ctx : Context) (web : Web) : List String → Output → List Emission
  | [], _ => []
  | value :: rest, output =>
    match (ctx.resolve web value).result with
    | .error _ => []
    | .ok record =>
      match output.emit record with
      | (_, some fault) => [⟨record, some fault⟩]
      | (output, none) => ⟨record, none⟩ :: emissionsFor ctx web rest output

/-- The records that a step hands over. -/
def emissionsOf (s : Session) : Step → List Emission
  | .run input => emissionsFor s.context s.web input.values s.output
  | .emit record => [⟨record, (s.output.emit record).2⟩]
  | .lookup _ => []
  | .resolve _ => []
  | .serve _ _ => []

/-- Where a session stands behind steps. -/
def after (s : Session) (steps : List Step) : Session :=
  steps.foldl (fun s step => (s.step step).1) s

/-- The records that a session handed over in its steps, in order. -/
def journal (s : Session) : List Step → List Emission
  | [] => []
  | step :: rest => emissionsOf s step ++ journal (s.step step).1 rest

/-- A session that begins with an empty sink. -/
def opened (ctx : Context) (web : Web) (capacity : Option Nat) (overflow : Overflow)
    (failingFlush : Option Nat) : Session :=
  ⟨ctx, web, .new ⟨capacity, overflow, failingFlush, #[], 0⟩⟩

/-! ### Playing back -/

theorem emitAll_append (output : Output) (first second : List Record) :
    emitAll output (first ++ second) =
      let earlier := emitAll output first
      let later := emitAll earlier.1 second
      (later.1, earlier.2 ++ later.2) := by
  induction first generalizing output with
  | nil => rfl
  | cons record rest ih => rw [List.cons_append, emitAll, ih]; rfl

/-- A loop does to its output what its records do when they are handed over. -/
theorem process_plays_back (ctx : Context) (web : Web) (values : List String) (output : Output) :
    emitAll output ((emissionsFor ctx web values output).map Emission.record) =
      ((ctx.process web values output).output, emissionsFor ctx web values output) := by
  induction values generalizing output with
  | nil => rfl
  | cons value rest ih =>
    rw [emissionsFor, Context.process]
    cases result : (ctx.resolve web value).result with
    | error failure => rfl
    | ok record =>
      dsimp only
      cases emitted : output.emit record with
      | mk next fault =>
        cases fault with
        | some fault => simp [emitAll, emitted]
        | none => simp [emitAll, emitted, ih next]

/-- A step, of whatever kind, does to its output what the records that it hands
over do there on their own. -/
theorem step_plays_back (s : Session) (step : Step) :
    emitAll s.output ((emissionsOf s step).map Emission.record) = ((s.step step).1.output, emissionsOf s step) := by
  cases step with
  | run input => exact process_plays_back s.context s.web input.values s.output
  | emit record =>
    rw [emissionsOf, Session.step]
    cases emitted : s.output.emit record with
    | mk next fault => cases fault <;> simp [emitAll, emitted]
  | lookup identifier => rfl
  | resolve value => rfl
  | serve url reply => rfl

/-- The journal plays a session back: its records, handed over one by one, leave
the session's output and come to what is written down of them. -/
theorem journal_plays_back (s : Session) (steps : List Step) :
    emitAll s.output ((journal s steps).map Emission.record) = ((after s steps).output, journal s steps) := by
  induction steps generalizing s with
  | nil => rfl
  | cons step rest ih =>
    rw [journal, List.map_append, emitAll_append, step_plays_back]
    dsimp only
    rw [ih]
    rfl

/-! ### The account of a journal -/

/-- What an output and the journal of what was handed over to it tell about
each other. -/
structure Kept (output : Output) (journal : List Emission) : Prop where
  ledger : Ledger output (linesOf journal)
  outcomes : ∀ (index : Nat) (emission : Emission), journal[index]? = some emission →
    (emission.fault = none ↔
      isWritten output.sink.capacity output.sink.failingFlush (linesOf journal) (index + 1) = true)
  written : output.written = journal.countP (·.fault.isNone)

theorem linesOf_append (first second : List Emission) :
    linesOf (first ++ second) = linesOf first ++ linesOf second :=
  List.map_append

theorem length_linesOf (journal : List Emission) : (linesOf journal).length = journal.length :=
  List.length_map _

/-- Handing over one record more keeps what an output and its journal tell about
each other. -/
theorem emit_keeps {output : Output} {before : List Emission} (kept : Kept output before) (record : Record) :
    Kept (output.emit record).1 (before ++ [⟨record, (output.emit record).2⟩]) := by
  obtain ⟨ledger, outcome⟩ := emit_keeps_ledger kept.ledger record
  obtain ⟨capacity, failingFlush⟩ := emit_bounds output record
  refine ⟨?_, ?_, ?_⟩
  · rw [linesOf_append]
    exact ledger
  · intro index emission found
    rw [capacity, failingFlush, linesOf_append]
    rw [length_linesOf] at outcome
    rcases Nat.lt_or_ge index before.length with earlier | last
    · rw [List.getElem?_append_left earlier] at found
      rw [isWritten_append (by rw [length_linesOf]; omega)]
      exact kept.outcomes index emission found
    · rw [List.getElem?_append_right last] at found
      obtain ⟨rfl, rfl⟩ : index = before.length ∧ ⟨record, (output.emit record).2⟩ = emission := by
        rw [List.getElem?_singleton] at found
        split at found
        · rename_i first
          exact ⟨by omega, Option.some.inj found⟩
        · cases found
      exact outcome
  · rw [emit_written, kept.written, List.countP_append, List.countP_singleton]

theorem emitAll_keeps {output : Output} {before : List Emission} (kept : Kept output before)
    (records : List Record) :
    Kept (emitAll output records).1 (before ++ (emitAll output records).2) ∧
      (emitAll output records).1.sink.capacity = output.sink.capacity ∧
      (emitAll output records).1.sink.failingFlush = output.sink.failingFlush := by
  induction records generalizing output before with
  | nil => simpa [emitAll] using kept
  | cons record rest ih =>
    obtain ⟨later, capacity, failingFlush⟩ := ih (emit_keeps kept record)
    obtain ⟨sameCapacity, sameFlush⟩ := emit_bounds output record
    rw [List.append_assoc] at later
    exact ⟨later, capacity.trans sameCapacity, failingFlush.trans sameFlush⟩

theorem kept_new (capacity : Option Nat) (overflow : Overflow) (failingFlush : Option Nat) :
    Kept (.new ⟨capacity, overflow, failingFlush, #[], 0⟩) [] :=
  ⟨ledger_new capacity overflow failingFlush, fun _ _ found => (nomatch found), rfl⟩

/-- A run that succeeds returns the number of all records written. -/
theorem run_counts {s : Session} {input : Input} {count : Nat}
    (finished : (s.step (.run input)).2.result = .ok (.ran count)) :
    count = (s.step (.run input)).1.output.written := by
  rw [Session.step, Context.run] at finished ⊢
  dsimp only at finished ⊢
  split at finished
  · cases finished
  · cases finished
  · cases finished
    rfl

/-- **The session's invariant.** After any steps the sink holds the first bytes
of the lines that were handed over, as many as fit; it was flushed once for
each line up to whose end everything fits; a record was written if its line is
one of these and its flush did not fail, and the counter counts those. A run
that succeeds returns the counter. The journal is that of the output: handing
its records over again leaves the same. What is no run and no record leaves the
output as it is. -/
theorem session_keeps_account (ctx : Context) (web : Web) (capacity : Option Nat) (overflow : Overflow)
    (failingFlush : Option Nat) (steps : List Step) :
    let start := opened ctx web capacity overflow failingFlush
    let s := after start steps
    let journal := journal start steps
    let lines := linesOf journal
    s.output.sink.content.toList = held capacity lines.flatten ∧
    s.output.sink.flushes = (numbers lines).countP (fits capacity lines) ∧
    (∀ (index : Nat) (emission : Emission), journal[index]? = some emission →
      (emission.fault = none ↔ fits capacity lines (index + 1) = true ∧ failingFlush ≠ some (index + 1))) ∧
    s.output.written = journal.countP (·.fault.isNone) ∧
    (∀ (input : Input) (count : Nat), (s.step (.run input)).2.result = .ok (.ran count) →
      count = (s.step (.run input)).1.output.written) ∧
    emitAll start.output (journal.map Emission.record) = (s.output, journal) ∧
    (∀ identifier, (s.step (.lookup identifier)).1.output = s.output) ∧
    (∀ value, (s.step (.resolve value)).1.output = s.output) ∧
    ∀ url reply, (s.step (.serve url reply)).1.output = s.output := by
  intro start s journal lines
  have plays := journal_plays_back start steps
  have fresh : Kept start.output [] := kept_new capacity overflow failingFlush
  obtain ⟨kept, bounded, failing⟩ := emitAll_keeps fresh (journal.map Emission.record)
  rw [plays] at kept bounded failing
  rw [List.nil_append] at kept
  have bounded : s.output.sink.capacity = capacity := bounded
  have failing : s.output.sink.failingFlush = failingFlush := failing
  refine ⟨?_, ?_, ?_, kept.written, ?_, plays, fun _ => rfl, fun _ => rfl, fun _ _ => rfl⟩
  · rw [kept.ledger.content, bounded]
  · rw [kept.ledger.flushes, bounded]
  · intro index emission found
    rw [kept.outcomes index emission found, bounded, failing, isWritten, Bool.and_eq_true, decide_eq_true_eq]
  · intro input count finished
    exact run_counts finished

/-- A record, a run and another record. -/
def threeSteps : List Step :=
  [.emit ⟨"a", "b"⟩, .run (.ofBytes (Text.Utf8.bytesOf "(no author)\nx")), .emit ⟨"c", "d"⟩]

/-- The flush of the run's first record fails, and the sink is full to the last
byte before the next record, so one of three lines counts. -/
theorem session_keeps_account_of_three_lines :
    journal (opened localContext .unreachable (some 32) .fails (some 2)) threeSteps =
        [⟨⟨"a", "b"⟩, none⟩, ⟨⟨noAuthor, noAuthor⟩, some (.reported "flush failed")⟩,
          ⟨⟨"c", "d"⟩, some (.reported "sink full")⟩] ∧
      fits (some 32) (linesOf (journal (opened localContext .unreachable (some 32) .fails (some 2)) threeSteps)) 1 =
        true ∧
      (after (opened localContext .unreachable (some 32) .fails (some 2)) threeSteps).output.sink.content.toList =
        Text.Utf8.bytesOf "a = b\n(no author) = (no author)\n" ∧
      (after (opened localContext .unreachable (some 32) .fails (some 2)) threeSteps).output.sink.flushes = 2 ∧
      (after (opened localContext .unreachable (some 32) .fails (some 2)) threeSteps).output.written = 1 ∧
      ((after (opened localContext .unreachable (some 32) .fails (some 2)) threeSteps).step
        (.run (.ofBytes []))).1.output.written = 1 := by
  have entries : journal (opened localContext .unreachable (some 32) .fails (some 2)) threeSteps =
      [⟨⟨"a", "b"⟩, none⟩, ⟨⟨noAuthor, noAuthor⟩, some (.reported "flush failed")⟩,
        ⟨⟨"c", "d"⟩, some (.reported "sink full")⟩] := by decide +kernel
  have further : ((after (opened localContext .unreachable (some 32) .fails (some 2)) threeSteps).step
      (.run (.ofBytes []))).2.result = .ok (.ran 1) := by decide +kernel
  obtain ⟨content, flushes, outcomes, written, counts, -⟩ :=
    session_keeps_account localContext .unreachable (some 32) .fails (some 2) threeSteps
  rw [entries] at content flushes outcomes written
  have full : held (some 32) (linesOf [⟨⟨"a", "b"⟩, none⟩, ⟨⟨noAuthor, noAuthor⟩, some (.reported "flush failed")⟩,
      ⟨⟨"c", "d"⟩, some (.reported "sink full")⟩]).flatten =
        Text.Utf8.bytesOf "a = b\n(no author) = (no author)\n" := by decide +kernel
  have twice : (numbers (linesOf [⟨⟨"a", "b"⟩, none⟩, ⟨⟨noAuthor, noAuthor⟩, some (.reported "flush failed")⟩,
      ⟨⟨"c", "d"⟩, some (.reported "sink full")⟩])).countP (fits (some 32) (linesOf [⟨⟨"a", "b"⟩, none⟩,
        ⟨⟨noAuthor, noAuthor⟩, some (.reported "flush failed")⟩,
        ⟨⟨"c", "d"⟩, some (.reported "sink full")⟩])) = 2 := by decide +kernel
  rw [full] at content
  rw [twice] at flushes
  refine ⟨entries, ?_, content, flushes, written, (counts (.ofBytes []) 1 further).symm⟩
  rw [entries]
  exact ((outcomes 0 ⟨⟨"a", "b"⟩, none⟩ rfl).mp rfl).1

end AuthorNames.SessionJournal
