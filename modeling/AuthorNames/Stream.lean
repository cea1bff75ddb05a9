import AuthorNames.Output.Writer
import AuthorNames.Run
/-!
A run as its input arrives, over anything that bytes can be written to. A line is looked for in one
piece after the other, and the next one only when the record of the one before has been written, so
what a failure of the reader, of a lookup or of the writer leaves undone can be seen.
-/

namespace AuthorNames

namespace Input

/-- What reading on comes to. -/
inductive Next where
  | line (bytes : List UInt8) (behind : Input)
  | broken (reason : String)
  | ended
  deriving DecidableEq, Repr

/-- The pieces behind a line feed; a piece that is used up is gone. -/
def behindFeed (piece : List UInt8) (rest : List (List UInt8)) : List (List UInt8) :=
  if piece.isEmpty then rest else piece :: rest

/-- Reads pieces until one holds a line feed or there are no more, behind bytes of the line that
arrived before. -/
def nextFrom (failure : Option String) (pending : List UInt8) : List (List UInt8) → Next
  | [] =>
    match failure with
    | some reason => .broken reason
    | none => if pending.isEmpty then .ended else .line pending ⟨[], none⟩
  | piece :: rest =>
    match piece.dropWhile (· ≠ 10) with
    | [] => nextFrom failure (pending ++ piece) rest
    | _ :: behind => .line (pending ++ piece.takeWhile (· ≠ 10)) ⟨behindFeed behind rest, failure⟩

/-- Reads the next line. -/
def next (input : Input) : Next :=
  nextFrom input.failure [] input.pieces

/-- How many bytes are still to come. -/
def remaining (input : Input) : Nat :=
  input.pieces.flatten.length

theorem remaining_nextFrom {failure : Option String} {pieces : List (List UInt8)} {pending bytes : List UInt8}
    {behind : Input} (found : nextFrom failure pending pieces = .line bytes behind) :
    behind.remaining < pending.length + pieces.flatten.length := by
  induction pieces generalizing pending with
  | nil =>
    cases failure with
    | some reason => cases found
    | none =>
      rw [nextFrom] at found
      split at found
      · cases found
      · rename_i begun
        obtain ⟨rfl, rfl⟩ := Next.line.inj found
        have positive : 0 < pending.length := List.length_pos_iff.mpr (by simpa using begun)
        simpa [remaining] using positive
  | cons piece rest ih =>
    rw [nextFrom] at found
    split at found
    · have fewer := ih found
      simp only [List.length_append, List.flatten_cons] at fewer ⊢
      omega
    · rename_i feed after split
      cases found
      have whole := congrArg List.length (List.takeWhile_append_dropWhile (p := (· ≠ (10 : UInt8))) (l := piece))
      rw [split] at whole
      have left : (behindFeed after rest).flatten = after ++ rest.flatten := by
        unfold behindFeed
        split <;> simp_all
      simp only [remaining, left, List.length_append, List.flatten_cons, List.length_cons] at whole ⊢
      omega

/-- Every line that is read was still to come. -/
theorem remaining_next {input : Input} {bytes : List UInt8} {behind : Input}
    (found : input.next = .line bytes behind) : behind.remaining < input.remaining := by
  simpa [remaining] using remaining_nextFrom found

end Input

namespace Context

/-- What a run over a writer came to. -/
structure StreamedRun (σ : Type) where
  output : Tally σ
  occurrences : List Occurrence
  result : Except Failure Nat

/-- What a run over a sink came to. -/
def StreamedRun.ofSink (r : StreamedRun Sink) : Run :=
  ⟨⟨r.output.state, r.output.written⟩, r.occurrences, r.result⟩

/-- A run over an input as it arrives: one line is read, resolved and written before the next. -/
def stream {σ : Type} (ctx : Context) (web : Web) (w : Writer σ) (input : Input) (output : Tally σ) :
    StreamedRun σ :=
  match _found : input.next with
  | .ended => ⟨output, [], .ok output.written⟩
  | .broken reason => ⟨output, [], .error (.io (.reported reason))⟩
  | .line bytes behind =>
    let account := ctx.resolve web (Input.valueOf bytes)
    match account.result with
    | .error failure => ⟨output, account.occurrences, .error failure⟩
    | .ok record =>
      match w.emit output record with
      | (output, some fault) => ⟨output, account.occurrences, .error (.io fault)⟩
      | (output, none) =>
        let later := stream ctx web w behind output
        { later with occurrences := account.occurrences ++ later.occurrences }
  termination_by input.remaining
  decreasing_by exact Input.remaining_next _found

end Context

end AuthorNames
