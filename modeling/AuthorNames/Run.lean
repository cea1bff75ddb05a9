import AuthorNames.Input
import AuthorNames.Lookup
import AuthorNames.Output.Basic
/-!
A run: one record for each line of the input, in order. It ends at the first value that has no record
and at the first record that cannot be written, and nothing is asked for after that.
-/

namespace AuthorNames

/-- How far a run got: the output, what happened, and the failure that ended it, if one did. -/
structure Progression where
  output : Output
  occurrences : List Occurrence
  failure : Option Failure

namespace Context

/-- The records of the values, each written before the next is looked up. -/
def process (ctx : Context) (web : Web) : List String → Output → Progression
  | [], output => ⟨output, [], none⟩
  | value :: rest, output =>
    let account := ctx.resolve web value
    match account.result with
    | .error failure => ⟨output, account.occurrences, some failure⟩
    | .ok record =>
      match output.emit record with
      | (output, some fault) => ⟨output, account.occurrences, some (.io fault)⟩
      | (output, none) =>
        let later := process ctx web rest output
        { later with occurrences := account.occurrences ++ later.occurrences }

/-- What a run came to: the output, what happened, and the number of records that the output has
written in all. -/
structure Run where
  output : Output
  occurrences : List Occurrence
  result : Except Failure Nat

/-- A run over an input. A failure of the input comes behind the lines that it left whole. -/
def run (ctx : Context) (web : Web) (input : Input) (output : Output) : Run :=
  let p := ctx.process web input.values output
  ⟨p.output, p.occurrences,
    match p.failure, input.failure with
    | some failure, _ => .error failure
    | none, some reason => .error (.io (.reported reason))
    | none, none => .ok p.output.written⟩

end Context

end AuthorNames
