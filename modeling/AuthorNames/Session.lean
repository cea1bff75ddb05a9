import AuthorNames.Run
/-!
Several things done one after the other with the same settings and the same output. A step that fails
does not end the session.
-/

namespace AuthorNames

/-- Something to do. -/
inductive Step where
  | lookup (identifier : String)
  | resolve (value : String)
  | run (input : Input)
  | emit (record : Record)
  /-- Puts a reply at a URL. -/
  | serve (url : String) (reply : Reply)
  deriving DecidableEq, Repr

/-- What a step came to. -/
inductive StepResult where
  | lookedUp (outcome : Outcome)
  | resolved (record : Record)
  | ran (written : Nat)
  | done
  deriving DecidableEq, Repr

/-- Where a session stands. -/
structure Session where
  context : Context
  web : Web
  output : Output

/-- One step of a session. -/
def Session.step (s : Session) : Step → Session × Account StepResult
  | .lookup identifier =>
    let account := s.context.lookup s.web identifier
    (s, ⟨account.occurrences, account.result.map .lookedUp⟩)
  | .resolve value =>
    let account := s.context.resolve s.web value
    (s, ⟨account.occurrences, account.result.map .resolved⟩)
  | .run input =>
    let run := s.context.run s.web input s.output
    ({ s with output := run.output }, ⟨run.occurrences, run.result.map .ran⟩)
  | .emit record =>
    match s.output.emit record with
    | (output, some fault) => ({ s with output }, ⟨[], .error (.io fault)⟩)
    | (output, none) => ({ s with output }, ⟨[], .ok .done⟩)
  | .serve url reply => ({ s with web := s.web.put url reply }, ⟨[], .ok .done⟩)

end AuthorNames
