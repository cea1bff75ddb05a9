import AuthorNames.CommandLine.Reader
import AuthorNames.Settings.Source
/-!
What a run goes by. The settings of the file come first and those of the command line on top; only
what comes out of that is looked at.
-/

namespace AuthorNames

/-- The settings as a run uses them. -/
structure Context where
  base : Url
  timeout : Option UInt64
  domain : String
  policy : MissingNamePolicy
  deriving DecidableEq, Repr

namespace Context

/-- The settings of a file with those of a command line on top. -/
def overlay (s : Settings) (r : CommandLine.Request) : Settings :=
  ⟨r.baseUrl <|> s.baseUrl, r.domain <|> s.addressDomain, r.onMissingName <|> s.onMissingName,
    r.timeout <|> s.timeoutSecs⟩

/-- The settings as a run uses them. Of several that cannot be used the base URL is reported first,
then the timeout, then the domain. -/
def ofSettings (s : Settings) : Except Failure Context := do
  let base ← s.base
  let timeout ← s.timeout
  let domain ← s.domain
  return ⟨base, timeout, domain, s.policy⟩

/-- What a command line and the files come to, with what is told on the way to it. -/
def bootstrap (files : Files) (r : CommandLine.Request) : Account Context :=
  let settings := Settings.locate files r.config
  ⟨settings.occurrences, do ofSettings (overlay (← settings.result) r)⟩

/-- What a command line and the files come to. -/
def ofRequest (files : Files) (r : CommandLine.Request) : Except Failure Context :=
  (bootstrap files r).result

end Context

end AuthorNames
