import AuthorNames.Failure
import AuthorNames.Text.Blank
import AuthorNames.Url.Parser
/-!
The settings of a run: each may be given in a file or on the command line, and has a default. A
setting is looked at only when it is used, so one that is overridden may hold anything.
-/

namespace AuthorNames

/-- What becomes of an identifier whose page shows no display name. -/
inductive MissingNamePolicy where
  /-- The run ends. -/
  | abort
  /-- The record is that of a page that could not be had. -/
  | fallback
  deriving DecidableEq, Repr

/-- The settings as they are given. -/
structure Settings where
  baseUrl : Option String
  addressDomain : Option String
  onMissingName : Option MissingNamePolicy
  timeoutSecs : Option UInt64
  deriving DecidableEq, Repr

namespace Settings

/-- No setting is given. -/
def empty : Settings :=
  ⟨none, none, none, none⟩

/-- The base URL when none is given. -/
def defaultBaseUrl : String :=
  "http://sourceforge.net/users/"

/-- The domain of addresses when none is given. -/
def defaultAddressDomain : String :=
  "users.sourceforge.net"

/-- The URL that identifiers are put behind, without the blanks around it. -/
def base (s : Settings) : Except Failure Url :=
  let text := s.baseUrl.getD defaultBaseUrl
  match Url.parse (Text.trim text) with
  | .error fault => .error (.url fault)
  | .ok url => if url.isOpaque then .error (.config (.opaqueBase text)) else .ok url

/-- The domain of the addresses, without the blanks around it. -/
def domain (s : Settings) : Except Failure String :=
  let text := Text.trim (s.addressDomain.getD defaultAddressDomain)
  if text.isEmpty then .error (.config .blankDomain) else .ok text

/-- What becomes of an identifier whose page shows no name. -/
def policy (s : Settings) : MissingNamePolicy :=
  s.onMissingName.getD .abort

/-- How many seconds a request may take, `none` for as long as it likes. -/
def timeout (s : Settings) : Except Failure (Option UInt64) :=
  if s.timeoutSecs = some 0 then .error .zeroTimeout else .ok s.timeoutSecs

end Settings

end AuthorNames
