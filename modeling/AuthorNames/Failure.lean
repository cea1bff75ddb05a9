import AuthorNames.Json.Cursor
import AuthorNames.Url.Host
import AuthorNames.Web.Fault
/-!
What can go wrong, by its cause. A page that cannot be had is a failure only of asking for it: its
lookup makes an outcome of that, and the run goes on.
-/

namespace AuthorNames

/-- A setting that cannot be used. -/
inductive ConfigFault where
  /-- The base URL is of a kind that no identifier can be put behind. -/
  | opaqueBase (text : String)
  | blankDomain
  | noSettingsFile (path : String)
  /-- The user has no directory for settings. -/
  | noUserDirectory
  deriving DecidableEq, Repr

/-- Reading or writing that failed. -/
inductive IoFault where
  | notUtf8
  | isDirectory
  /-- The sink took nothing more. -/
  | wroteNothing
  /-- The source or the sink gave a reason of its own. -/
  | reported (reason : String)
  deriving DecidableEq, Repr

/-- Why a run, or a step of one, ended early. -/
inductive Failure where
  | config (fault : ConfigFault)
  | zeroTimeout
  | missingDisplayName (identifier : String)
  | io (fault : IoFault)
  | json (fault : Json.Fault)
  | url (fault : Url.Fault)
  /-- A page could not be had. -/
  | http (fault : FetchFault)
  deriving DecidableEq, Repr

/-- The wording of a setting that cannot be used. -/
def ConfigFault.message : ConfigFault → String
  | .opaqueBase text => "base url `" ++ text ++ "` cannot carry a path"
  | .blankDomain => "address domain must not be empty"
  | .noSettingsFile path => "settings file `" ++ path ++ "` does not exist"
  | .noUserDirectory => "unable to resolve config directory"

/-- The wording of reading or writing that failed. -/
def IoFault.message : IoFault → String
  | .notUtf8 => "stream did not contain valid UTF-8"
  | .isDirectory => "Is a directory (os error 21)"
  | .wroteNothing => "failed to write whole buffer"
  | .reported reason => reason

/-- The wording of a failure. -/
def Failure.message : Failure → String
  | .config fault => "configuration error: " ++ fault.message
  | .zeroTimeout => "invalid input: timeout must be greater than 0"
  | .missingDisplayName identifier => "no display name found in profile page for `" ++ identifier ++ "`"
  | .io fault => "io error: " ++ fault.message
  | .json fault => "json error: " ++ fault.message
  | .url fault => "url parse error: " ++ fault.message
  | .http fault => "http error: " ++ fault.message

end AuthorNames
