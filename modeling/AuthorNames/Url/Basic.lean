import AuthorNames.Url.Host
/-!
URLs taken apart, and written again. A URL whose path cannot be taken apart into segments can carry
no identifier; every other path is a list of segments, which is what an identifier is put behind.
-/

namespace AuthorNames

namespace Url

/-- The rules a scheme follows: those of the web, those of files, which have a host only by
exception, and the general ones. -/
inductive Kind where
  | web | file | other
  deriving DecidableEq, Repr

namespace Kind

/-- The kind of a scheme in lower case. -/
def ofScheme : String → Kind
  | "http" | "https" | "ws" | "wss" | "ftp" => .web
  | "file" => .file
  | _ => .other

/-- Whether a backslash separates like a slash, and the path is never empty. -/
def isSpecial : Kind → Bool
  | .other => false
  | _ => true

end Kind

/-- The port that need not be written. -/
def defaultPort? : String → Option Nat
  | "http" | "ws" => some 80
  | "https" | "wss" => some 443
  | "ftp" => some 21
  | _ => none

/-- What stands between the two slashes and the path. An empty password is none. -/
structure Authority where
  username : String
  password : String
  host : Host
  port : Option Nat
  deriving DecidableEq, Repr

/-- The path: a text of its own, or segments, each behind a slash. Without an authority a path that
begins with two slashes would read as one, so it is written behind `/.`; `isGuarded` says that it
is. -/
inductive Path where
  | whole (text : String)
  | segments (isGuarded : Bool) (list : List String)
  deriving DecidableEq, Repr

end Url

/-- A URL, in its parts as they are written. -/
structure Url where
  scheme : String
  authority : Option Url.Authority
  path : Url.Path
  query : Option String
  fragment : Option String
  deriving DecidableEq, Repr

namespace Url

/-- Segments, each behind a slash. -/
def segmentText (list : List String) : List Char :=
  list.flatMap fun s => '/' :: s.toList

/-- The path as it is written, without its guard. -/
def Path.text : Path → List Char
  | .whole s => s.toList
  | .segments _ list => segmentText list

/-- What is written in front of the path to keep it from being read as an authority. -/
def Path.guard : Path → List Char
  | .segments true _ => ['/', '.']
  | _ => []

/-- The user name, and behind a colon the password, in front of the host. -/
def Authority.credentials (a : Authority) : List Char :=
  if a.username.isEmpty ∧ a.password.isEmpty then []
  else
    a.username.toList ++ (if a.password.isEmpty then [] else ':' :: a.password.toList) ++ ['@']

/-- The host, and behind a colon the port. -/
def Authority.hostText (a : Authority) : List Char :=
  a.host.text ++ match a.port with
    | none => []
    | some port => ':' :: Host.decimal port

/-- The authority with the two slashes in front of it. -/
def Authority.text (a : Authority) : List Char :=
  ['/', '/'] ++ a.credentials ++ a.hostText

/-- A part behind its sign, nothing where there is none. -/
def behind (sign : Char) : Option String → List Char
  | none => []
  | some s => sign :: s.toList

/-- The URL as it is written. -/
def text (url : Url) : String :=
  String.ofList (url.scheme.toList ++ [':'] ++ ((url.authority.map Authority.text).getD []) ++
    url.path.guard ++ url.path.text ++ behind '?' url.query ++ behind '#' url.fragment)

/-- Whether the path cannot be taken apart, so that nothing can be put behind it. -/
def isOpaque (url : Url) : Bool :=
  match url.path with
  | .whole _ => true
  | .segments .. => false

/-- The rules that the scheme follows. -/
def kind (url : Url) : Kind :=
  .ofScheme url.scheme

end Url

end AuthorNames
