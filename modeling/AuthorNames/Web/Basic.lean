import AuthorNames.Url.Basic
/-!
The web as a run meets it: a table of replies by the URL that is asked for. Only plain connections
can be made, and a web may be out of reach altogether. A page that announces another is no answer.
-/

namespace AuthorNames

/-- What a server sends. -/
structure Page where
  status : Nat
  reason : String
  mediaType : Option String
  location : Option String
  body : List UInt8
  /-- How many bytes of those announced do not come. -/
  missing : Nat
  deriving DecidableEq, Repr

/-- Whether the page is the answer itself. A status below 200 announces another page, except that of
a server that changes its language, and no status has more than three digits. -/
def Page.isFinal (page : Page) : Bool :=
  page.status == 101 || (200 ≤ page.status && page.status < 1000)

/-- How a server answers. -/
inductive Reply where
  /-- The connection ends without an answer. -/
  | dropped
  | page (page : Page)
  deriving DecidableEq, Repr

/-- The reply as it is received. A page that is not the answer is passed over, and none follows. -/
def Reply.received : Reply → Reply
  | .dropped => .dropped
  | .page sent => if sent.isFinal then .page sent else .dropped

/-- The replies by URL, and whether there is a way to any server. -/
structure Web where
  isReachable : Bool
  replies : List (String × Reply)
  deriving DecidableEq, Repr

/-- The page of a URL that no server knows. -/
def Page.unknown : Page :=
  ⟨404, "", none, none, [], 0⟩

/-- The URL without user name and password. -/
def Url.withoutCredentials (url : Url) : Url :=
  { url with authority := url.authority.map fun a => { a with username := "", password := "" } }

/-- The URL as a server is asked for it: without its fragment. -/
def Url.requestText (url : Url) : String :=
  Url.text { url with fragment := none }

namespace Web

/-- A web in which no connection can be made. -/
def unreachable : Web :=
  ⟨false, []⟩

/-- The web with another reply at a URL. -/
def put (web : Web) (url : String) (reply : Reply) : Web :=
  { web with replies := (url, reply) :: web.replies.filter (·.1 ≠ url) }

/-- The reply to a request, `none` if no connection can be made. -/
def reply? (web : Web) (url : Url) : Option Reply :=
  if web.isReachable ∧ url.scheme = "http" then
    some ((web.replies.lookup url.requestText).getD (.page .unknown)).received
  else none

end Web

end AuthorNames
