import AuthorNames.Charset.Basic
import AuthorNames.Url.Join
import AuthorNames.Web.Basic
import AuthorNames.Web.Fault
/-!
Asking for a page, from one server to the next as the replies lead on, and its text at the end. A
fetch ends in a text or in a fault, after at most eleven requests.
-/

namespace AuthorNames

/-- The URLs asked for, in order, and what came of it. -/
structure Fetch where
  requests : List String
  outcome : Except FetchFault (List Char)

/-- The characters of a host that no request can hold. -/
def isUnsendableChar (c : Char) : Bool :=
  c == '\x22' || c == '\x60' || c == '\x7b' || c == '\x7d'

/-- Whether a request can be made for the URL. -/
def Url.isSendable (url : Url) : Bool :=
  (url.scheme == "http" || url.scheme == "https") && url.text.utf8ByteSize < 65535 &&
    url.authority.all fun a => !a.host.text.any isUnsendableChar

namespace Page

/-- The statuses that send the reader to another place. -/
def redirectStatuses : List Nat :=
  [301, 302, 303, 307, 308]

/-- Where the page sends its reader, if it does and the place has a URL. -/
def target? (page : Page) (url : Url) : Option Url := do
  guard (redirectStatuses.contains page.status)
  (url.join (← page.location)).toOption

/-- Whether the status says that there is no such page. -/
def isFailed (page : Page) : Bool :=
  400 ≤ page.status && page.status < 600

/-- Whether the status says that nothing follows. -/
def isBodiless (page : Page) : Bool :=
  page.status == 101 || page.status == 204 || page.status == 304

/-- The text of a page that was asked for by a URL. -/
def text (page : Page) (url : Url) : Except FetchFault (List Char) :=
  if page.isFailed then .error (.badStatus page.status page.reason url.requestText)
  else if page.isBodiless then .ok []
  else if page.missing > 0 then .error .brokenBody
  else .ok (Charset.pageText page.mediaType page.body)

end Page

namespace Web

/-- Asks for a URL and goes where the replies lead, for as many times as the number says. -/
def follow (web : Web) (first : Url) : Nat → Url → Fetch
  | redirects, url =>
    if !url.isSendable then ⟨[], .error (.unsendable url.text)⟩
    else
      match web.reply? url with
      | none => ⟨[], .error (.noReply first.text)⟩
      | some .dropped => ⟨[url.requestText], .error (.noReply first.text)⟩
      | some (.page page) =>
        match page.target? url with
        | none => ⟨[url.requestText], page.text url⟩
        | some target =>
          match redirects with
          | 0 => ⟨[url.requestText], .error (.tooManyRedirects url.requestText)⟩
          | redirects + 1 =>
            let rest := follow web first redirects target
            ⟨url.requestText :: rest.requests, rest.outcome⟩

/-- Asks for the page of a URL. User name and password are no part of what is shown of it. -/
def fetch (web : Web) (url : Url) : Fetch :=
  web.follow url.withoutCredentials 10 url.withoutCredentials

end Web

end AuthorNames
