import AuthorNames.Text.Quoted
/-!
What can go wrong on the way to a page. Each fault names the URL at which it happened, except that of a
page that broke off.
-/

namespace AuthorNames

/-- Why a page could not be had. -/
inductive FetchFault where
  /-- No request can be made for the URL. -/
  | unsendable (url : String)
  /-- There was no connection, or no answer. -/
  | noReply (url : String)
  | tooManyRedirects (url : String)
  | badStatus (status : Nat) (reason : String) (url : String)
  /-- The page broke off. -/
  | brokenBody
  deriving DecidableEq, Repr

/-- One character of the reason that a server gives for a status, as it is shown: quotes, backslashes
and the usual controls behind a backslash, and of the others those that are printed as they are. -/
def escapeReason (c : Char) : List Char :=
  if c = '\n' then ['\\', 'n']
  else if c = '\r' then ['\\', 'r']
  else if c = '\t' then ['\\', 't']
  else if c = '\\' ∨ c = '\x22' then ['\\', c]
  else if c = '\x00' then ['\\', '0']
  else if 0x20 ≤ c.toNat ∧ c.toNat < 0x7F then [c]
  else ['\\', 'x', Text.Quoted.hexDigit (c.toNat / 16), Text.Quoted.hexDigit (c.toNat % 16)]

/-- The reason that a server gives for a status, as it is shown. One that is not ASCII is not read. -/
def shownReason (reason : String) : String :=
  if reason.toList.all (·.toNat < 0x80) then String.ofList (reason.toList.flatMap escapeReason) else ""

/-- Why a page could not be had, in words. -/
def FetchFault.message : FetchFault → String
  | .unsendable url => "builder error for url (" ++ url ++ ")"
  | .noReply url => "error sending request for url (" ++ url ++ ")"
  | .tooManyRedirects url => "error following redirect for url (" ++ url ++ ")"
  | .badStatus status reason url =>
    let side := if status < 500 then "client" else "server"
    "HTTP status " ++ side ++ " error (" ++ toString status ++ " " ++ shownReason reason ++
      ") for url (" ++ url ++ ")"
  | .brokenBody => "error decoding response body"

end AuthorNames
