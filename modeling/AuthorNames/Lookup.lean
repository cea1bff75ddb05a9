import AuthorNames.Account
import AuthorNames.Context
import AuthorNames.Profile.DisplayName
import AuthorNames.Record
import AuthorNames.Web.Fetch
/-!
From an identifier to its record. The page of the identifier is asked for; if it cannot be had the
identifier stands in for the name, and if it shows no name the policy decides whether the identifier
stands in or the run ends.
-/

namespace AuthorNames.Context

/-- The text of the page of an identifier. There is no asking for it if the base URL takes no
segment. -/
def page (ctx : Context) (web : Web) (identifier : String) : Account (List Char) :=
  match ctx.base.withSegment? identifier with
  | none => ⟨[], .error (.config (.opaqueBase ctx.base.text))⟩
  | some url =>
    let fetch := web.fetch url
    ⟨.told (.fetching url.text) :: fetch.requests.map .asked, fetch.outcome.mapError .http⟩

/-- What the page of an identifier comes to. A page that cannot be had is a reason to fall back, and
one without a name is a failure. -/
def lookup (ctx : Context) (web : Web) (identifier : String) : Account Outcome :=
  let page := ctx.page web identifier
  ⟨page.occurrences,
    match page.result with
    | .error (.http fault) => .ok (.fallback (.noPage fault.message))
    | .error failure => .error failure
    | .ok text =>
      match Profile.displayName? (String.ofList text) with
      | some name => .ok (.fetched name)
      | none => .error (.missingDisplayName identifier)⟩

/-- What the policy makes of a lookup: where it says so, a page without a name is a reason to fall
back too. -/
def applyPolicy (ctx : Context) (lookup : Account Outcome) : Account Outcome :=
  match lookup.result, ctx.policy with
  | .error (.missingDisplayName identifier), .fallback =>
    ⟨lookup.occurrences ++ [.told (.nameless identifier)], .ok (.fallback .namelessPage)⟩
  | _, _ => lookup

/-- The record of an identifier whose name is known. -/
def recordOf (ctx : Context) (name identifier : String) : Record :=
  ⟨identifier, contactAddress name identifier ctx.domain⟩

/-- The record that an author's lookup leads to. -/
def conclude (ctx : Context) (identifier : String) (lookup : Account Outcome) : Account Record :=
  match lookup.result with
  | .error failure => ⟨lookup.occurrences, .error failure⟩
  | .ok (.fetched name) => ⟨lookup.occurrences, .ok (ctx.recordOf name identifier)⟩
  | .ok (.fallback reason) =>
    ⟨lookup.occurrences ++ [.told (.fallingBack identifier reason)],
      .ok (ctx.recordOf identifier identifier)⟩

/-- The record of a value. The value that stands for no author is not looked up. -/
def resolve (ctx : Context) (web : Web) (value : String) : Account Record :=
  match Identity.of value with
  | .nobody => ⟨[], .ok ⟨value, value⟩⟩
  | .author identifier => ctx.conclude identifier (ctx.applyPolicy (ctx.lookup web identifier))

end AuthorNames.Context
