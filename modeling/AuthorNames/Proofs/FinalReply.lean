import AuthorNames.Proofs.PolicySimulation

/-! Where asking for a page ends, and what the status of the last reply makes of
it. Statuses from 400 to 599 say that there is no such page, and the identifier
stands in. Every other reply that leads nowhere is read like a success, whatever
its status says: a page that was not sent again shows no name and ends the run,
and one of an unheard-of status can give its own. -/
namespace AuthorNames.FinalReply
open AuthorNames.LineSegments AuthorNames.Resolution AuthorNames.RunReference
open AuthorNames.PolicySimulation (run_missing)
open AuthorNames.Text.Utf8 (bytesOf)

variable {ctx : Context} {web : Web} {identifier : String} {redirects : Nat} {first url target last : Url}
  {page moved : Page} {text : List Char}

/-! One reply. -/

/-- The text that a page is read as, where its status does not say that there
is none. -/
def readText (page : Page) : String :=
  String.ofList (if page.isBodiless then [] else Charset.pageText page.mediaType page.body)

end AuthorNames.FinalReply
