/-!
What a lookup comes to when the run goes on: a name, or a reason to do without one.
-/

namespace AuthorNames

/-- Why an identifier stands in for the name. -/
inductive FallbackReason where
  /-- The page could not be had; the message says why. -/
  | noPage (message : String)
  | namelessPage
  deriving DecidableEq, Repr

/-- Why, in words. -/
def FallbackReason.text : FallbackReason → String
  | .noPage message => "request failed: " ++ message
  | .namelessPage => "profile page has no display name"

/-- What a lookup comes to. -/
inductive Outcome where
  | fetched (name : String)
  | fallback (reason : FallbackReason)
  deriving DecidableEq, Repr

end AuthorNames
