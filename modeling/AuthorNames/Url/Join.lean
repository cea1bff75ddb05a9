import AuthorNames.Url.Parser
/-!
What a reference stands for on a page of the web. A reference without a scheme, and one with the
page's own and at most one slash behind it, keeps the parts of the page's URL in front of what it
writes itself.
-/

namespace AuthorNames.Url

open AuthorNames.Unicode (splitWhere)

/-- Whether a character is a slash of either direction. -/
def isSlash (c : Char) : Bool :=
  c == '/' || c == '\\'

/-- The segments that a reference writes behind those of the page, in place of the last one. -/
def referredSegments (base : Url) (path : List Char) : List String :=
  let closed := match base.path with
    | .whole _ => []
    | .segments _ list => (list.map String.toList).dropLast
  let written := (splitWhere isSlash path).map (Percent.encode Percent.path)
  (walk .web closed written).map String.ofList

/-- The URL of a reference without a scheme. -/
def joinRelative (base : Url) (text : List Char) : Except Fault Url :=
  let path := text.takeWhile (!endsPath ·)
  let (query, fragment) := parseTail .web (text.dropWhile (!endsPath ·))
  match path with
  | [] =>
    let isQuery := text.head? = some '?'
    .ok { base with query := if isQuery then query else base.query, fragment }
  | first :: rest =>
    if !isSlash first then
      .ok { base with path := .segments false (referredSegments base path), query, fragment }
    else if (rest.head?.map isSlash).getD false then
      parseWithAuthority base.scheme (match text with
        | '/' :: '/' :: text => text
        | _ => text.dropWhile isSlash)
    else
      let list := (readSegments .web rest).map String.ofList
      .ok { base with path := .segments false list, query, fragment }

/-- The URL of a reference on a page of the web. -/
def join (base : Url) (reference : String) : Except Fault Url :=
  let text := tidy reference.toList
  match splitScheme? text with
  | none => joinRelative base text
  | some (scheme, rest) =>
    if scheme = base.scheme ∧ (rest.takeWhile isSlash).length < 2 then joinRelative base rest
    else parse reference

end AuthorNames.Url
