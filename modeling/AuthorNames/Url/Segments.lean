import AuthorNames.Url.Basic
/-!
Paths as lists of segments, read one segment at a time. A segment that is a dot stands for the place
where it is and one that is two dots for the place above; every other is kept. An identifier is
written as one segment more, and read by the same rules, but with every character escaped that would
end a segment or begin an escape.
-/

namespace AuthorNames.Url

open AuthorNames.Unicode (splitWhere)

/-- Whether a segment stands for the place where it is; the dot may be written as an escape. -/
def isDot (segment : List Char) : Bool :=
  segment == ['.'] || segment == ['%', '2', 'e'] || segment == ['%', '2', 'E']

/-- Whether a segment stands for the place above: two dots, each perhaps an escape. -/
def isDotDot : List Char → Bool
  | '.' :: rest => isDot rest
  | '%' :: '2' :: e :: rest => (e == 'e' || e == 'E') && isDot rest
  | _ => false

/-- Whether a segment begins as a drive does, a letter and a colon or bar, and a slash or backslash
or nothing follows. It is never taken away by two dots. -/
def isDriveLike : List Char → Bool
  | letter :: colon :: rest =>
    letter.isAlpha && (colon == ':' || colon == '|') && (rest.isEmpty || rest.head? == some '\\')
  | _ => false

/-- Whether a segment is a drive: a letter and a colon or bar. -/
def isDrive (segment : List Char) : Bool :=
  segment.length == 2 && isDriveLike segment

/-- The segments without the last one, as two dots leave them. -/
def leave (closed : List (List Char)) : List (List Char) :=
  match closed.getLast? with
  | some last => if isDriveLike last then closed else closed.dropLast
  | none => []

/-- The drive at the beginning of a file's path has a colon. -/
def atFront (kind : Kind) (closed : List (List Char)) (segment : List Char) : List Char :=
  if kind = .file ∧ closed = [] ∧ isDrive segment then segment.take 1 ++ [':'] else segment

/-- The segments after one that a slash ends. -/
def close (kind : Kind) (closed : List (List Char)) (segment : List Char) : List (List Char) :=
  if isDotDot segment then leave closed
  else if isDot segment then closed
  else closed ++ [atFront kind closed segment]

/-- The segments after the last one. One that stands for a place leaves an empty segment. -/
def finish (kind : Kind) (closed : List (List Char)) (segment : List Char) : List (List Char) :=
  if isDotDot segment then leave closed ++ [[]]
  else if isDot segment then closed ++ [[]]
  else closed ++ [atFront kind closed segment]

/-- The segments of a path, from those before and the written ones to come. -/
def walk (kind : Kind) : List (List Char) → List (List Char) → List (List Char)
  | closed, [] => closed
  | closed, [last] => finish kind closed last
  | closed, segment :: rest => walk kind (close kind closed segment) rest

/-- A file's path does not begin with an empty segment unless it has no other. -/
def dropEmptyFront : List (List Char) → List (List Char)
  | [] :: segment :: rest => dropEmptyFront (segment :: rest)
  | list => list

/-- `dropEmptyFront` under the rules for files. -/
def settle (kind : Kind) (list : List (List Char)) : List (List Char) :=
  if kind = .file then dropEmptyFront list else list

/-- Whether a character ends a segment. -/
def isSeparator (kind : Kind) (c : Char) : Bool :=
  c == '/' || (kind.isSpecial && c == '\\')

/-- The segments that a text writes. -/
def readSegments (kind : Kind) (text : List Char) : List (List Char) :=
  settle kind (walk kind [] ((splitWhere (isSeparator kind) text).map (Percent.encode Percent.path)))

/-- Whether a character is dropped wherever it stands in a URL. -/
def isBreak (c : Char) : Bool :=
  c == '\t' || c == '\n' || c == '\r'

/-- The segments without an empty last one, unless that is the only one. -/
def dropEmptyBack (list : List (List Char)) : List (List Char) :=
  if list.length > 1 ∧ list.getLast? = some [] then list.dropLast else list

/-- The segments that another is put behind: a lone empty one is the root itself. -/
def base (list : List (List Char)) : List (List Char) :=
  if list = [[]] then [] else list

/-- The segments with one more. A dot or two dots add none, for the check on them comes before the
breaks are dropped; if one is left only then, it stands for its place as it does in a path. -/
def push (kind : Kind) (list : List (List Char)) (segment : List Char) : List (List Char) :=
  let list := dropEmptyBack list
  if segment = ['.'] ∨ segment = ['.', '.'] then list
  else
    let written := Percent.encode (Percent.segment kind.isSpecial) (segment.filter (!isBreak ·))
    settle kind (finish kind (base list) written)

/-- The URL with an identifier as the last segment of its path, and all else as it was; `none` if
the path cannot be taken apart. -/
def withSegment? (url : Url) (identifier : String) : Option Url :=
  match url.path with
  | .whole _ => none
  | .segments isGuarded list =>
    let list := push url.kind (list.map String.toList) identifier.toList
    some { url with path := .segments isGuarded (list.map String.ofList) }

end AuthorNames.Url
