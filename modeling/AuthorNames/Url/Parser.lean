import AuthorNames.Url.Segments
/-!
Reading a URL. Controls and spaces around the text and line breaks and tabs inside it do not count.
What follows the scheme depends on its kind; under the schemes of the web any number of slashes, of
either direction, leads to an authority.
-/

namespace AuthorNames.Url

/-- Drops what does not count: controls and spaces at the ends, tabs and line breaks anywhere. -/
def tidy (text : List Char) : List Char :=
  let isEdge := fun c : Char => c.toNat ≤ 0x20
  (((text.dropWhile isEdge).reverse.dropWhile isEdge).reverse).filter (!isBreak ·)

/-- Whether a character may follow the first letter of a scheme. -/
def isSchemeChar (c : Char) : Bool :=
  c.isAlphanum || c == '+' || c == '-' || c == '.'

/-- The scheme in lower case and what follows its colon. -/
def splitScheme? (text : List Char) : Option (String × List Char) :=
  match text with
  | [] => none
  | first :: _ =>
    match text.dropWhile isSchemeChar with
    | ':' :: rest =>
      if first.isAlpha then some (String.ofList ((text.takeWhile isSchemeChar).map Char.toLower), rest)
      else none
    | _ => none

/-- Whether a character ends the authority and begins the path, the query or the fragment. -/
def endsAuthority (kind : Kind) (c : Char) : Bool :=
  c == '/' || c == '?' || c == '#' || (kind.isSpecial && c == '\\')

/-- The host in front of its port: a colon ends it, unless it stands in brackets. -/
def takeHost : Bool → List Char → List Char × List Char
  | _, [] => ([], [])
  | inBrackets, c :: rest =>
    if c = ':' ∧ !inBrackets then ([], c :: rest)
    else
      let inBrackets := if c = '[' then true else if c = ']' then false else inBrackets
      let (host, rest) := takeHost inBrackets rest
      (c :: host, rest)

/-- The text before the last `@`, and the text after it. -/
def splitAtSign (text : List Char) : Option (List Char) × List Char :=
  if text.contains '@' then
    let back := text.reverse
    (some ((back.dropWhile (· ≠ '@')).drop 1).reverse, (back.takeWhile (· ≠ '@')).reverse)
  else (none, text)

/-- The port behind the colon; one that need not be written is none. Under the schemes that the
program knows nothing about a backslash ends it. -/
def parsePort (scheme : String) (text : List Char) : Except Fault (Option Nat × List Char) :=
  let digits := text.takeWhile Char.isDigit
  let rest := text.dropWhile Char.isDigit
  let value := digits.foldl (fun n d => min (n * 10 + (d.toNat - 48)) 65536) 0
  if value > 65535 then .error .badPort
  else if rest.isEmpty ∨ rest.head? = some '\\' then
    .ok (if digits.isEmpty ∨ defaultPort? scheme = some value then none else some value, rest)
  else .error .badPort

/-- The user name and the password of an authority. -/
def parseCredentials (text : List Char) : String × String :=
  let write := fun part => String.ofList (Percent.encode Percent.credentials part)
  (write (text.takeWhile (· ≠ ':')), write ((text.dropWhile (· ≠ ':')).drop 1))

/-- The authority that a text begins with, and what follows it. -/
def parseAuthority (scheme : String) (text : List Char) : Except Fault (Authority × List Char) := do
  let kind := Kind.ofScheme scheme
  let stretch := text.takeWhile (!endsAuthority kind ·)
  let rest := text.dropWhile (!endsAuthority kind ·)
  let (userinfo, place) := splitAtSign stretch
  if userinfo = some [] ∧ place = [] ∧ !rest.isEmpty then throw .emptyHost
  let (hostText, afterHost) := takeHost false place
  if kind = .web ∧ hostText.isEmpty then throw .emptyHost
  let host ← if kind = .web then Host.parse hostText else Host.parseOpaque hostText
  if host = .none ∧ !afterHost.isEmpty ∧ afterHost.head? = some ':' then throw .emptyHost
  let (port, afterPort) ← match afterHost with
    | ':' :: digits => parsePort scheme digits
    | _ => pure (none, afterHost)
  let (username, password) := parseCredentials (userinfo.getD [])
  if host = .none ∧ !(username.isEmpty && password.isEmpty) then throw .emptyHost
  return (⟨username, password, host, port⟩, afterPort ++ rest)

/-- The query and the fragment at the end of a URL. -/
def parseTail (kind : Kind) (text : List Char) : Option String × Option String :=
  let query := text.takeWhile (· ≠ '#')
  let fragment := text.dropWhile (· ≠ '#')
  (match query with
    | '?' :: q => some (String.ofList (Percent.encode (Percent.query kind.isSpecial) q))
    | _ => none,
   match fragment with
    | '#' :: f => some (String.ofList (Percent.encode Percent.fragment f))
    | _ => none)

/-- Whether a character ends the path. -/
def endsPath (c : Char) : Bool :=
  c == '?' || c == '#'

/-- The path, without the separator in front of it, that begins a text, and what follows it. -/
def splitPath (kind : Kind) (text : List Char) : List Char × List Char :=
  let path := text.takeWhile (!endsPath ·)
  let rest := text.dropWhile (!endsPath ·)
  match path with
  | c :: path => if isSeparator kind c then (path, rest) else (c :: path, rest)
  | [] => ([], rest)

/-- The URL with the path, query and fragment that a text writes behind an authority. -/
def behindAuthority (scheme : String) (authority : Authority) (text : List Char) : Url :=
  let kind := Kind.ofScheme scheme
  let (path, tail) := splitPath kind text
  let (query, fragment) := parseTail kind tail
  let isEmpty := !kind.isSpecial ∧ (text.takeWhile (!endsPath ·)).isEmpty
  let list := if isEmpty then [] else readSegments kind path
  ⟨scheme, some authority, .segments false (list.map String.ofList), query, fragment⟩

/-- The URL behind a scheme of the web and its slashes, or behind any other scheme and two. -/
def parseWithAuthority (scheme : String) (text : List Char) : Except Fault Url := do
  let (authority, rest) ← parseAuthority scheme text
  return behindAuthority scheme authority rest

/-- The URL behind a scheme that the program knows nothing about. -/
def parseOther (scheme : String) (text : List Char) : Except Fault Url :=
  match text with
  | '/' :: '/' :: rest => parseWithAuthority scheme rest
  | '/' :: rest =>
    let (query, fragment) := parseTail .other (rest.dropWhile (!endsPath ·))
    let list := readSegments .other (rest.takeWhile (!endsPath ·))
    let isGuarded := list.length > 1 ∧ list.head? = some []
    .ok ⟨scheme, none, .segments isGuarded (list.map String.ofList), query, fragment⟩
  | _ =>
    let (query, fragment) := parseTail .other (text.dropWhile (!endsPath ·))
    let path := Percent.encode Percent.controls (text.takeWhile (!endsPath ·))
    .ok ⟨scheme, none, .whole (String.ofList path), query, fragment⟩

/-- The URL of a file from its host and the text behind the slash that its path begins with. A host
in front of a drive is dropped. -/
def fileUrl (host : Host) (text : List Char) : Url :=
  let (query, fragment) := parseTail .file (text.dropWhile (!endsPath ·))
  let list := readSegments .file (text.takeWhile (!endsPath ·))
  let host := if (list.head?.map isDrive).getD false then .none else host
  ⟨"file", some ⟨"", "", host, none⟩, .segments false (list.map String.ofList), query, fragment⟩

/-- The URL behind the scheme of files: a host stands behind two slashes, of either direction. -/
def parseFile (text : List Char) : Except Fault Url :=
  let isSlash := fun c : Char => c == '/' || c == '\\'
  let dropSlash := fun text : List Char =>
    if (text.head?.map isSlash).getD false then text.drop 1 else text
  let beyondOne := dropSlash text
  if beyondOne.length < text.length then
    let beyondTwo := dropSlash beyondOne
    if beyondTwo.length < beyondOne.length then do
      let hostText := beyondTwo.takeWhile (!endsAuthority .file ·)
      if isDrive hostText then return fileUrl .none beyondTwo
      let rest := beyondTwo.dropWhile (!endsAuthority .file ·)
      let host ← if hostText.isEmpty then pure Host.none else Host.parse hostText
      if host = .none ∨ host = .name "localhost" then return fileUrl .none rest
      return fileUrl host (dropSlash rest)
    else .ok (fileUrl .none beyondOne)
  else .ok (fileUrl .none text)

/-- Reads a URL that stands on its own. -/
def parse (source : String) : Except Fault Url :=
  match splitScheme? (tidy source.toList) with
  | none => .error .noScheme
  | some (scheme, rest) =>
    match Kind.ofScheme scheme with
    | .web => parseWithAuthority scheme (rest.dropWhile fun c => c == '/' || c == '\\')
    | .file => parseFile rest
    | .other => parseOther scheme rest

end AuthorNames.Url
