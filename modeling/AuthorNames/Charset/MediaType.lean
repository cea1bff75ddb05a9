/-!
The charset that a media type names, as in `text/html; charset=koi8-r`. A text that is no media type
names none, whatever stands in it; of several charsets the first counts.
-/

namespace AuthorNames.Charset

/-- The characters of names and of values without quotes. -/
def isToken (c : Char) : Bool :=
  c.isAlphanum ||
    ['!', '#', '$', '%', '&', '\'', '*', '+', '-', '.', '^', '_', '\x60', '|', '~'].contains c

/-- The characters of values in quotes. -/
def isQuotable (c : Char) : Bool :=
  31 < c.toNat && c.toNat < 127

/-- A parameter in lower case and its value. -/
abbrev Parameter := List Char × List Char

/-- The text behind a value in quotes: spaces, and a semicolon or the end. -/
def afterQuoted? (text : List Char) : Option (List Char) :=
  match text.dropWhile (· = ' ') with
  | [] => some []
  | ';' :: rest => some rest
  | _ => none

/-- The value that a text begins with, and the text behind the semicolon that follows it. A value
in quotes has at least one character, which may itself be a quote. -/
def readValue? : List Char → Option (List Char × List Char)
  | '\x22' :: first :: rest =>
    let value := first :: rest.takeWhile (· ≠ '\x22')
    match rest.dropWhile (· ≠ '\x22') with
    | [] => none
    | _ :: behind =>
      if value.all isQuotable then (afterQuoted? behind).map ((value, ·)) else none
  | text =>
    match text.takeWhile isToken, text.dropWhile isToken with
    | value, [] => some (value, [])
    | value, c :: rest => if c = ';' ∧ !value.isEmpty then some (value, rest) else none

/-- The parameters of a media type; the first argument bounds their number. -/
def readParameters? : Nat → List Char → Option (List Parameter)
  | 0, _ => some []
  | count + 1, text =>
    match text.dropWhile (· = ' ') with
    | [] => some []
    | text =>
      match text.takeWhile isToken, text.dropWhile isToken with
      | name, '=' :: text => do
        if name.isEmpty then none
        let (value, rest) ← readValue? text
        return (name.map Char.toLower, value) :: (← readParameters? count rest)
      | _, _ => none

/-- The parameters of a media type, if the text is one: a type, a slash, a subtype, and parameters
behind semicolons. -/
def mediaParameters? (text : List Char) : Option (List Parameter) :=
  match text.takeWhile isToken, text.dropWhile isToken with
  | _ :: _, '/' :: text =>
    match text.takeWhile isToken, text.dropWhile isToken with
    | _, [] => some []
    | _ :: _, ';' :: text => readParameters? text.length text
    | _, _ => none
  | _, _ => none

/-- The name of the charset of a media type. -/
def charsetName? (mediaType : String) : Option String := do
  let parameters ← mediaParameters? mediaType.toList
  let value ← parameters.lookup "charset".toList
  return String.ofList value

end AuthorNames.Charset
