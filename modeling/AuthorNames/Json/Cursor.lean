import AuthorNames.Text.Quoted
/-!
Reading settings text and saying where it went wrong. A place is a line and the number of bytes
before it on that line, so a fault is told by the byte that follows what was read, or by the byte
that was looked at.
-/

namespace AuthorNames.Json

/-- A place in a text. Lines count from one, the bytes before the place on its line from zero. -/
structure Position where
  line : Nat
  column : Nat
  deriving DecidableEq, Repr

/-- The place behind a character. -/
def Position.past (p : Position) (c : Char) : Position :=
  if c = '\n' then ⟨p.line + 1, 0⟩ else ⟨p.line, p.column + c.utf8Size⟩

/-- The place one byte further than `p`, when `c` comes next. -/
def Position.pastByte (p : Position) (c : Char) : Position :=
  if c = '\n' then ⟨p.line + 1, 0⟩ else ⟨p.line, p.column + 1⟩

/-- What stands where something else is expected. -/
inductive Found where
  | null
  | boolean (value : Bool)
  | natural (value : Nat)
  | negative (value : Nat)
  /-- A floating-point number, as it is written. -/
  | float (text : String)
  | string (text : String)
  | list
  | object
  deriving DecidableEq, Repr

/-- The wording of what was found. -/
def Found.text : Found → String
  | .null => "null"
  | .boolean b => "boolean `" ++ (if b then "true" else "false") ++ "`"
  | .natural n => "integer `" ++ toString n ++ "`"
  | .negative n => "integer `-" ++ toString n ++ "`"
  | .float x => "floating point `" ++ x ++ "`"
  | .string s => "string " ++ Text.Quoted.quote s
  | .list => "sequence"
  | .object => "map"

/-- Why a text is no settings text. -/
inductive Cause where
  | endInValue | endInList | endInObject | endInString
  | noValue | noIdent | noColon | noCommaInList | noCommaInObject | noKey
  | trailingComma | trailingCharacters
  | controlCharacter | badEscape | loneSurrogate | endOfEscape
  | badNumber | numberOutOfRange
  | wrongType (found : Found) (expected : String)
  | wrongValue (found : Found) (expected : String)
  | unknownVariant (name : String)
  | duplicateField (name : String)
  deriving DecidableEq, Repr

/-- The wording of a cause. -/
def Cause.message : Cause → String
  | .endInValue => "EOF while parsing a value"
  | .endInList => "EOF while parsing a list"
  | .endInObject => "EOF while parsing an object"
  | .endInString => "EOF while parsing a string"
  | .noValue => "expected value"
  | .noIdent => "expected ident"
  | .noColon => "expected `:`"
  | .noCommaInList => "expected `,` or `]`"
  | .noCommaInObject => "expected `,` or `\x7d`"
  | .noKey => "key must be a string"
  | .trailingComma => "trailing comma"
  | .trailingCharacters => "trailing characters"
  | .controlCharacter => "control character (\\u0000-\\u001F) found while parsing a string"
  | .badEscape => "invalid escape"
  | .loneSurrogate => "lone leading surrogate in hex escape"
  | .endOfEscape => "unexpected end of hex escape"
  | .badNumber => "invalid number"
  | .numberOutOfRange => "number out of range"
  | .wrongType found expected => "invalid type: " ++ found.text ++ ", expected " ++ expected
  | .wrongValue found expected => "invalid value: " ++ found.text ++ ", expected " ++ expected
  | .unknownVariant name => "unknown variant `" ++ name ++ "`, expected `abort` or `fallback`"
  | .duplicateField name => "duplicate field `" ++ name ++ "`"

/-- A cause and the place it is told by. -/
structure Fault where
  cause : Cause
  position : Position
  deriving DecidableEq, Repr

/-- The wording of a fault. -/
def Fault.message (f : Fault) : String :=
  f.cause.message ++ " at line " ++ toString f.position.line ++ " column " ++ toString f.position.column

/-- What is still to be read, and where it begins. -/
structure Cursor where
  rest : List Char
  position : Position
  deriving DecidableEq, Repr

namespace Cursor

/-- The beginning of a text. -/
def start (text : List Char) : Cursor :=
  ⟨text, ⟨1, 0⟩⟩

/-- Behind the next character. -/
def next (c : Cursor) : Cursor :=
  match c.rest with
  | [] => c
  | x :: rest => ⟨rest, c.position.past x⟩

/-- A fault told by what was read. -/
def fail {α : Type} (c : Cursor) (cause : Cause) : Except Fault α :=
  .error ⟨cause, c.position⟩

/-- A fault told by the byte that comes next. -/
def failAhead {α : Type} (c : Cursor) (cause : Cause) : Except Fault α :=
  .error ⟨cause, match c.rest with
    | [] => c.position
    | x :: _ => c.position.pastByte x⟩

/-- Whether a character may stand between any two parts of the text. -/
def isBlank (c : Char) : Bool :=
  c == ' ' || c == '\n' || c == '\t' || c == '\r'

/-- The place behind some characters. -/
def advance (position : Position) (text : List Char) : Position :=
  text.foldl Position.past position

/-- Behind the blanks. -/
def skipBlanks (c : Cursor) : Cursor :=
  ⟨c.rest.dropWhile isBlank, advance c.position (c.rest.takeWhile isBlank)⟩

/-- Behind characters that are the only ones a word can go on with. -/
def expectRest : List Char → Cursor → Except Fault Cursor
  | [], c => .ok c
  | expected :: more, c =>
    match c.rest with
    | [] => c.fail .endInValue
    | x :: _ => if x = expected then expectRest more c.next else c.failAhead .noIdent

end Cursor

end AuthorNames.Json
