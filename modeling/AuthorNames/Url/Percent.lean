import AuthorNames.Text.Utf8
/-!
Percent escapes. A character that has no place in a part of a URL is written as its bytes, each as a
percent sign and two digits. Which characters those are differs from part to part; a character that
is not ASCII has no place anywhere.
-/

namespace AuthorNames.Url.Percent

open AuthorNames.Text

/-- The characters that a part of a URL writes as escapes. -/
abbrev EscapeSet := Char → Bool

/-- Controls and all that is not ASCII: escaped in every part, and alone in a path that cannot be
taken apart. -/
def controls : EscapeSet := fun c =>
  c.toNat < 0x20 || 0x7F ≤ c.toNat

/-- The characters that a fragment escapes. -/
def fragment : EscapeSet := fun c =>
  controls c || c == ' ' || c == '\x22' || c == '<' || c == '>' || c == '\x60'

/-- The characters that a path escapes; slashes and percent signs keep their meaning. -/
def path : EscapeSet := fun c =>
  fragment c || c == '#' || c == '?' || c == '\x7b' || c == '\x7d'

/-- The characters that a user name and a password escape. -/
def credentials : EscapeSet := fun c =>
  path c || c == '/' || c == ':' || c == ';' || c == '=' || c == '@' || c == '[' || c == '\\' ||
    c == ']' || c == '^' || c == '|'

/-- The characters that a segment put at the end of a path escapes, so that it stays one segment.
Where a backslash separates segments too, it is one of them. -/
def segment (isSpecial : Bool) : EscapeSet := fun c =>
  path c || c == '/' || c == '%' || (isSpecial && c == '\\')

/-- The characters that a query escapes; a single quote only under the schemes of the web. -/
def query (isSpecial : Bool) : EscapeSet := fun c =>
  controls c || c == ' ' || c == '\x22' || c == '#' || c == '<' || c == '>' || (isSpecial && c == '\'')

/-- The digit of a value below sixteen, in upper case. -/
def hexDigit (value : Nat) : Char :=
  if value < 10 then Char.ofNat (48 + value) else Char.ofNat (55 + value)

/-- One byte as an escape. -/
def escapeByte (byte : UInt8) : List Char :=
  ['%', hexDigit (byte.toNat / 16), hexDigit (byte.toNat % 16)]

/-- One character as a part of a URL writes it. -/
def escape (set : EscapeSet) (c : Char) : List Char :=
  if set c then (String.utf8EncodeChar c).flatMap escapeByte else [c]

/-- A text as a part of a URL writes it. -/
def encode (set : EscapeSet) (text : List Char) : List Char :=
  text.flatMap (escape set)

/-- The value of a hexadecimal digit, in either case. -/
def digitValue? (c : Char) : Option Nat :=
  if '0' ≤ c ∧ c ≤ '9' then some (c.toNat - 48)
  else if 'A' ≤ c ∧ c ≤ 'F' then some (c.toNat - 55)
  else if 'a' ≤ c ∧ c ≤ 'f' then some (c.toNat - 87)
  else none

/-- The bytes that a text with escapes stands for; a percent sign that begins none stands for
itself. -/
def decode : List Char → List UInt8
  | [] => []
  | '%' :: high :: low :: rest =>
    match digitValue? high, digitValue? low with
    | some h, some l => UInt8.ofNat (h * 16 + l) :: decode rest
    | _, _ => String.utf8EncodeChar '%' ++ decode (high :: low :: rest)
  | c :: rest => String.utf8EncodeChar c ++ decode rest

end AuthorNames.Url.Percent
