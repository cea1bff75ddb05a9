import AuthorNames.Text.Utf8
import AuthorNames.Unicode.Printable
/-!
Text in double quotes, the form in which messages show a string that may hold anything. Quotes,
backslashes and the usual controls get a backslash, characters that would not be seen get their
number, and everything else stands for itself.
-/

namespace AuthorNames.Text.Quoted

/-- The digit of a value below sixteen, in lower case. -/
def hexDigit (value : Nat) : Char :=
  if value < 10 then Char.ofNat (48 + value) else Char.ofNat (87 + value)

/-- The hexadecimal digits of a number, without leading zeros; the first argument bounds their
count. -/
def hexDigits : Nat → Nat → List Char
  | 0, _ => []
  | count + 1, value =>
    if value < 16 then [hexDigit value] else hexDigits count (value / 16) ++ [hexDigit (value % 16)]

/-- A character by its number: a backslash, `u`, and the digits in braces. -/
def byNumber (c : Char) : List Char :=
  ['\\', 'u', '\x7b'] ++ hexDigits 8 c.toNat ++ ['\x7d']

/-- One character as it stands between the quotes. -/
def escape (c : Char) : List Char :=
  if c = '\x00' then ['\\', '0']
  else if c = '\t' then ['\\', 't']
  else if c = '\n' then ['\\', 'n']
  else if c = '\r' then ['\\', 'r']
  else if c = '\\' ∨ c = '\x22' then ['\\', c]
  else if Unicode.isPrintable c then [c]
  else byNumber c

/-- A text between double quotes. -/
def quote (text : String) : String :=
  String.ofList (['\x22'] ++ text.toList.flatMap escape ++ ['\x22'])

end AuthorNames.Text.Quoted
