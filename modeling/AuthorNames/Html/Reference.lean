import AuthorNames.Html.Entities
/-!
Character references: an ampersand followed by a name or by a number behind a hash sign. The reader
takes one character at a time and decides as soon as it can; what turns out to be no reference is
text.
-/

namespace AuthorNames.Html

/-- What has been read behind an ampersand. -/
inductive Reference where
  | start
  | named (seen : List Char)
  | hash
  | hexHash (marker : Char)
  | number (isHex : Bool) (value : Nat)
  deriving DecidableEq, Repr

/-- What the next character makes of a reference: more of it, or the text it stands for. The
character may have been part of it, or is still to be read. -/
inductive ReferenceStep where
  | more (reference : Reference)
  | finished (text : List Char) (isPart : Bool)
  deriving DecidableEq, Repr

namespace Reference

/-- The characters meant by the numbers `80` to `9F`, which name none themselves; zero where there
is none meant either. -/
def meantByControl : List Nat :=
  [0x20AC, 0, 0x201A, 0x192, 0x201E, 0x2026, 0x2020, 0x2021, 0x2C6, 0x2030, 0x160, 0x2039, 0x152, 0,
    0x17D, 0, 0, 0x2018, 0x2019, 0x201C, 0x201D, 0x2022, 0x2013, 0x2014, 0x2DC, 0x2122, 0x161,
    0x203A, 0x153, 0, 0x17E, 0x178]

/-- The character with a number. -/
def numbered (value : Nat) : Char :=
  if value = 0 ∨ 0x10FFFF < value ∨ (0xD800 ≤ value ∧ value ≤ 0xDFFF) then '\uFFFD'
  else if 0x80 ≤ value ∧ value ≤ 0x9F then
    match meantByControl.getD (value - 0x80) 0 with
    | 0 => Char.ofNat value
    | meant => Char.ofNat meant
  else Char.ofNat value

/-- The value of a digit in the base at hand. -/
def digit? (isHex : Bool) (c : Char) : Option Nat :=
  if isHex then Unicode.hexDigit? c else if c.isDigit then some (c.toNat - 48) else none

/-- The longest beginning of the text, of at most the given length, that is a name, and its
characters. -/
def longestName? (text : List Char) : Nat → Option (List Char × List Char)
  | 0 => none
  | length + 1 =>
    match entity? (text.take (length + 1)) with
    | some characters => some (characters, text.drop (length + 1))
    | none => longestName? text length

/-- The text of a name that does not go on: the longest name in it, and the rest as it is. In the
value of an attribute a name without its semicolon counts only if neither a letter, a figure nor an
equals sign follows. -/
def resolve (inValue : Bool) (seen : List Char) (next : Option Char) : List Char :=
  match longestName? seen seen.length with
  | none => '&' :: seen
  | some (characters, rest) =>
    let follows := match rest.head? <|> next with
      | some c => c == '=' || c.isAlphanum
      | none => false
    if inValue && follows then '&' :: seen else characters ++ rest

/-- Reads the next character; `inValue` in the value of an attribute. -/
def feed (inValue : Bool) : Reference → Char → ReferenceStep
  | start, c =>
    if c = '#' then .more hash
    else if c.isAlphanum ∧ beginsEntity [c] then .more (named [c])
    else .finished ['&'] false
  | named seen, c =>
    let longer := seen ++ [c]
    match if c = ';' then entity? longer else none with
    | some characters => .finished characters true
    | none =>
      if beginsEntity longer then .more (named longer)
      else .finished (resolve inValue seen (some c)) false
  | hash, c =>
    if c = 'x' ∨ c = 'X' then .more (hexHash c)
    else
      match digit? false c with
      | some d => .more (number false d)
      | none => .finished ['&', '#'] false
  | hexHash marker, c =>
    match digit? true c with
    | some d => .more (number true d)
    | none => .finished ['&', '#', marker] false
  | number isHex value, c =>
    match digit? isHex c with
    | some d => .more (number isHex (min (value * (if isHex then 16 else 10) + d) 0x110000))
    | none => .finished [numbered value] (c == ';')

/-- The text of a reference that the end of the page breaks off. -/
def finish : Reference → List Char
  | start => ['&']
  | named seen => resolve false seen none
  | hash => ['&', '#']
  | hexHash marker => ['&', '#', marker]
  | number _ value => [numbered value]

end Reference

end AuthorNames.Html
