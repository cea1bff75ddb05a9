import AuthorNames.Json.Cursor
/-!
Strings. Between the quotes every character but a control stands for itself, and a backslash begins
an escape. Characters beyond sixteen bits are written as two numbers, which have to come in pair. In
a string that nobody asked for only the form of its escapes is looked at.
-/

namespace AuthorNames.Json

namespace Cursor

/-- The character that a backslash and a letter stand for. -/
def shortEscape? (c : Char) : Option Char :=
  match c with
  | '\x22' => some '\x22'
  | '\\' => some '\\'
  | '/' => some '/'
  | 'b' => some '\x08'
  | 'f' => some '\x0c'
  | 'n' => some '\n'
  | 'r' => some '\r'
  | 't' => some '\t'
  | _ => none

/-- Behind a number of bytes, which may end within a character. -/
def pastBytes (position : Position) : List UInt8 → Position
  | [] => position
  | b :: rest =>
    pastBytes (if b = 10 then ⟨position.line + 1, 0⟩ else ⟨position.line, position.column + 1⟩) rest

/-- The number that four hexadecimal digits write, and the place behind them. The four bytes are
taken before they are looked at. -/
def hexNumber (c : Cursor) : Except Fault (Nat × Cursor) :=
  let digits := c.rest.take 4
  match digits.mapM Unicode.hexDigit? with
  | some [a, b, x, y] =>
    .ok (((a * 16 + b) * 16 + x) * 16 + y, ⟨c.rest.drop 4, advance c.position digits⟩)
  | _ =>
    let bytes := (Text.Utf8.encode digits).take 4
    let position := pastBytes c.position bytes
    .error ⟨if bytes.length < 4 then .endInString else .badEscape, position⟩

/-- A character that has to come next, in the middle of a pair of numbers. -/
def pairSign (c : Cursor) (sign : Char) : Except Fault Cursor :=
  match c.rest with
  | [] => c.fail .endInString
  | x :: _ => if x = sign then .ok c.next else c.failAhead .endOfEscape

/-- The character that a number written behind `\u` stands for, or two such numbers. -/
def numberedChar (c : Cursor) : Except Fault (Char × Cursor) := do
  let (first, c) ← c.hexNumber
  if 0xDC00 ≤ first ∧ first ≤ 0xDFFF then c.fail .loneSurrogate
  else if 0xD800 ≤ first ∧ first ≤ 0xDBFF then do
    let c ← c.pairSign '\\'
    let c ← c.pairSign 'u'
    let (second, c) ← c.hexNumber
    if 0xDC00 ≤ second ∧ second ≤ 0xDFFF then
      .ok (Char.ofNat (0x10000 + (first - 0xD800) * 0x400 + (second - 0xDC00)), c)
    else c.fail .loneSurrogate
  else .ok (Char.ofNat first, c)

/-- The character that an escape stands for, behind its backslash. -/
def escaped (c : Cursor) : Except Fault (Char × Cursor) :=
  match c.rest with
  | [] => c.fail .endInString
  | 'u' :: _ => c.next.numberedChar
  | x :: _ =>
    match shortEscape? x with
    | some meant => .ok (meant, c.next)
    | none => c.failAhead .badEscape

/-- The rest of a string, its characters read so far latest first; the first argument bounds how
many are to come. -/
def stringFrom : Nat → List Char → Cursor → Except Fault (List Char × Cursor)
  | 0, _, c => c.fail .endInString
  | count + 1, reversed, c =>
    match c.rest with
    | [] => c.fail .endInString
    | '\x22' :: _ => .ok (reversed.reverse, c.next)
    | '\\' :: _ => do
      let (x, c) ← c.next.escaped
      stringFrom count (x :: reversed) c
    | x :: _ =>
      if x.toNat < 0x20 then c.failAhead .controlCharacter
      else stringFrom count (x :: reversed) c.next

/-- A string, behind its first quote. -/
def string (c : Cursor) : Except Fault (List Char × Cursor) :=
  stringFrom (c.rest.length + 1) [] c

/-- The rest of a string that nobody asked for. -/
def skipStringFrom : Nat → Cursor → Except Fault Cursor
  | 0, c => c.fail .endInString
  | count + 1, c =>
    match c.rest with
    | [] => c.fail .endInString
    | '\x22' :: _ => .ok c.next
    | ['\\'] => c.next.fail .endInString
    | '\\' :: 'u' :: _ => do
      let (_, c) ← c.next.next.hexNumber
      skipStringFrom count c
    | '\\' :: x :: _ =>
      if (shortEscape? x).isSome then skipStringFrom count c.next.next else c.next.failAhead .badEscape
    | x :: _ => if x.toNat < 0x20 then c.fail .controlCharacter else skipStringFrom count c.next

/-- A string that nobody asked for, behind its first quote. -/
def skipString (c : Cursor) : Except Fault Cursor :=
  skipStringFrom (c.rest.length + 1) c

end Cursor

end AuthorNames.Json
