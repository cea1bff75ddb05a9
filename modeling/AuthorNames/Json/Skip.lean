import AuthorNames.Json.Number
import AuthorNames.Json.Text
/-!
Values that nobody asked for, of any depth. The lists and objects that are open are kept on a stack
of their own, so depth costs nothing but the stack's length.
-/

namespace AuthorNames.Json

/-- A list or an object that is open. -/
inductive Frame where
  | list | object
  deriving DecidableEq, Repr

namespace Cursor

/-- A value up to its end, or a bracket that opens a list or an object. -/
def skipScalar (c : Cursor) : Except Fault (Option Frame × Cursor) :=
  match c.rest with
  | [] => c.failAhead .endInValue
  | 'n' :: _ => (expectRest ['u', 'l', 'l'] c.next).map (none, ·)
  | 't' :: _ => (expectRest ['r', 'u', 'e'] c.next).map (none, ·)
  | 'f' :: _ => (expectRest ['a', 'l', 's', 'e'] c.next).map (none, ·)
  | '-' :: _ => c.next.skipNumber.map (none, ·)
  | '\x22' :: _ => c.next.skipString.map (none, ·)
  | '[' :: _ => .ok (some .list, c.next)
  | '{' :: _ => .ok (some .object, c.next)
  | d :: _ => if d.isDigit then c.skipNumber.map (none, ·) else c.failAhead .noValue

/-- Behind a value, or behind an opening bracket: the brackets that close, and the comma between
values. What stays open when another value follows is the new stack; with nothing open, all has been
read. -/
def skipClosing (behindValue : Bool) : List Frame → Cursor → Except Fault (List Frame × Cursor)
  | [], c => .ok ([], c)
  | frame :: outer, c =>
    let c := c.skipBlanks
    match c.rest, frame with
    | [], .list => c.failAhead .endInList
    | [], .object => c.failAhead .endInObject
    | ']' :: _, .list => skipClosing true outer c.next
    | '}' :: _, .object => skipClosing true outer c.next
    | x :: _, _ =>
      if !behindValue then .ok (frame :: outer, c)
      else if x = ',' then .ok (frame :: outer, c.next)
      else match frame with
        | .list => c.failAhead .noCommaInList
        | .object => c.failAhead .noCommaInObject

/-- The colon between a name and its value. -/
def colon (c : Cursor) : Except Fault Cursor :=
  let c := c.skipBlanks
  match c.rest with
  | [] => c.failAhead .endInObject
  | ':' :: _ => .ok c.next
  | _ => c.failAhead .noColon

/-- The name in front of a value, where the value is one of an object. -/
def skipName : List Frame → Cursor → Except Fault Cursor
  | .object :: _, c =>
    let c := c.skipBlanks
    match c.rest with
    | [] => c.failAhead .endInObject
    | '\x22' :: _ => do (← c.next.skipString).colon
    | _ => c.failAhead .noKey
  | _, c => .ok c

/-- Values until nothing is open; the first argument bounds their number. -/
def skipValues : Nat → List Frame → Cursor → Except Fault Cursor
  | 0, _, c => c.fail .endInValue
  | count + 1, frames, c => do
    let (opened, c) ← c.skipBlanks.skipScalar
    let (frames, c) ← match opened with
      | some frame => skipClosing false (frame :: frames) c
      | none => skipClosing true frames c
    if frames.isEmpty then .ok c
    else skipValues count frames (← skipName frames c)

/-- A value that nobody asked for. -/
def skipValue (c : Cursor) : Except Fault Cursor :=
  skipValues (c.rest.length + 1) [] c

end Cursor

end AuthorNames.Json
