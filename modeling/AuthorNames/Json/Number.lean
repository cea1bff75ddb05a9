import AuthorNames.Json.Cursor
import AuthorNames.Number.Shortest
/-!
Numbers. One that is written as a whole number and fits into 64 bits is whole; every other is a
floating-point number, got from its first digits that fit into 64 bits and a power of ten.
-/

namespace AuthorNames.Json

/-- A number that was read. Minus zero is a floating-point number. -/
inductive Numeral where
  | natural (value : Nat)
  | negative (value : Nat)
  | float (value : Float)

/-- The number as something found where something else is expected. -/
def Numeral.found : Numeral → Found
  | .natural n => .natural n
  | .negative n => .negative n
  | .float x => .float (Number.floatText x)

namespace Cursor

/-- The largest whole number. -/
def maxNatural : Nat :=
  0xFFFFFFFFFFFFFFFF

/-- The largest exponent that is counted exactly. -/
def maxExponent : Nat :=
  0x7FFFFFFF

/-- The digits that come next. -/
def digits (c : Cursor) : List Char :=
  c.rest.takeWhile Char.isDigit

/-- Behind the digits that come next. -/
def skipDigits (c : Cursor) : Cursor :=
  ⟨c.rest.dropWhile Char.isDigit, advance c.position c.digits⟩

/-- The value of a digit. -/
def digitOf (c : Char) : Nat :=
  c.toNat - 48

/-- Takes digits into a number while it does not exceed the limit; gives it, how many were taken,
and the rest of the digits. -/
def gather (limit : Nat) : Nat → Nat → List Char → Nat × Nat × List Char
  | value, taken, [] => (value, taken, [])
  | value, taken, d :: rest =>
    if limit < value * 10 + digitOf d then (value, taken, d :: rest)
    else gather limit (value * 10 + digitOf d) (taken + 1) rest

/-- A power of ten, each rounded on its own. -/
def powerOfTen (exponent : Nat) : Float :=
  Float.ofScientific 1 false exponent

/-- Divides by a power of ten, in steps of 308; the first argument bounds their number. -/
def divideByPower : Nat → Float → Nat → Float
  | 0, x, _ => x
  | steps + 1, x, exponent =>
    if exponent ≤ 308 then x / powerOfTen exponent
    else if x == 0 then x
    else divideByPower steps (x / powerOfTen 308) (exponent - 308)

/-- The number `significand * 10 ^ exponent`; one that is too large is a fault. -/
def scale (c : Cursor) (isNegative : Bool) (significand : Nat) (exponent : Int) :
    Except Fault (Numeral × Cursor) :=
  let x := (UInt64.ofNat significand).toFloat
  let sign := fun x : Float => if isNegative then -x else x
  if exponent < 0 then .ok (.float (sign (divideByPower 16 x exponent.natAbs)), c)
  else if 308 < exponent then
    if significand = 0 then .ok (.float (sign x), c) else c.fail .numberOutOfRange
  else
    let y := x * powerOfTen exponent.toNat
    if y.isInf then c.fail .numberOutOfRange else .ok (.float (sign y), c)

/-- Behind the sign of an exponent, and whether it is a minus. -/
def exponentSign (c : Cursor) : Bool × Cursor :=
  match c.rest with
  | '+' :: _ => (false, c.next)
  | '-' :: _ => (true, c.next)
  | _ => (false, c)

/-- A sum of exponents within 32 bits. -/
def clamp (exponent : Int) : Int :=
  max (-0x80000000) (min 0x7FFFFFFF exponent)

/-- The exponent, behind its letter, and with it the number. -/
def exponentPart (c : Cursor) (isNegative : Bool) (significand : Nat) (before : Int) :
    Except Fault (Numeral × Cursor) :=
  let (isDown, c) := c.exponentSign
  match c.rest with
  | [] => c.fail .endInValue
  | d :: _ =>
    if !d.isDigit then c.failAhead .badNumber
    else
      let (value, taken, left) := gather maxExponent 0 0 c.digits
      if left.isEmpty then
        c.skipDigits.scale isNegative significand (clamp (if isDown then before - value else before + value))
      else if significand ≠ 0 ∧ !isDown then
        Cursor.fail ⟨[], advance c.position (c.digits.take (taken + 1))⟩ .numberOutOfRange
      else .ok (.float (if isNegative then -0.0 else 0.0), c.skipDigits)

/-- What may follow the digits of a number that is a floating-point number already. -/
def afterDigits (c : Cursor) (isNegative : Bool) (significand : Nat) (exponent : Int) :
    Except Fault (Numeral × Cursor) :=
  match c.rest with
  | 'e' :: _ | 'E' :: _ => c.next.exponentPart isNegative significand exponent
  | _ => c.scale isNegative significand exponent

/-- The digits behind the point, and with them the number. -/
def fractionPart (c : Cursor) (isNegative : Bool) (significand : Nat) (exponent : Int) :
    Except Fault (Numeral × Cursor) :=
  let (significand, taken, left) := gather maxNatural significand 0 c.digits
  if taken = 0 ∧ left.isEmpty then
    match c.rest with
    | [] => c.fail .endInValue
    | _ => c.failAhead .badNumber
  else c.skipDigits.afterDigits isNegative significand (exponent - taken)

/-- A whole number in full. -/
def wholeNumeral (isNegative : Bool) (value : Nat) : Numeral :=
  if !isNegative then .natural value
  else if value = 0 ∨ 0x8000000000000000 < value then .float (-(UInt64.ofNat value).toFloat)
  else .negative value

/-- A number, behind its sign. -/
def number (c : Cursor) (isNegative : Bool) : Except Fault (Numeral × Cursor) :=
  match c.rest with
  | [] => c.fail .endInValue
  | d :: _ =>
    if !d.isDigit then c.failAhead .badNumber
    else if d = '0' ∧ (c.next.rest.head?.any Char.isDigit) then c.next.failAhead .badNumber
    else
      let (value, _, left) := gather maxNatural 0 0 c.digits
      let c := c.skipDigits
      match c.rest with
      | '.' :: _ => c.next.fractionPart isNegative value left.length
      | _ =>
        if left.isEmpty then
          match c.rest with
          | 'e' :: _ | 'E' :: _ => c.next.exponentPart isNegative value 0
          | _ => .ok (wholeNumeral isNegative value, c)
        else c.afterDigits isNegative value left.length

/-- The exponent of a number that nobody asked for, behind its letter. -/
def skipExponent (c : Cursor) : Except Fault Cursor :=
  let (_, c) := c.exponentSign
  match c.rest with
  | [] => c.fail .badNumber
  | d :: _ => if d.isDigit then .ok c.skipDigits else c.failAhead .badNumber

/-- What may follow the digits of a number that nobody asked for. -/
def skipAfterDigits (c : Cursor) : Except Fault Cursor :=
  match c.rest with
  | 'e' :: _ | 'E' :: _ => c.next.skipExponent
  | _ => .ok c

/-- A number that nobody asked for, behind its sign. -/
def skipNumber (c : Cursor) : Except Fault Cursor :=
  match c.rest with
  | [] => c.fail .badNumber
  | d :: _ =>
    if !d.isDigit then c.failAhead .badNumber
    else if d = '0' ∧ (c.next.rest.head?.any Char.isDigit) then c.next.failAhead .badNumber
    else
      let c := c.skipDigits
      match c.rest with
      | '.' :: _ =>
        let c := c.next
        if c.digits.isEmpty then c.failAhead .badNumber else c.skipDigits.skipAfterDigits
      | _ => c.skipAfterDigits

end Cursor

end AuthorNames.Json
