/-!
The text of a binary floating-point number: the fewest decimal digits that read back as the same
number, and of those the nearest. Numbers of ordinary size are written out with a point, very large
and very small ones with an exponent.
-/

namespace AuthorNames.Number

/-- A finite number that is not negative, as `significand * 2 ^ exponent`; `isEdge` if the next
smaller number is only half as far away as the next larger one. -/
structure Binary where
  significand : Nat
  exponent : Int
  isEdge : Bool
  deriving DecidableEq, Repr

/-- The parts of a number in the 64-bit format, less its sign. -/
def Binary.ofBits (bits : Nat) : Binary :=
  let fraction : Nat := bits % 0x10000000000000
  let exponent : Nat := bits / 0x10000000000000 % 0x800
  if exponent = 0 then ⟨fraction, -1074, false⟩
  else ⟨fraction + 0x10000000000000, (exponent : Int) - 1075, fraction = 0 ∧ 1 < exponent⟩

/-- Decimal digits, and the power of ten that the first one counts. -/
structure Decimal where
  digits : List Char
  exponent : Int
  deriving DecidableEq, Repr

/-- A power of a base, as a factor above or below a fraction's line. -/
def factors (base : Nat) (exponent : Int) : Nat × Nat :=
  if 0 ≤ exponent then (base.pow exponent.toNat, 1) else (1, base.pow (-exponent).toNat)

/-- The power of ten that the first digit of `above / below` counts. -/
def leadingExponent (above below : Nat) : Int :=
  if below ≤ above then ((Nat.toDigits 10 (above / below)).length : Int) - 1
  else
    let places := (Nat.toDigits 10 (below / above)).length
    if below ≤ above * Nat.pow 10 (places - 1) then 1 - (places : Int) else -(places : Int)

/-- The digits of a number on a grid of powers of ten, without the zeros at their end. -/
def onGrid (count : Nat) (exponent : Int) : Decimal :=
  let digits := Nat.toDigits 10 count
  ⟨(digits.reverse.dropWhile (· = '0')).reverse, exponent + (digits.length : Int) - 1⟩

/-- The nearest of the decimals of a number of digits that read back as `b`, if there is one. The
numbers that do lie within half the distance to the neighbours of `b`; those exactly half way do if
the significand is even. -/
def Binary.withDigits? (b : Binary) (count : Nat) : Option Decimal :=
  let (up, down) := factors 2 (b.exponent - 2)
  let value := 4 * b.significand * up
  let low := (4 * b.significand - (if b.isEdge then 1 else 2)) * up
  let high := (4 * b.significand + 2) * up
  let exponent := leadingExponent value down - (count : Int) + 1
  let (gridUp, gridDown) := factors 10 exponent
  let unit := gridUp * down
  let readsBack := fun k : Nat =>
    let point := k * unit
    let isEven := b.significand % 2 = 0
    if isEven then low * gridDown ≤ point ∧ point ≤ high * gridDown
    else low * gridDown < point ∧ point < high * gridDown
  let k := value * gridDown / unit
  let isUpperNearer := unit < 2 * (value * gridDown - k * unit)
  if readsBack k ∧ readsBack (k + 1) then some (onGrid (if isUpperNearer then k + 1 else k) exponent)
  else if readsBack k then some (onGrid k exponent)
  else if readsBack (k + 1) then some (onGrid (k + 1) exponent)
  else none

/-- The shortest decimal; seventeen digits always suffice. -/
def Binary.shortest (b : Binary) : Decimal :=
  ((List.range 17).findSome? fun i => b.withDigits? (i + 1)).getD ⟨['0'], 0⟩

/-- The least and the greatest power of ten at the first digit of a number that is written out. -/
def writtenOut : Int × Int :=
  (-5, 15)

/-- An exponent, with its sign and at least two digits. -/
def exponentText (exponent : Int) : List Char :=
  let digits := Nat.toDigits 10 exponent.natAbs
  (if exponent < 0 then '-' else '+') :: (if digits.length < 2 then '0' :: digits else digits)

/-- The text of a decimal; a whole number that is written out ends in `.0`. -/
def Decimal.text (d : Decimal) : List Char :=
  if d.exponent < writtenOut.1 ∨ writtenOut.2 < d.exponent then
    let fraction := d.digits.drop 1
    d.digits.take 1 ++ (if fraction.isEmpty then [] else '.' :: fraction) ++ 'e' :: exponentText d.exponent
  else if d.exponent < 0 then
    '0' :: '.' :: List.replicate (-d.exponent - 1).toNat '0' ++ d.digits
  else
    let whole := d.exponent.toNat + 1
    let fraction := d.digits.drop whole
    d.digits.take whole ++ List.replicate (whole - d.digits.length) '0' ++
      '.' :: (if fraction.isEmpty then ['0'] else fraction)

/-- The text of a finite number, zero with its sign. -/
def floatText (x : Float) : String :=
  let bits := x.toBits.toNat
  let magnitude := bits % 0x8000000000000000
  let sign := if magnitude < bits then ['-'] else []
  let text := if magnitude = 0 then ['0', '.', '0'] else (Binary.ofBits magnitude).shortest.text
  String.ofList (sign ++ text)

end AuthorNames.Number
